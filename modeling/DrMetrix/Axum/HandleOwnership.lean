import DrMetrix.Axum.State

/-! # Ownership of the loop handles

Spawning makes a handle which the calling `add_collector` holds until it pushes
it; a shutdown consumes every pushed handle by aborting its loop. So each loop
has been aborted, or is listed, or is in transit: exactly one of the three, and
exactly once.
-/

namespace DrMetrix.Axum

variable {F : Type}

namespace AddPhase

/-- Between spawn and push, with this handle. -/
def holds (t : Nat) : AddPhase → Bool
  | .pushing handle => handle == t
  | _ => false

/-- The loop which the call has spawned. -/
def handle? : AddPhase → Option Nat
  | .pushing handle | .counting handle | .added handle => some handle
  | _ => none

def counted : AddPhase → Bool
  | .added _ => true
  | _ => false

theorem handle?_of_holds {t : Nat} {phase : AddPhase} (h : phase.holds t = true) :
    phase.handle? = some t := by
  cases phase with
  | pushing handle => exact congrArg some (beq_iff_eq.mp h)
  | _ => cases h

end AddPhase

namespace PrometheusMetrics

/-- How often the handle is in the list. -/
def listed (p : PrometheusMetrics F) (t : Nat) : Nat := p.handles.countP fun h => h.2 == t

theorem abortAll_get (handles : List (String × Nat)) (loops : List CollectLoop) (t : Nat) :
    (abortAll handles loops)[t]? = loops[t]?.map fun l =>
      { l with aborts := l.aborts + handles.countP fun h => h.2 == t } := by
  induction handles generalizing loops with
  | nil =>
      change loops[t]? = loops[t]?.map fun l => l
      rw [Option.map_id']
  | cons h handles ih =>
      have first : abortAll (h :: handles) loops =
          abortAll handles (loops.modify h.2 CollectLoop.abort) := rfl
      rw [first, ih, List.getElem?_modify, List.countP_cons]
      cases loops[t]? with
      | none => simp
      | some l =>
          by_cases same : h.2 = t
          · simp [same, CollectLoop.abort]
            omega
          · simp [same]

theorem shutdown_of_empty {p : PrometheusMetrics F} (empty : p.handles = []) : p.shutdown = p := by
  cases p
  cases empty
  rfl

theorem abortAll_length (handles : List (String × Nat)) (loops : List CollectLoop) :
    (abortAll handles loops).length = loops.length := by
  induction handles generalizing loops with
  | nil => rfl
  | cons h handles ih => exact (ih _).trans (List.length_modify ..)

end PrometheusMetrics

/-! ## What a step does -/

/-- Everything a step can do, with the phase of a moving call before and after. -/
inductive ServerEffect (s : Server F) (a : ServerAction) (s' : Server F) : Prop where
  | began (collector : MetricsCollector) (interval : Nat) (action : a = .begin collector interval)
      (alive : s.dropped = false) (next : s' = s.begin collector interval)
  | registered (i : Nat) (call : AddCall) (action : a = .register i)
      (found : s.calls[i]? = some call) (source : call.phase = .registering) (phase : AddPhase)
      (target : phase = .spawning ∨ ∃ e, phase = .failed e) (registry : Prometheus.Registry)
      (next : s' = s.advance i call phase { s.metrics with registry })
  | spawned (i : Nat) (call : AddCall) (action : a = .spawn i) (found : s.calls[i]? = some call)
      (source : call.phase = .spawning)
      (next : s' = s.advance i call (.pushing s.metrics.loops.length)
        (s.metrics.spawnCollectLoop call.collector.name call.interval))
  | pushed (i : Nat) (call : AddCall) (action : a = .push i) (found : s.calls[i]? = some call)
      (handle : Nat) (source : call.phase = .pushing handle)
      (next : s' = s.advance i call (.counting handle)
        (s.metrics.pushHandle call.collector.name handle))
  | counted (i : Nat) (call : AddCall) (action : a = .count i) (found : s.calls[i]? = some call)
      (handle : Nat) (source : call.phase = .counting handle)
      (next : s' = s.advance i call (.added handle) s.metrics.countCollector)
  | shut (action : a = .shutdown) (alive : s.dropped = false)
      (next : s' = { s with metrics := s.metrics.shutdown })
  | terminated (t : Nat) (l : CollectLoop) (action : a = .terminate t)
      (found : s.metrics.loops[t]? = some l) (running : l.running = true)
      (next : s' = { s with metrics.loops := s.metrics.loops.set t { l with ended := true } })
  | dropped (action : a = .drop) (alive : s.dropped = false) (quiet : s.Quiet)
      (next : s' = { s with metrics := s.metrics.shutdown, dropped := true })

theorem Server.step_effect {s s' : Server F} {a : ServerAction} (h : s.step a = some s') :
    ServerEffect s a s' := by
  cases a with
  | begin collector interval =>
      simp only [step, Option.ite_none_left_eq_some, Bool.not_eq_true] at h
      exact .began collector interval rfl h.1 (Option.some.inj h.2).symm
  | register i =>
      obtain ⟨call, found, registered⟩ := Option.bind_eq_some_iff.mp h
      unfold register at registered
      split at registered
      · next source =>
          split at registered
          · next e registry _ =>
              exact .registered i call rfl found source (.failed e) (.inr ⟨e, rfl⟩) registry
                (Option.some.inj registered).symm
          · next registry _ =>
              exact .registered i call rfl found source .spawning (.inl rfl) registry
                (Option.some.inj registered).symm
      · cases registered
  | spawn i =>
      obtain ⟨call, found, spawned⟩ := Option.bind_eq_some_iff.mp h
      unfold spawn at spawned
      split at spawned
      · next source => exact .spawned i call rfl found source (Option.some.inj spawned).symm
      · cases spawned
  | push i =>
      obtain ⟨call, found, pushed⟩ := Option.bind_eq_some_iff.mp h
      unfold push at pushed
      split at pushed
      · next handle source =>
          exact .pushed i call rfl found handle source (Option.some.inj pushed).symm
      · cases pushed
  | count i =>
      obtain ⟨call, found, counted⟩ := Option.bind_eq_some_iff.mp h
      unfold count at counted
      split at counted
      · next handle source =>
          exact .counted i call rfl found handle source (Option.some.inj counted).symm
      · cases counted
  | shutdown =>
      simp only [step, Option.ite_none_left_eq_some, Bool.not_eq_true] at h
      exact .shut rfl h.1 (Option.some.inj h.2).symm
  | terminate t =>
      obtain ⟨l, found, terminated⟩ := Option.bind_eq_some_iff.mp h
      simp only [terminate, Option.ite_none_right_eq_some] at terminated
      exact .terminated t l rfl found terminated.1 (Option.some.inj terminated.2).symm
  | drop =>
      simp only [step, Option.ite_none_right_eq_some] at h
      exact .dropped rfl h.1.1 h.1.2 (Option.some.inj h.2).symm

/-! ## One owner at a time -/

/-- How many calls hold the handle between spawn and push. -/
def Server.inTransit (s : Server F) (t : Nat) : Nat :=
  s.calls.countP fun call => call.phase.holds t

theorem Server.inTransit_advance {s : Server F} {i : Nat} {call : AddCall}
    (found : s.calls[i]? = some call) (phase : AddPhase) (metrics : PrometheusMetrics F) (t : Nat) :
    (s.advance i call phase metrics).inTransit t + (call.phase.holds t).toNat =
      s.inTransit t + (phase.holds t).toNat :=
  Population.countP_replace (fun call : AddCall => call.phase.holds t) found { call with phase }

theorem PrometheusMetrics.listed_pushHandle (p : PrometheusMetrics F) (name : String)
    (handle t : Nat) : (p.pushHandle name handle).listed t = p.listed t + (handle == t).toNat :=
  Population.countP_join (fun h : String × Nat => h.2 == t) p.handles (name, handle)

structure Owned (s : Server F) : Prop where
  balance : ∀ t l, s.metrics.loops[t]? = some l →
    l.aborts + s.metrics.listed t + s.inTransit t = 1
  listed : ∀ h ∈ s.metrics.handles, h.2 < s.metrics.loops.length
  held : ∀ call ∈ s.calls, ∀ t, call.phase.handle? = some t → t < s.metrics.loops.length

/-- Every handle which a call spawned stays in range. -/
theorem Owned.held_advance {s : Server F} {i : Nat} {call : AddCall} {phase : AddPhase}
    {metrics : PrometheusMetrics F} (owned : Owned s)
    (grows : s.metrics.loops.length ≤ metrics.loops.length)
    (inside : ∀ t, phase.handle? = some t → t < metrics.loops.length) :
    ∀ c ∈ (s.advance i call phase metrics).calls, ∀ t, c.phase.handle? = some t →
      t < metrics.loops.length := by
  have before : ∀ c ∈ s.calls, ∀ t, c.phase.handle? = some t → t < metrics.loops.length :=
    fun c member t spawned => Nat.lt_of_lt_of_le (owned.held c member t spawned) grows
  exact Population.forall_replace before inside

/-- A move which neither takes nor gives up a handle. -/
theorem Owned.moved {s : Server F} {i : Nat} {call : AddCall} {phase : AddPhase}
    {metrics : PrometheusMetrics F} (owned : Owned s) (found : s.calls[i]? = some call)
    (same : ∀ t, phase.holds t = call.phase.holds t)
    (inside : ∀ t, phase.handle? = some t → t < s.metrics.loops.length)
    (handles : metrics.handles = s.metrics.handles) (loops : metrics.loops = s.metrics.loops) :
    Owned (s.advance i call phase metrics) := by
  refine ⟨?_, ?_, owned.held_advance (by rw [loops]) (by rwa [loops])⟩
  · intro t l at_t
    have transit := Server.inTransit_advance found phase metrics t
    have listed : metrics.listed t = s.metrics.listed t := by
      simp only [PrometheusMetrics.listed, handles]
    have before := owned.balance t l (loops ▸ at_t)
    change l.aborts + metrics.listed t + _ = 1
    rw [same t] at transit
    omega
  · change ∀ h ∈ metrics.handles, h.2 < metrics.loops.length
    rw [handles, loops]
    exact owned.listed

/-- The new loop is held by its caller, and nobody knew its handle before. -/
theorem Owned.spawned {s : Server F} {i : Nat} {call : AddCall} (owned : Owned s)
    (found : s.calls[i]? = some call) (source : call.phase = .spawning) :
    Owned (s.advance i call (.pushing s.metrics.loops.length)
      (s.metrics.spawnCollectLoop call.collector.name call.interval)) := by
  have longer : (s.metrics.spawnCollectLoop call.collector.name call.interval).loops.length =
      s.metrics.loops.length + 1 := List.length_append
  refine ⟨?_, ?_, owned.held_advance (by omega) ?_⟩
  · intro t l at_t
    have transit := Server.inTransit_advance found (.pushing s.metrics.loops.length)
      (s.metrics.spawnCollectLoop call.collector.name call.interval) t
    rw [source] at transit
    change (s.metrics.loops ++ [_])[t]? = some l at at_t
    change l.aborts + s.metrics.listed t + Server.inTransit _ t = 1
    by_cases old : t < s.metrics.loops.length
    · rw [List.getElem?_append_left old] at at_t
      have before := owned.balance t l at_t
      have other : (s.metrics.loops.length == t) = false := beq_eq_false_iff_ne.mpr (by omega)
      simp only [AddPhase.holds, other, Bool.toNat_false, Nat.add_zero] at transit
      omega
    · have new : t = s.metrics.loops.length := by
        have := (List.getElem?_eq_some_iff.mp at_t).1
        simp only [List.length_append, List.length_singleton] at this
        omega
      rw [List.getElem?_append_right (by omega)] at at_t
      obtain rfl := List.mem_singleton.mp (List.mem_of_getElem? at_t)
      have unlisted : s.metrics.listed t = 0 := by
        apply List.countP_eq_zero.mpr
        intro h member same
        have := owned.listed h member
        have := beq_iff_eq.mp same
        omega
      have free : s.inTransit t = 0 := by
        apply List.countP_eq_zero.mpr
        intro c member holds
        have := owned.held c member t (AddPhase.handle?_of_holds holds)
        omega
      simp only [AddPhase.holds, beq_iff_eq.mpr new.symm, Bool.toNat_true, Bool.toNat_false] at transit
      change 0 + s.metrics.listed t + Server.inTransit _ t = 1
      omega
  · intro h member
    have := owned.listed h member
    exact longer ▸ Nat.lt_succ_of_lt this
  · intro t spawned
    cases spawned
    omega

theorem Owned.pushed {s : Server F} {i : Nat} {call : AddCall} {handle : Nat} (owned : Owned s)
    (found : s.calls[i]? = some call) (source : call.phase = .pushing handle) :
    Owned (s.advance i call (.counting handle)
      (s.metrics.pushHandle call.collector.name handle)) := by
  have inside : handle < s.metrics.loops.length := by
    apply owned.held call (List.mem_of_getElem? found)
    rw [source]
    rfl
  refine ⟨?_, Population.forall_join owned.listed inside, owned.held_advance (Nat.le_refl _) ?_⟩
  · intro t l at_t
    have transit := Server.inTransit_advance found (.counting handle)
      (s.metrics.pushHandle call.collector.name handle) t
    have listed := s.metrics.listed_pushHandle call.collector.name handle t
    have before := owned.balance t l at_t
    simp only [source, AddPhase.holds, Bool.toNat_false, Nat.add_zero] at transit
    change l.aborts + (s.metrics.pushHandle call.collector.name handle).listed t + _ = 1
    omega
  · intro t spawned
    cases spawned
    exact inside

theorem Owned.shut {s : Server F} (owned : Owned s) (dropped : Bool) :
    Owned { s with metrics := s.metrics.shutdown, dropped } := by
  refine ⟨?_, ?_, ?_⟩
  · intro t l at_t
    change (PrometheusMetrics.abortAll s.metrics.handles s.metrics.loops)[t]? = some l at at_t
    rw [PrometheusMetrics.abortAll_get] at at_t
    obtain ⟨before, at_before, rfl⟩ := Option.map_eq_some_iff.mp at_t
    exact owned.balance t before at_before
  · intro h member
    cases member
  · change ∀ c ∈ s.calls, ∀ t, c.phase.handle? = some t →
      t < (PrometheusMetrics.abortAll s.metrics.handles s.metrics.loops).length
    rw [PrometheusMetrics.abortAll_length]
    exact owned.held

theorem Owned.step {s s' : Server F} {a : ServerAction} (owned : Owned s)
    (h : s.step a = some s') : Owned s' := by
  cases Server.step_effect h with
  | began collector interval _ _ next =>
      subst next
      refine ⟨?_, owned.listed, ?_⟩
      · intro t l at_t
        have transit : (s.begin collector interval).inTransit t = s.inTransit t :=
          Population.countP_join (fun call : AddCall => call.phase.holds t) s.calls _
        rw [transit]
        exact owned.balance t l at_t
      · apply Population.forall_join owned.held
        intro t none
        cases none
  | registered i call _ found source phase target registry next =>
      subst next
      refine owned.moved found ?_ ?_ rfl rfl
      · intro t
        rw [source]
        rcases target with rfl | ⟨e, rfl⟩ <;> rfl
      · intro t spawned
        rcases target with rfl | ⟨e, rfl⟩ <;> cases spawned
  | spawned i call _ found source next =>
      subst next
      exact owned.spawned found source
  | pushed i call _ found handle source next =>
      subst next
      exact owned.pushed found source
  | counted i call _ found handle source next =>
      subst next
      refine owned.moved found ?_ ?_ rfl rfl
      · intro t
        rw [source]
        rfl
      · intro t spawned
        apply owned.held call (List.mem_of_getElem? found)
        rw [source]
        exact spawned
  | shut _ _ next =>
      subst next
      exact owned.shut s.dropped
  | terminated t l _ found _ next =>
      subst next
      refine ⟨?_, ?_, ?_⟩
      · intro u k at_u
        change (s.metrics.loops.set t _)[u]? = some k at at_u
        rw [Population.getElem?_replace found] at at_u
        split at at_u
        · next here =>
            subst here
            cases at_u
            exact owned.balance t l found
        · exact owned.balance u k at_u
      · change ∀ h ∈ s.metrics.handles, h.2 < (s.metrics.loops.set t _).length
        rw [List.length_set]
        exact owned.listed
      · change ∀ c ∈ s.calls, ∀ u, c.phase.handle? = some u → u < (s.metrics.loops.set t _).length
        rw [List.length_set]
        exact owned.held
  | dropped _ _ _ next =>
      subst next
      exact owned.shut true

theorem Owned.run {registry : Prometheus.Registry} {http : HttpMetrics F}
    {as : List ServerAction} {s : Server F}
    (h : Transition.run Server.step (Server.start registry http) as = some s) : Owned s := by
  apply Transition.run_invariant (fun _ _ _ owned taken => Owned.step owned taken) _ h
  refine ⟨?_, ?_, ?_⟩ <;> simp [Server.start]

/-! ## No loop escapes -/

def ServerAction.spawns : ServerAction → Bool
  | .spawn _ => true
  | _ => false

def ServerAction.pushes : ServerAction → Bool
  | .push _ => true
  | _ => false

/-- Every loop was spawned by a step of the run. -/
theorem loops_spawned {registry : Prometheus.Registry} {http : HttpMetrics F}
    {as : List ServerAction} {s : Server F}
    (h : Transition.run Server.step (Server.start registry http) as = some s) :
    s.metrics.loops.length = as.countP ServerAction.spawns := by
  have keep : ∀ (as : List ServerAction) (s : Server F) (a : ServerAction) (s' : Server F),
      s.metrics.loops.length = as.countP ServerAction.spawns → s.step a = some s' →
        s'.metrics.loops.length = (as ++ [a]).countP ServerAction.spawns := by
    intro as s a s' before taken
    rw [Population.countP_join, ← before]
    cases Server.step_effect taken with
    | began _ _ action _ next | registered _ _ action _ _ _ _ _ next
    | pushed _ _ action _ _ _ next | counted _ _ action _ _ _ next =>
        subst action next
        rfl
    | spawned i call action found source next =>
        subst action next
        exact List.length_append
    | shut action _ next | dropped action _ _ next =>
        subst action next
        exact PrometheusMetrics.abortAll_length _ _
    | terminated t l action found _ next =>
        subst action next
        exact List.length_set
  exact Transition.run_history keep rfl h

/-- Once dropped, the state has no handle and no call in progress. -/
def Server.Drained (s : Server F) : Prop := s.dropped = true → s.metrics.handles = [] ∧ s.Quiet

theorem Server.Drained.step {s s' : Server F} {a : ServerAction} (drained : s.Drained)
    (h : s.step a = some s') : s'.Drained := by
  intro dropped
  -- A move of a call contradicts that none is in progress.
  have moves : ∀ {i : Nat} {call : AddCall}, s.calls[i]? = some call →
      call.phase.returned = false → s.dropped = true → False := by
    intro i call found busy dropped
    have returned := (drained dropped).2 call (List.mem_of_getElem? found)
    rw [busy] at returned
    cases returned
  cases Server.step_effect h with
  | began _ _ _ alive next =>
      subst next
      exact absurd dropped (Bool.not_eq_true _ ▸ alive)
  | registered i call _ found source phase _ _ next =>
      subst next
      exact (moves found (by rw [source]; rfl) dropped).elim
  | spawned i call _ found source next =>
      subst next
      exact (moves found (by rw [source]; rfl) dropped).elim
  | pushed i call _ found handle source next =>
      subst next
      exact (moves found (by rw [source]; rfl) dropped).elim
  | counted i call _ found handle source next =>
      subst next
      exact (moves found (by rw [source]; rfl) dropped).elim
  | shut _ alive next =>
      subst next
      exact absurd dropped (Bool.not_eq_true _ ▸ alive)
  | terminated t l _ found _ next =>
      subst next
      exact drained dropped
  | dropped _ _ quiet next =>
      subst next
      exact ⟨rfl, quiet⟩

theorem Server.Quiet.inTransit {s : Server F} (quiet : s.Quiet) (t : Nat) : s.inTransit t = 0 := by
  apply List.countP_eq_zero.mpr
  intro call called holds
  have returned := quiet call called
  cases phase : call.phase with
  | pushing handle =>
      rw [phase] at returned
      cases returned
  | _ =>
      rw [phase] at holds
      cases holds

/-- After Drop every loop is aborted, for good. -/
theorem dropped_aborted {registry : Prometheus.Registry} {http : HttpMetrics F}
    {as : List ServerAction} {s : Server F}
    (h : Transition.run Server.step (Server.start registry http) as = some s)
    (dropped : s.dropped = true) : ∀ l ∈ s.metrics.loops, l.aborts = 1 := by
  have initially : (Server.start registry http).Drained := by
    intro absent
    cases absent
  have drained : s.Drained :=
    Transition.run_invariant (fun _ _ _ drained taken => drained.step taken) initially h
  obtain ⟨unlisted, quiet⟩ := drained dropped
  intro l member
  obtain ⟨t, at_t⟩ := List.mem_iff_getElem?.mp member
  have balance := (Owned.run h).balance t l at_t
  have listed : s.metrics.listed t = 0 := by rw [PrometheusMetrics.listed, unlisted]; rfl
  have free := quiet.inTransit t
  omega

/-- While nothing is pushed, an empty handle list stays empty. -/
theorem handles_stay_empty {s s' : Server F} {as : List ServerAction}
    (noPush : ∀ a ∈ as, a.pushes = false) (empty : s.metrics.handles = [])
    (h : Transition.run Server.step s as = some s') : s'.metrics.handles = [] := by
  induction as generalizing s with
  | nil =>
      cases h
      exact empty
  | cons a as ih =>
      obtain ⟨u, taken, rest⟩ := Transition.run_cons_some.mp h
      obtain ⟨first, others⟩ := List.forall_mem_cons.mp noPush
      refine ih others ?_ rest
      cases Server.step_effect taken with
      | pushed i call action =>
          subst action
          cases first
      | began _ _ _ _ next | registered _ _ _ _ _ _ _ _ next | spawned _ _ _ _ _ next
      | counted _ _ _ _ _ _ next | terminated _ _ _ _ _ next =>
          subst next
          exact empty
      | shut _ _ next | dropped _ _ _ next =>
          subst next
          rfl

structure NoEscape (as : List ServerAction) (s : Server F) : Prop where
  /-- A loop which was not aborted is listed once, or in transit with one call. -/
  owned : ∀ t l, s.metrics.loops[t]? = some l → l.aborts = 0 →
    s.metrics.listed t = 1 ∧ s.inTransit t = 0 ∨ s.metrics.listed t = 0 ∧ s.inTransit t = 1
  once : ∀ l ∈ s.metrics.loops, l.aborts ≤ 1
  spawned : s.metrics.loops.length = as.countP ServerAction.spawns
  inside : ∀ h ∈ s.metrics.handles, h.2 < s.metrics.loops.length
  shutdown : ∀ s', s.step .shutdown = some s' → s'.metrics.handles = [] ∧
    ∀ t l, s'.metrics.loops[t]? = some l → l.aborts = 0 → s'.inTransit t = 1
  again : ∀ bs s' u v, s.step .shutdown = some s' → (∀ b ∈ bs, b.pushes = false) →
    Transition.run Server.step s' bs = some u → u.step .shutdown = some v → v = u
  dropped : s.dropped = true → ∀ l ∈ s.metrics.loops, l.aborts = 1

/-- For any interleaving of calls and shutdowns. -/
theorem no_loop_escapes {registry : Prometheus.Registry} {http : HttpMetrics F}
    {as : List ServerAction} {s : Server F}
    (h : Transition.run Server.step (Server.start registry http) as = some s) : NoEscape as s := by
  have owned := Owned.run h
  have shutting : ∀ {s s' : Server F}, s.step .shutdown = some s' →
      s' = { s with metrics := s.metrics.shutdown } := by
    intro s s' shut
    simp only [Server.step, Option.ite_none_left_eq_some] at shut
    exact (Option.some.inj shut.2).symm
  refine
    { owned := ?owned, once := ?once, spawned := loops_spawned h, inside := owned.listed,
      shutdown := ?shutdown, again := ?again, dropped := dropped_aborted h }
  case owned =>
    intro t l at_t fresh
    have := owned.balance t l at_t
    omega
  case once =>
    intro l member
    obtain ⟨t, at_t⟩ := List.mem_iff_getElem?.mp member
    have := owned.balance t l at_t
    omega
  case shutdown =>
    intro s' shut
    have owned' := owned.step shut
    obtain rfl := shutting shut
    refine ⟨rfl, ?_⟩
    intro t l at_t fresh
    have balance := owned'.balance t l at_t
    rw [fresh, Nat.zero_add] at balance
    exact (Nat.zero_add _).symm.trans balance
  case again =>
    intro bs s' u v shut noPush between second
    have empty : u.metrics.handles = [] := by
      apply handles_stay_empty noPush _ between
      rw [shutting shut]
      rfl
    rw [shutting second, PrometheusMetrics.shutdown_of_empty empty]

/-- A shutdown falls between spawn and push of the second call. -/
def shutdownInTransit : List ServerAction :=
  let collector : MetricsCollector := { name := "redis", register := registerAll [] }
  [.begin collector 15, .begin collector 0, .register 1, .spawn 1, .register 0, .spawn 0, .push 1,
    .shutdown, .push 0, .count 0, .count 1, .drop]

theorem no_loop_escapes_in_transit :
    ∃ (http : HttpMetrics Exact) (s : Server Exact), HttpMetrics.new "app" = .ok http ∧
      Transition.run Server.step (Server.start ∅ http) shutdownInTransit = some s ∧
        NoEscape shutdownInTransit s := by
  have built : HttpMetrics.new "app" = .ok (_ : HttpMetrics Exact) := rfl
  exact ⟨_, _, built, rfl, no_loop_escapes rfl⟩

end DrMetrix.Axum
