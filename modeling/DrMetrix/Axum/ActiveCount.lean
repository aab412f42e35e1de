import DrMetrix.Axum.HandleOwnership

/-! # The number of active collectors

The counter goes up with every addition and never down, so it counts the
additions. It is the number of running collectors as long as nothing stopped a
running loop.
-/

namespace DrMetrix.Axum

variable {F : Type}

/-- The collectors which an `Ok` addition started and whose loop still runs. -/
def Server.runningCollectors (s : Server F) : Nat :=
  s.calls.countP fun call =>
    match call.phase with
    | .added handle => (s.metrics.loops[handle]?).any CollectLoop.running
    | _ => false

/-- The step ends a running loop: it panics, or a shutdown finds it listed. -/
def Server.Stops (s : Server F) : ServerAction → Prop
  | .terminate _ => True
  | .shutdown | .drop =>
      ∃ h ∈ s.metrics.handles, ∃ l, s.metrics.loops[h.2]? = some l ∧ l.running = true
  | _ => False

/-- The counter counts the additions, and every loop belongs to a call. -/
structure Counted (s : Server F) : Prop where
  owned : Owned s
  count : s.metrics.collectorCount = s.calls.countP fun call => call.phase.counted
  claimed : ∀ t < s.metrics.loops.length, ∃ call ∈ s.calls, call.phase.handle? = some t

theorem Counted.moved {s : Server F} {i : Nat} {call : AddCall} {phase : AddPhase}
    {metrics : PrometheusMetrics F} (counted : Counted s) (found : s.calls[i]? = some call)
    (owned : Owned (s.advance i call phase metrics))
    (count : metrics.collectorCount + call.phase.counted.toNat =
      s.metrics.collectorCount + phase.counted.toNat)
    (keeps : ∀ t, call.phase.handle? = some t → phase.handle? = some t)
    (claims : ∀ t < metrics.loops.length,
      t < s.metrics.loops.length ∨ phase.handle? = some t) :
    Counted (s.advance i call phase metrics) := by
  have inside := (List.getElem?_eq_some_iff.mp found).1
  refine ⟨owned, ?_, ?_⟩
  · have balance : (s.calls.set i { call with phase }).countP (fun call => call.phase.counted) +
        call.phase.counted.toNat =
          s.calls.countP (fun call => call.phase.counted) + phase.counted.toNat :=
      Population.countP_replace (fun call : AddCall => call.phase.counted) found _
    have before := counted.count
    change metrics.collectorCount = (s.calls.set i { call with phase }).countP _
    omega
  · intro t bound
    have here : { call with phase } ∈ (s.advance i call phase metrics).calls :=
      List.mem_set inside _
    rcases claims t bound with old | new
    · obtain ⟨other, member, spawned⟩ := counted.claimed t old
      obtain ⟨j, at_j⟩ := List.mem_iff_getElem?.mp member
      by_cases same : i = j
      · subst same
        obtain rfl : call = other := Option.some.inj (found.symm.trans at_j)
        exact ⟨_, here, keeps t spawned⟩
      · have kept : (s.calls.set i { call with phase })[j]? = some other := by
          rw [List.getElem?_set_ne same]
          exact at_j
        exact ⟨other, List.mem_of_getElem? kept, spawned⟩
    · exact ⟨_, here, new⟩

theorem Counted.step {s s' : Server F} {a : ServerAction} (counted : Counted s)
    (h : s.step a = some s') : Counted s' := by
  have owned := counted.owned.step h
  have shutdown : s.metrics.shutdown.loops.length = s.metrics.loops.length :=
    PrometheusMetrics.abortAll_length _ _
  cases Server.step_effect h with
  | began collector interval _ _ next =>
      subst next
      refine ⟨owned, ?_, ?_⟩
      · have joined := Population.countP_join (fun call : AddCall => call.phase.counted) s.calls
          { collector, interval, phase := .registering }
        exact counted.count.trans joined.symm
      · intro t bound
        obtain ⟨call, member, spawned⟩ := counted.claimed t bound
        exact ⟨call, List.mem_append_left _ member, spawned⟩
  | registered i call _ found source phase target registry next =>
      subst next
      refine counted.moved found owned ?_ ?_ (fun t bound => .inl bound)
      · rw [source]
        rcases target with rfl | ⟨e, rfl⟩ <;> rfl
      · intro t spawned
        rw [source] at spawned
        cases spawned
  | spawned i call _ found source next =>
      subst next
      refine counted.moved found owned ?_ ?_ ?_
      · rw [source]
        rfl
      · intro t spawned
        rw [source] at spawned
        cases spawned
      · intro t bound
        have longer : (s.metrics.spawnCollectLoop call.collector.name call.interval).loops.length =
            s.metrics.loops.length + 1 := List.length_append
        by_cases new : t = s.metrics.loops.length
        · exact .inr (congrArg some new.symm)
        · exact .inl (by omega)
  | pushed i call _ found handle source next =>
      subst next
      refine counted.moved found owned ?_ ?_ (fun t bound => .inl bound)
      · rw [source]
        rfl
      · intro t spawned
        rw [source] at spawned
        exact spawned
  | counted i call _ found handle source next =>
      subst next
      refine counted.moved found owned ?_ ?_ (fun t bound => .inl bound)
      · rw [source]
        rfl
      · intro t spawned
        rw [source] at spawned
        exact spawned
  | shut _ _ next | dropped _ _ _ next =>
      subst next
      exact ⟨owned, counted.count, fun t bound => counted.claimed t (shutdown ▸ bound)⟩
  | terminated t l _ found _ next =>
      subst next
      refine ⟨owned, counted.count, ?_⟩
      intro u bound
      change u < (s.metrics.loops.set t _).length at bound
      rw [List.length_set] at bound
      exact counted.claimed u bound

theorem Counted.start (registry : Prometheus.Registry) (http : HttpMetrics F) :
    Counted (Server.start registry http) := by
  refine ⟨Owned.run (Transition.run_nil _), rfl, ?_⟩
  intro t bound
  cases bound

/-! ## What stops a loop -/

theorem CollectLoop.running_aborted (l : CollectLoop) (n : Nat) :
    ({ l with aborts := l.aborts + n } : CollectLoop).running = true ↔
      l.running = true ∧ n = 0 := by
  simp only [CollectLoop.running, Bool.and_eq_true, beq_iff_eq, Nat.add_eq_zero_iff]
  tauto

theorem PrometheusMetrics.running_shutdown (p : PrometheusMetrics F) :
    (∀ l ∈ p.shutdown.loops, l.running = true) ↔ (∀ l ∈ p.loops, l.running = true) ∧
      ¬ ∃ h ∈ p.handles, ∃ l, p.loops[h.2]? = some l ∧ l.running = true := by
  have after : ∀ (t : Nat) (l : CollectLoop), p.loops[t]? = some l →
      p.shutdown.loops[t]? = some { l with aborts := l.aborts + p.listed t } := by
    intro t l at_t
    have aborted := abortAll_get p.handles p.loops t
    rw [at_t] at aborted
    exact aborted
  constructor
  · intro all
    have both : ∀ t l, p.loops[t]? = some l → l.running = true ∧ p.listed t = 0 := by
      intro t l at_t
      have running := all _ (List.mem_of_getElem? (after t l at_t))
      exact (l.running_aborted (p.listed t)).mp running
    refine ⟨?_, ?_⟩
    · intro l member
      obtain ⟨t, at_t⟩ := List.mem_iff_getElem?.mp member
      exact (both t l at_t).1
    · rintro ⟨h, member, l, at_h, -⟩
      have unlisted := List.countP_eq_zero.mp (both h.2 l at_h).2 h member
      exact unlisted (beq_self_eq_true h.2)
  · rintro ⟨all, none⟩ l' member
    obtain ⟨t, at_t⟩ := List.mem_iff_getElem?.mp member
    have aborted := abortAll_get p.handles p.loops t
    obtain ⟨l, found, rfl⟩ := Option.map_eq_some_iff.mp (aborted.symm.trans at_t)
    have running := all l (List.mem_of_getElem? found)
    apply (l.running_aborted _).mpr ⟨running, ?_⟩
    apply List.countP_eq_zero.mpr
    intro h listed same
    obtain rfl := beq_iff_eq.mp same
    exact none ⟨h, listed, l, found, running⟩

/-- Nothing but a stopping step ends a running loop. -/
theorem Server.running_step {s s' : Server F} {a : ServerAction} (h : s.step a = some s') :
    (∀ l ∈ s'.metrics.loops, l.running = true) ↔
      (∀ l ∈ s.metrics.loops, l.running = true) ∧ ¬ s.Stops a := by
  cases Server.step_effect h with
  | began _ _ action _ next | registered _ _ action _ _ _ _ _ next
  | pushed _ _ action _ _ _ next | counted _ _ action _ _ _ next =>
      subst action next
      exact (and_iff_left id).symm
  | spawned i call action _ source next =>
      subst action next
      have new : ∀ l ∈ [({ collector := call.collector.name, interval := call.interval } :
          CollectLoop)], l.running = true := by simp [CollectLoop.running]
      refine Iff.trans List.forall_mem_append ?_
      exact (and_iff_left new).trans (and_iff_left id).symm
  | shut action _ next | dropped action _ _ next =>
      subst action next
      exact s.metrics.running_shutdown
  | terminated t l action found running next =>
      subst action next
      refine iff_of_false ?_ (fun both => both.2 trivial)
      intro all
      have ended := all { l with ended := true }
        (List.mem_set (List.getElem?_eq_some_iff.mp found).1 _)
      simp [CollectLoop.running] at ended

/-- With no call in progress, counting is exact exactly while all loops run. -/
theorem Counted.exact_quiet {s : Server F} (counted : Counted s) (quiet : s.Quiet) :
    s.metrics.collectorCount = s.runningCollectors ↔ ∀ l ∈ s.metrics.loops, l.running = true := by
  rw [counted.count, Server.runningCollectors, Population.countP_eq_iff]
  · constructor
    · intro each l member
      obtain ⟨t, at_t⟩ := List.mem_iff_getElem?.mp member
      obtain ⟨call, called, spawned⟩ := counted.claimed t (List.getElem?_eq_some_iff.mp at_t).1
      have returned := quiet call called
      have runs := each call called
      cases phase : call.phase with
      | added handle =>
          rw [phase] at spawned runs
          cases spawned
          simpa only [at_t, Option.any_some] using runs rfl
      | failed e =>
          rw [phase] at spawned
          cases spawned
      | registering | spawning | pushing | counting =>
          rw [phase] at returned
          cases returned
    · intro all call called isAdded
      cases phase : call.phase with
      | added handle =>
          have bound := counted.owned.held call called handle (by rw [phase]; rfl)
          obtain ⟨l, at_handle⟩ : ∃ l, s.metrics.loops[handle]? = some l :=
            ⟨_, List.getElem?_eq_getElem bound⟩
          simpa only [at_handle, Option.any_some] using all l (List.mem_of_getElem? at_handle)
      | registering | spawning | pushing | counting | failed =>
          rw [phase] at isAdded
          cases isAdded
  · intro call _ runs
    cases phase : call.phase with
    | added handle => rfl
    | registering | spawning | pushing | counting | failed =>
        rw [phase] at runs
        cases runs

/-- The count of active collectors is truthful exactly in the runs in which no
    step stopped a running loop. -/
theorem collectorCount_exact_iff {registry : Prometheus.Registry} {http : HttpMetrics F}
    {as : List ServerAction} {s : Server F}
    (h : Transition.run Server.step (Server.start registry http) as = some s) (quiet : s.Quiet) :
    s.metrics.collectorCount = s.runningCollectors ↔
      Transition.StepsMeet Server.step (fun s a => ¬ s.Stops a) (Server.start registry http) as := by
  have counted : Counted s :=
    Transition.run_invariant (fun _ _ _ counted taken => Counted.step counted taken)
      (.start registry http) h
  have initially : ∀ l ∈ (Server.start registry http).metrics.loops, l.running = true := by
    intro l none
    cases none
  have exactly : (∀ l ∈ s.metrics.loops, l.running = true) ↔ _ :=
    Transition.run_iff (fun _ _ _ _ _ => trivial)
      (fun _ _ _ (_ : True) taken => Server.running_step taken) trivial h
  rw [counted.exact_quiet quiet, exactly]
  exact and_iff_right initially

/-- One collector is added, without interruption. -/
def oneAddition : List ServerAction :=
  [.begin { name := "redis", register := registerAll [] } 15, .register 0, .spawn 0, .push 0,
    .count 0]

theorem collectorCount_exact_added :
    ∃ (http : HttpMetrics Exact) (s : Server Exact), HttpMetrics.new "app" = .ok http ∧
      Transition.run Server.step (Server.start ∅ http) oneAddition = some s ∧ s.Quiet ∧
        s.metrics.collectorCount = s.runningCollectors := by
  have built : HttpMetrics.new "app" = .ok (_ : HttpMetrics Exact) := rfl
  have reached : ∀ http : HttpMetrics Exact,
      Transition.run Server.step (Server.start ∅ http) oneAddition = some _ := fun _ => rfl
  have harmless : ∀ a ∈ oneAddition, ∀ s : Server Exact, ¬ s.Stops a := by
    intro a member s
    simp only [oneAddition, List.mem_cons, List.not_mem_nil, or_false] at member
    rcases member with rfl | rfl | rfl | rfl | rfl <;> exact id
  refine ⟨_, _, built, reached _, by decide, ?_⟩
  apply (collectorCount_exact_iff (reached _) (by decide)).mpr
  exact Transition.stepsMeet_of_forall harmless _

/-- After a shutdown the count still says one. -/
theorem collectorCount_exact_fails :
    ∃ (http : HttpMetrics Exact) (s : Server Exact), HttpMetrics.new "app" = .ok http ∧
      Transition.run Server.step (Server.start ∅ http) (oneAddition ++ [.shutdown]) = some s ∧
        s.Quiet ∧ s.metrics.collectorCount = 1 ∧ s.runningCollectors = 0 := by
  have built : HttpMetrics.new "app" = .ok (_ : HttpMetrics Exact) := rfl
  refine ⟨_, _, built, rfl, ?_, rfl, rfl⟩
  decide

end DrMetrix.Axum
