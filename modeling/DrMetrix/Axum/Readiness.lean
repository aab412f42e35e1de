import DrMetrix.Axum.Layer

/-! # Readiness of the wrapped service

`poll_ready` asks the instance a service holds, but `call` moves a fresh clone of
it into the future and calls that one. So the reserved instance is never called
and the called one was never asked, in every run with a call.
-/

namespace DrMetrix.Axum

variable {F : Type}

/-- The inner instances which were cloned into futures. -/
def System.clones (s : System F) : List Nat := s.futures.map fun f => f.svc

/-- Tower's contract toward the middleware: `call` only after a `Ready(Ok)` of
    the same instance which no other call has used up. -/
def System.Obeys (s : System F) : Action → Prop
  | .call m _ _ => ∀ svc, s.services[m]? = some svc → svc.ready = true
  | _ => True

/-- Tower's contract toward the inner service: only ready instances are called,
    and a ready instance is held by the service whose `poll_ready` reserved it, or
    by a future which will call it. -/
def System.ReadinessKept (s : System F) : Prop :=
  (∀ c ∈ s.innerCalls, c.ready = true) ∧
    ∀ id, s.inner[id]? = some true →
      (∃ svc ∈ s.services, svc.inner = id ∧ svc.ready = true) ∨ id ∈ s.clones

def Action.isCall : Action → Bool
  | .call .. => true
  | _ => false

/-! ## Who holds which instance -/

/-- Services hold instances of their own, and the clones in futures are never
    ready. -/
structure Wired (s : System F) : Prop where
  inside : ∀ svc ∈ s.services, svc.inner < s.inner.length
  distinct : (s.services.map fun svc => svc.inner).Nodup
  reserved : ∀ svc ∈ s.services, svc.ready = true → s.inner[svc.inner]? = some true
  apart : ∀ svc ∈ s.services, svc.inner ∉ s.clones
  unready : ∀ id ∈ s.clones, s.inner[id]? = some false
  refused : ∀ c ∈ s.innerCalls, c.ready = false

theorem Wired.cloned {s : System F} (wired : Wired s) : ∀ id ∈ s.clones, id < s.inner.length := by
  intro id clone
  exact (List.getElem?_eq_some_iff.mp (wired.unready id clone)).1

/-! One lemma for each way to rewire. -/

theorem Wired.added {s s' : System F} (wired : Wired s) (inner : s'.inner = s.inner ++ [false])
    (services : s'.services = s.services ++ [{ inner := s.inner.length, ready := false }])
    (clones : s'.clones = s.clones) (innerCalls : s'.innerCalls = s.innerCalls) : Wired s' := by
  refine ⟨?_, ?_, ?_, ?_, ?_, ?_⟩
  · rw [services, inner, List.length_append, List.length_singleton]
    apply Population.forall_join
    · intro svc member
      exact Nat.lt_succ_of_lt (wired.inside svc member)
    · exact Nat.lt_succ_self _
  · rw [services, List.map_append]
    apply List.nodup_append.mpr ⟨wired.distinct, List.nodup_singleton _, ?_⟩
    intro id old other new same
    obtain ⟨svc, member, rfl⟩ := List.mem_map.mp old
    have fresh : other = s.inner.length := by simpa using new
    have := wired.inside svc member
    omega
  · rw [services, inner]
    apply Population.forall_join
    · intro svc member ready
      exact Population.getElem?_join (wired.reserved svc member ready)
    · intro ready
      cases ready
  · rw [services, clones]
    apply Population.forall_join wired.apart
    intro clone
    exact Nat.lt_irrefl _ (wired.cloned _ clone)
  · rw [clones, inner]
    intro id clone
    exact Population.getElem?_join (wired.unready id clone)
  · rw [innerCalls]
    exact wired.refused

theorem Wired.readied {s s' : System F} {m : Nat} {svc : ServiceInstance} (wired : Wired s)
    (found : s.services[m]? = some svc) (inner : s'.inner = s.inner.set svc.inner true)
    (services : s'.services = s.services.set m { svc with ready := true })
    (clones : s'.clones = s.clones) (innerCalls : s'.innerCalls = s.innerCalls) : Wired s' := by
  have held : svc ∈ s.services := List.mem_of_getElem? found
  have inside := wired.inside svc held
  refine ⟨?_, ?_, ?_, ?_, ?_, ?_⟩
  · rw [services, inner, List.length_set]
    exact Population.forall_replace wired.inside inside
  · rw [services, Population.map_replace (fun svc => svc.inner) found _ (by rfl)]
    exact wired.distinct
  · rw [services, inner]
    apply Population.forall_replace
    · intro other member ready
      rw [List.getElem?_set]
      split
      · rfl
      · exact wired.reserved other member ready
    · intro _
      exact List.getElem?_set_self inside
  · rw [services, clones]
    exact Population.forall_replace wired.apart (wired.apart svc held)
  · rw [clones, inner]
    intro id clone
    have other : svc.inner ≠ id := by
      rintro rfl
      exact wired.apart svc held clone
    rw [List.getElem?_set_ne other]
    exact wired.unready id clone
  · rw [innerCalls]
    exact wired.refused

theorem Wired.called {s s' : System F} {m : Nat} {svc : ServiceInstance} (wired : Wired s)
    (found : s.services[m]? = some svc) (inner : s'.inner = s.inner ++ [false])
    (services : s'.services = s.services.set m { svc with ready := false })
    (clones : s'.clones = s.clones ++ [s.inner.length])
    (innerCalls : s'.innerCalls = s.innerCalls) : Wired s' := by
  have held : svc ∈ s.services := List.mem_of_getElem? found
  refine ⟨?_, ?_, ?_, ?_, ?_, ?_⟩
  · rw [services, inner, List.length_append, List.length_singleton]
    apply Population.forall_replace
    · intro other member
      exact Nat.lt_succ_of_lt (wired.inside other member)
    · exact Nat.lt_succ_of_lt (wired.inside svc held)
  · rw [services, Population.map_replace (fun svc => svc.inner) found _ (by rfl)]
    exact wired.distinct
  · rw [services, inner]
    apply Population.forall_replace
    · intro other member ready
      exact Population.getElem?_join (wired.reserved other member ready)
    · intro ready
      cases ready
  · rw [services, clones]
    have fresh : ∀ other ∈ s.services, other.inner ∉ s.clones ++ [s.inner.length] := by
      intro other member clone
      rcases List.mem_append.mp clone with old | new
      · exact wired.apart other member old
      · have := wired.inside other member
        have := List.mem_singleton.mp new
        omega
    exact Population.forall_replace fresh (fresh svc held)
  · rw [clones, inner]
    apply Population.forall_join
    · intro id clone
      exact Population.getElem?_join (wired.unready id clone)
    · exact List.getElem?_concat_length
  · rw [innerCalls]
    exact wired.refused

theorem Wired.invoked {s s' : System F} {id : Nat} (wired : Wired s) (clone : id ∈ s.clones)
    (inner : s'.inner = s.inner.set id false) (services : s'.services = s.services)
    (clones : s'.clones = s.clones)
    (innerCalls : s'.innerCalls =
      s.innerCalls ++ [{ svc := id, ready := s.inner.getD id false }]) : Wired s' := by
  refine ⟨?_, ?_, ?_, ?_, ?_, ?_⟩
  · rw [services, inner, List.length_set]
    exact wired.inside
  · rw [services]
    exact wired.distinct
  · rw [services, inner]
    intro svc member ready
    have other : id ≠ svc.inner := by
      rintro rfl
      exact wired.apart svc member clone
    rw [List.getElem?_set_ne other]
    exact wired.reserved svc member ready
  · rw [services, clones]
    exact wired.apart
  · rw [clones, inner]
    intro other member
    rw [List.getElem?_set]
    split
    · rw [if_pos (wired.cloned id clone)]
    · exact wired.unready other member
  · rw [innerCalls]
    apply Population.forall_join wired.refused
    simp only [List.getD_eq_getElem?_getD, wired.unready id clone, Option.getD_some]

section
variable [Binary64 F] [Prometheus.LabelKey]

/-- Everything a step can do to the service instances. -/
inductive Rewiring (s : System F) (a : Action) (s' : System F) : Prop where
  | kept (action : a.isCall = false) (inner : s'.inner = s.inner)
      (services : s'.services = s.services) (clones : s'.clones = s.clones)
      (innerCalls : s'.innerCalls = s.innerCalls)
  | added (action : a.isCall = false) (inner : s'.inner = s.inner ++ [false])
      (services : s'.services = s.services ++ [{ inner := s.inner.length, ready := false }])
      (clones : s'.clones = s.clones) (innerCalls : s'.innerCalls = s.innerCalls)
  | readied (action : a.isCall = false) (m : Nat) (svc : ServiceInstance)
      (found : s.services[m]? = some svc) (inner : s'.inner = s.inner.set svc.inner true)
      (services : s'.services = s.services.set m { svc with ready := true })
      (clones : s'.clones = s.clones) (innerCalls : s'.innerCalls = s.innerCalls)
  | called (m : Nat) (request : Request) (now : Nat) (action : a = .call m request now)
      (svc : ServiceInstance) (found : s.services[m]? = some svc)
      (inner : s'.inner = s.inner ++ [false])
      (services : s'.services = s.services.set m { svc with ready := false })
      (clones : s'.clones = s.clones ++ [s.inner.length])
      (innerCalls : s'.innerCalls = s.innerCalls)
  | invoked (action : a.isCall = false) (id : Nat) (clone : id ∈ s.clones)
      (inner : s'.inner = s.inner.set id false) (services : s'.services = s.services)
      (clones : s'.clones = s.clones)
      (innerCalls : s'.innerCalls = s.innerCalls ++ [{ svc := id, ready := s.inner.getD id false }])

theorem System.step_rewiring {s s' : System F} {a : Action} (h : s.step a = some s') :
    Rewiring s a s' := by
  have moved : ∀ {i : Nat} {f : CallFuture F} (state : FutureState F), s.futures[i]? = some f →
      (s.setState i f state).clones = s.clones := by
    intro i f state found
    exact Population.map_replace (fun f => f.svc) found { f with state } rfl
  cases a with
  | layer =>
      cases h
      exact .added rfl rfl rfl rfl rfl
  | scrape =>
      cases h
      exact .kept rfl rfl rfl rfl rfl
  | clone m =>
      obtain ⟨svc, -, rfl⟩ := Option.map_eq_some_iff.mp h
      exact .added rfl rfl rfl rfl rfl
  | pollReady m answer =>
      obtain ⟨svc, found, rfl⟩ := Option.map_eq_some_iff.mp h
      cases answer with
      | pending | readyErr => exact .kept rfl rfl rfl rfl rfl
      | readyOk => exact .readied rfl m svc found rfl rfl rfl rfl
  | call m request now =>
      obtain ⟨svc, found, rfl⟩ := Option.map_eq_some_iff.mp h
      refine .called m request now rfl svc found rfl rfl ?_ rfl
      exact List.map_append
  | poll i now answer =>
      obtain ⟨f, found, polled⟩ := Option.bind_eq_some_iff.mp h
      unfold System.poll at polled
      split at polled
      · cases polled
        have clone : f.svc ∈ s.clones := List.mem_map_of_mem (List.mem_of_getElem? found)
        exact .invoked rfl f.svc clone rfl rfl (moved _ found) rfl
      · cases polled
        exact .kept rfl rfl rfl (moved _ found) rfl
      · cases polled
  | update i =>
      obtain ⟨f, found, updated⟩ := Option.bind_eq_some_iff.mp h
      unfold System.update at updated
      split at updated
      · cases updated
        exact .kept rfl rfl rfl (moved _ found) rfl
      · cases updated
  | drop i =>
      obtain ⟨f, found, dropped⟩ := Option.bind_eq_some_iff.mp h
      unfold System.drop at dropped
      split at dropped
      · cases dropped
        exact .kept rfl rfl rfl (moved _ found) rfl
      · cases dropped
        exact .kept rfl rfl rfl (moved _ found) rfl
      · cases dropped

theorem Wired.step {s s' : System F} {a : Action} (wired : Wired s) (h : s.step a = some s') :
    Wired s' := by
  cases System.step_rewiring h with
  | kept _ inner services clones innerCalls =>
      obtain ⟨inside, distinct, reserved, apart, unready, refused⟩ := wired
      constructor <;> simp only [inner, services, clones, innerCalls] <;> assumption
  | added _ inner services clones innerCalls =>
      exact wired.added inner services clones innerCalls
  | readied _ m svc found inner services clones innerCalls =>
      exact wired.readied found inner services clones innerCalls
  | called m request now _ svc found inner services clones innerCalls =>
      exact wired.called found inner services clones innerCalls
  | invoked _ id clone inner services clones innerCalls =>
      exact wired.invoked clone inner services clones innerCalls

theorem Wired.run {m : HttpMetrics F} {as : List Action} {s : System F}
    (h : Transition.run System.step (System.start m) as = some s) : Wired s := by
  apply Transition.run_invariant (fun _ _ _ wired taken => Wired.step wired taken) _ h
  constructor <;> simp [System.start, System.clones]

/-- No inner instance is ever called ready. -/
theorem innerCalls_unready {m : HttpMetrics F} {as : List Action} {s : System F}
    (h : Transition.run System.step (System.start m) as = some s) :
    ∀ c ∈ s.innerCalls, c.ready = false :=
  (Wired.run h).refused

/-! ## When the contract is kept -/

/-- A call of the caller leaves its reserved instance behind. -/
theorem Wired.call_strands {s s' : System F} {m now : Nat} {request : Request} (wired : Wired s)
    (obeyed : s.Obeys (.call m request now)) (h : s.step (.call m request now) = some s') :
    ¬ s'.ReadinessKept := by
  intro ⟨_, held⟩
  obtain ⟨svc, found, rfl⟩ := Option.map_eq_some_iff.mp h
  have member : svc ∈ s.services := List.mem_of_getElem? found
  have reserved := wired.reserved svc member (obeyed svc found)
  have stranded : (s.inner ++ [false])[svc.inner]? = some true := by
    rw [List.getElem?_append_left (wired.inside svc member)]
    exact reserved
  have clones : (s.call m svc request now).clones = s.clones ++ [s.inner.length] :=
    List.map_append
  have notCloned : svc.inner ∉ (s.call m svc request now).clones := by
    rw [clones, List.mem_append, List.mem_singleton, not_or]
    exact ⟨wired.apart svc member, Nat.ne_of_lt (wired.inside svc member)⟩
  obtain ⟨owner, owned, same, ready⟩ := (held svc.inner stranded).resolve_right notCloned
  obtain ⟨j, at_j⟩ := List.mem_iff_getElem?.mp owned
  change (s.services.set m { svc with ready := false })[j]? = some owner at at_j
  rw [Population.getElem?_replace found] at at_j
  split at at_j
  · cases at_j
    cases ready
  · next other =>
      apply other
      have inside : m < (s.services.map fun svc => svc.inner).length := by
        rw [List.length_map]
        exact (List.getElem?_eq_some_iff.mp found).1
      apply (List.getElem?_inj inside wired.distinct).mp
      rw [List.getElem?_map, List.getElem?_map, found, at_j, Option.map_some, Option.map_some, same]

/-- Without a call, every ready instance is held by a ready service. -/
structure Idle (s : System F) : Prop where
  clones : s.clones = []
  innerCalls : s.innerCalls = []
  held : ∀ id, s.inner[id]? = some true → ∃ svc ∈ s.services, svc.inner = id ∧ svc.ready = true

theorem Idle.step {s s' : System F} {a : Action} (idle : Idle s) (action : a.isCall = false)
    (h : s.step a = some s') : Idle s' := by
  obtain ⟨noClone, noInnerCall, held⟩ := idle
  cases System.step_rewiring h with
  | kept _ inner services clones innerCalls =>
      constructor <;> simp only [inner, services, clones, innerCalls] <;> assumption
  | added _ inner services clones innerCalls =>
      refine ⟨clones.trans noClone, innerCalls.trans noInnerCall, ?_⟩
      intro id ready
      rw [inner] at ready
      rw [services]
      by_cases old : id < s.inner.length
      · rw [List.getElem?_append_left old] at ready
        obtain ⟨owner, owned, same⟩ := held id ready
        exact ⟨owner, List.mem_append_left _ owned, same⟩
      · rw [List.getElem?_append_right (by omega)] at ready
        cases List.mem_singleton.mp (List.mem_of_getElem? ready)
  | readied _ m svc found inner services clones innerCalls =>
      refine ⟨clones.trans noClone, innerCalls.trans noInnerCall, ?_⟩
      intro id ready
      rw [inner] at ready
      rw [services]
      have inside := (List.getElem?_eq_some_iff.mp found).1
      have renewed : { svc with ready := true } ∈ s.services.set m { svc with ready := true } :=
        List.mem_set inside _
      by_cases here : svc.inner = id
      · exact ⟨_, renewed, here, rfl⟩
      · rw [List.getElem?_set_ne here] at ready
        obtain ⟨owner, owned, same, reserved⟩ := held id ready
        obtain ⟨j, at_j⟩ := List.mem_iff_getElem?.mp owned
        by_cases moved : m = j
        · subst moved
          obtain rfl : svc = owner := Option.some.inj (found.symm.trans at_j)
          exact absurd same here
        · have kept : (s.services.set m { svc with ready := true })[j]? = some owner := by
            rw [List.getElem?_set_ne moved]
            exact at_j
          exact ⟨owner, List.mem_of_getElem? kept, same, reserved⟩
  | called m request now call =>
      rw [call] at action
      cases action
  | invoked _ id clone =>
      rw [noClone] at clone
      cases clone

theorem Idle.run {m : HttpMetrics F} {as : List Action} {s : System F}
    (noCall : ∀ a ∈ as, a.isCall = false)
    (h : Transition.run System.step (System.start m) as = some s) : Idle s := by
  have keep : ∀ (as : List Action) (s : System F) (a : Action) (s' : System F),
      ((∀ b ∈ as, b.isCall = false) → Idle s) → s.step a = some s' →
        (∀ b ∈ as ++ [a], b.isCall = false) → Idle s' := by
    intro as s a s' idle taken quiet
    obtain ⟨earlier, last⟩ := List.forall_mem_append.mp quiet
    exact (idle earlier).step (last a (List.mem_singleton_self a)) taken
  apply Transition.run_history keep _ h noCall
  intro _
  refine ⟨rfl, rfl, ?_⟩
  intro id ready
  cases ready

/-- For callers which obey Tower's contract, the middleware keeps it toward the
    inner service exactly in the runs without a call. -/
theorem readiness_kept_iff {m : HttpMetrics F} {as : List Action} {s : System F}
    (h : Transition.run System.step (System.start m) as = some s)
    (contract : Transition.StepsMeet System.step System.Obeys (System.start m) as) :
    (∀ t, Transition.Visits System.step (System.start m) as t → t.ReadinessKept) ↔
      ∀ a ∈ as, a.isCall = false := by
  constructor
  · intro kept a member
    cases a with
    | call service request now =>
        obtain ⟨pre, post, rfl⟩ := List.append_of_mem member
        obtain ⟨u, v, before, taken, -⟩ := Transition.run_split h
        have obeyed := contract.middle before
        have stranded := (Wired.run before).call_strands obeyed taken
        exact absurd (kept v (Transition.Visits.around before taken).2) stranded
    | _ => rfl
  · rintro noCall t ⟨pre, isPrefix, reached⟩
    have idle := Idle.run (fun a member => noCall a (isPrefix.subset member)) reached
    refine ⟨?_, fun id reserved => .inl (idle.held id reserved)⟩
    rw [idle.innerCalls]
    intro c none
    cases none

end

section
attribute [local instance] Prometheus.LabelKey.tuples

/-- The caller asks again and again, and nothing else happens. -/
theorem readiness_kept_asking :
    ∃ m : HttpMetrics Exact, HttpMetrics.new "" = .ok m ∧
      ∀ t, Transition.Visits System.step (System.start m)
        [.layer, .pollReady 0 .pending, .pollReady 0 .readyOk] t → t.ReadinessKept := by
  refine ⟨_, rfl, (readiness_kept_iff rfl ?_).mpr (by decide)⟩
  refine ⟨trivial, fun _ _ => ⟨trivial, fun _ _ => ⟨trivial, fun _ _ => trivial⟩⟩⟩

/-- One obedient request: its clone is called unready, and the reserved instance
    stays reserved without a holder. -/
theorem readiness_lost :
    ∃ (m : HttpMetrics Exact) (s : System Exact), HttpMetrics.new "" = .ok m ∧
      Transition.StepsMeet System.step System.Obeys (System.start m)
        [.layer, .pollReady 0 .readyOk, .call 0 ⟨"GET", none, "/"⟩ 0, .poll 0 1 .pending] ∧
      Transition.run System.step (System.start m)
        [.layer, .pollReady 0 .readyOk, .call 0 ⟨"GET", none, "/"⟩ 0, .poll 0 1 .pending] = some s ∧
      s.innerCalls = [{ svc := 1, ready := false }] ∧ s.inner = [true, false] ∧
      s.services = [{ inner := 0, ready := false }] ∧ ¬ s.ReadinessKept := by
  refine ⟨_, _, rfl, ?contract, rfl, rfl, rfl, rfl, ?lost⟩
  case contract =>
    refine ⟨trivial, ?_⟩
    rintro _ ⟨⟩
    refine ⟨trivial, ?_⟩
    rintro _ ⟨⟩
    refine ⟨?_, ?_⟩
    · rintro svc ⟨⟩
      rfl
    · rintro _ ⟨⟩
      exact ⟨trivial, fun _ _ => trivial⟩
  case lost =>
    rintro ⟨called, -⟩
    cases called _ (List.mem_singleton_self _)

end

end DrMetrix.Axum
