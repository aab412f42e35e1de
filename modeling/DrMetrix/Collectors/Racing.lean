import DrMetrix.Collectors.Names
import DrMetrix.Lib.Admission

/-! # Concurrent registration

`register` takes the registry's lock for one metric at a time, so concurrent
calls interleave metric by metric. Calls for the same backend and namespace are
rivals, all others never meet.
-/

namespace DrMetrix

open Prometheus Axum Redis ConflictFree

variable {F : Type} [Binary64 F]

namespace Exporter

theorem BuiltIn.identities {ns : String} {e : Exporter F} (built : e.BuiltIn ns) :
    e.descs.map Desc.identity = e.names.map fun name => (qualifier e.subsystem ns ++ name, []) := by
  cases e with
  | http m => exact HttpMetrics.new_identities built
  | collector b =>
      obtain ⟨config, rfl, constructed⟩ := built
      exact constructed.identities

theorem BuiltIn.identity_at {ns : String} {e : Exporter F} (built : e.BuiltIn ns) {i : Nat} {d : Desc}
    (here : e.descs[i]? = some d) :
    ∃ name, e.names[i]? = some name ∧ d.identity = (qualifier e.subsystem ns ++ name, []) := by
  have known : (e.descs.map Desc.identity)[i]? = some d.identity := by simp [here]
  rw [built.identities, List.getElem?_map] at known
  obtain ⟨name, found, same⟩ := Option.map_eq_some_iff.mp known
  exact ⟨name, found, same.symm⟩

/-- Metrics of the same backend and namespace conflict place by place. -/
theorem BuiltIn.conflicts_iff {ns ns' : String} {e e' : Exporter F} (built : e.BuiltIn ns)
    (built' : e'.BuiltIn ns') {i j : Nat} {d d' : Desc} (here : e.descs[i]? = some d)
    (there : e'.descs[j]? = some d') :
    d.Conflicts d' ↔ (e.subsystem, ns) = (e'.subsystem, ns') ∧ i = j := by
  constructor
  · intro conflict
    obtain ⟨rfl, subsystems, rfl⟩ := built.field_unique built' here there conflict.fqName_eq
    exact ⟨by rw [subsystems], rfl⟩
  · rintro ⟨same, rfl⟩
    obtain ⟨subsystems, rfl⟩ := Prod.mk.inj same
    obtain ⟨name, at_i, identity⟩ := built.identity_at here
    obtain ⟨name', at_j, identity'⟩ := built'.identity_at there
    rw [← names_of_subsystem subsystems] at at_j
    obtain rfl := Option.some.inj (at_i.symm.trans at_j)
    rw [← subsystems, ← identity] at identity'
    obtain ⟨names, labels⟩ := Prod.mk.inj identity'
    exact .inl (by rw [Desc.id, Desc.id, names, labels])

/-- The claims of concurrent `register` calls, each with its namespace. -/
def claimsOf (es : List (String × Exporter F)) : List ((String × String) × List Desc) :=
  es.map fun e => ((e.2.subsystem, e.1), e.2.descs)

theorem rivalry {es : List (String × Exporter F)} (built : ∀ e ∈ es, e.2.BuiltIn e.1) (r : Registry) :
    Rivalry Desc.Conflicts (Race.start r (claimsOf es)).claims := by
  have origin : ∀ c ∈ (Race.start r (claimsOf es)).claims,
      ∃ e ∈ es, c = { key := (e.2.subsystem, e.1), candidates := e.2.descs } := by
    intro c member
    obtain ⟨entry, inside, rfl⟩ := List.mem_map.mp member
    obtain ⟨e, known, rfl⟩ := List.mem_map.mp inside
    exact ⟨e, known, rfl⟩
  intro c member d member' i j a b at_i at_j
  obtain ⟨e, known, rfl⟩ := origin c member
  obtain ⟨e', known', rfl⟩ := origin d member'
  exact (built e known).conflicts_iff (built e' known') at_i at_j

omit [Binary64 F] in
theorem descs_ne_nil (e : Exporter F) : e.descs ≠ [] := by
  cases e with
  | http m => exact List.cons_ne_nil _ _
  | collector b =>
      obtain ⟨first, rest, split⟩ := b.descs_split
      simp [descs, split]

end Exporter

/-- Any number of concurrent `register` calls which have all returned. Of the
    calls for one backend and namespace exactly one succeeded, the others failed
    and left nothing, and the registry has gained the metrics of the winners. -/
theorem registrations_race {es : List (String × Exporter F)} (built : ∀ e ∈ es, e.2.BuiltIn e.1)
    {r : Registry}
    (apart : ∀ d ∈ r.members, ∀ e ∈ es, ∀ d' ∈ e.2.descs, d.fqName ≠ d'.fqName) {tries : List Nat}
    {t : Race (String × String) Desc.Conflicts}
    (h : Transition.run Race.step (Race.start r (Exporter.claimsOf es)) tries = some t)
    (finished : t.Over) :
    (∀ e ∈ es, ∃! i, t.Wins (e.2.subsystem, e.1) i) ∧
      (∀ c ∈ t.claims, c.Complete ∨ c.refused = true ∧ c.entered = []) ∧
      ∀ d, d ∈ t.held.members ↔
        d ∈ r.members ∨ ∃ c ∈ t.claims, c.Complete ∧ d ∈ c.candidates := by
  have raced := Race.Raced.run (Exporter.rivalry built r) (by
    intro b held entry inside a candidate conflict
    obtain ⟨e, known, rfl⟩ := List.mem_map.mp inside
    exact apart b held e known a candidate conflict.fqName_eq) h
  have same : t.claims.map (fun c => (c.key, c.candidates)) = Exporter.claimsOf es := by
    rw [raced.same, Race.start, List.map_map]
    exact List.map_id' _
  have some_each : ∀ c ∈ t.claims, c.candidates ≠ [] := by
    intro c member
    have inside := List.mem_map_of_mem
      (f := fun c : Claim (String × String) Desc => (c.key, c.candidates)) member
    rw [same] at inside
    obtain ⟨e, -, split⟩ := List.mem_map.mp inside
    exact (Prod.mk.inj split).2 ▸ e.2.descs_ne_nil
  obtain ⟨each, winners⟩ := raced.decided finished some_each
  refine ⟨?_, each, ?_⟩
  · intro e known
    have inside : ((e.2.subsystem, e.1), e.2.descs) ∈ Exporter.claimsOf es :=
      List.mem_map_of_mem (f := fun e : String × Exporter F => ((e.2.subsystem, e.1), e.2.descs)) known
    rw [← same] at inside
    obtain ⟨c, member, split⟩ := List.mem_map.mp inside
    exact (Prod.mk.inj split).1 ▸ winners c member
  · intro d
    rw [raced.members]
    apply or_congr_right
    apply exists_congr
    intro c
    refine and_congr_right fun member => ?_
    rcases each c member with complete | ⟨refused, nothing⟩
    · rw [Claim.entered, complete.2, List.take_length]
      exact (and_iff_right complete).symm
    · simp [nothing, Claim.Complete, refused]

/-- Two calls for one collector, the second one of which comes first. -/
theorem registrations_race_twice : ∃ (m : RedisMetrics Exact) (tries : List Nat)
    (t : Race (String × String) Desc.Conflicts), RedisMetrics.new {} = .ok m ∧
      Transition.run Race.step (Race.start ∅ (Exporter.claimsOf
        [("", .collector (.redis m)), ("", .collector (.redis m))])) tries = some t ∧
      ∃! i, t.Wins ("redis", "") i := by
  obtain ⟨m, built, ends⟩ : ∃ m : RedisMetrics Exact, RedisMetrics.new {} = .ok m ∧
      ((Transition.run Race.step (Race.start ∅ (Exporter.claimsOf
        [("", .collector (.redis m)), ("", .collector (.redis m))]))
        ([1, 0] ++ List.replicate 14 1)).any fun t : Race (String × String) Desc.Conflicts =>
          decide t.Over) = true := by
    refine ⟨_, rfl, ?_⟩
    decide +kernel
  obtain ⟨t, ran, ended⟩ := (Option.any_eq_true _ _).mp ends
  have made : ∀ e ∈ [("", Exporter.collector (.redis m)), ("", .collector (.redis m))],
      e.2.BuiltIn e.1 := by
    simp only [List.forall_mem_cons, List.not_mem_nil, false_implies, implies_true, and_true]
    exact ⟨⟨_, rfl, built⟩, ⟨_, rfl, built⟩⟩
  have winners := (registrations_race made (fun d member => absurd member List.not_mem_nil) ran
    (of_decide_eq_true ended)).1
  exact ⟨m, _, t, built, ran, winners _ List.mem_cons_self⟩

end DrMetrix
