import DrMetrix.Lib.ConflictFree
import DrMetrix.Prometheus.Desc

/-! # The metric registry

A registry holds descriptors no two of which conflict. `register` adds one or
refuses it and leaves the registry alone.
-/

namespace DrMetrix.Prometheus

abbrev Registry := ConflictFree Desc.Conflicts

namespace Registry

def register (r : Registry) (d : Desc) : Except Error Registry :=
  match r.accept d with
  | some r' => .ok r'
  | none =>
      if r.members.any (·.id = d.id) then .error .alreadyReg
      else .error (.msg "same name with different label names or help string")

/-- Register a collector of several metrics, all of them or none. -/
def registerCollector (r : Registry) (ds : List Desc) : Except Error Registry :=
  match r.acceptAll ds with
  | (r', true) => .ok r'
  | (_, false) => .error .alreadyReg

def unregister (r : Registry) (d : Desc) : Registry := r.evict d

theorem register_ok {r r' : Registry} {d : Desc} :
    r.register d = .ok r' ↔ r.accept d = some r' := by
  unfold register
  cases r.accept d with
  | some s => simp
  | none => split_ifs <;> simp

/-- `register` fails exactly on a conflict with a registered descriptor. -/
theorem register_error_iff {r : Registry} {d : Desc} :
    (∃ e, r.register d = .error e) ↔ ∃ held ∈ r.members, held.Conflicts d := by
  have refused : (∃ e, r.register d = .error e) ↔ r.accept d = none := by
    unfold register
    cases r.accept d with
    | some s => simp
    | none => split_ifs <;> simp
  rw [refused, ConflictFree.accept_eq_none]
  simp only [ConflictFree.Fits, not_forall, not_not, exists_prop]

/-- Descriptors with distinct full names never stand in each other's way. -/
theorem independent_of_names {ds : List Desc} (distinct : (ds.map Desc.fqName).Nodup) :
    ConflictFree.Independent Desc.Conflicts ds := by
  refine List.Pairwise.imp ?_ (List.pairwise_map.mp distinct)
  intro d e differ conflict
  exact differ conflict.fqName_eq

end Registry

end DrMetrix.Prometheus
