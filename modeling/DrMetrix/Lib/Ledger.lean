import Mathlib.Algebra.BigOperators.Group.List.Basic
import Mathlib.Algebra.Ring.Rat
import DrMetrix.Lib.Binary64
import DrMetrix.Lib.Population

/-! # Ledgers

Agents which move one at a time each leave an entry behind when they reach a
certain position. The ledger is the entries of all agents, in whatever order
they were made; exact sums of it do not depend on the order.
-/

namespace Population

variable {α β : Type*}

/-- The mover takes its old entry out and puts its new one in. -/
theorem filterMap_replace (entry : α → Option β) {xs : List α} {i : Nat} {x : α}
    (found : xs[i]? = some x) (y : α) :
    ((xs.set i y).filterMap entry ++ (entry x).toList).Perm
      (xs.filterMap entry ++ (entry y).toList) := by
  obtain ⟨inside, here⟩ := List.getElem?_eq_some_iff.mp found
  have before : xs = xs.take i ++ x :: xs.drop (i + 1) := by
    rw [← here, List.getElem_cons_drop, List.take_append_drop]
  have after : xs.set i y = xs.take i ++ y :: xs.drop (i + 1) := by
    rw [List.set_eq_take_append_cons_drop, if_pos inside]
  have entries : ∀ z, (xs.take i ++ z :: xs.drop (i + 1)).filterMap entry =
      (xs.take i).filterMap entry ++ ((entry z).toList ++ (xs.drop (i + 1)).filterMap entry) := by
    intro z
    cases left : entry z <;> simp [left]
  rw [after, entries]
  conv_rhs => rw [before, entries]
  simp only [List.append_assoc]
  apply List.Perm.append_left
  rw [← List.append_assoc]
  apply List.perm_append_comm.trans
  exact List.perm_append_comm.append_left _

/-- A mover without an entry before leaves one. -/
theorem filterMap_entered {entry : α → Option β} {xs : List α} {i : Nat} {x y : α}
    (found : xs[i]? = some x) (none : entry x = none) :
    ((xs.set i y).filterMap entry).Perm (xs.filterMap entry ++ (entry y).toList) := by
  simpa [none] using filterMap_replace entry found y

/-- A mover which keeps its entry changes nothing. -/
theorem filterMap_replace_same (entry : α → Option β) {xs : List α} {i : Nat} {x y : α}
    (found : xs[i]? = some x) (same : entry y = entry x) :
    (xs.set i y).filterMap entry = xs.filterMap entry := by
  have reads : ∀ zs : List α, zs.filterMap entry = (zs.map entry).filterMap id := by
    intro zs
    simp only [List.filterMap_map, Function.comp_def, id]
  rw [reads, map_replace entry found y same, ← reads]

theorem zipIdx_replace (xs : List α) (i : Nat) (y : α) :
    (xs.set i y).zipIdx = xs.zipIdx.set i (y, i) := by
  apply List.ext_getElem?
  intro j
  simp only [List.getElem?_zipIdx, List.getElem?_set, List.length_zipIdx, Nat.zero_add]
  by_cases here : i = j
  · subst here
    by_cases inside : i < xs.length <;> simp [inside]
  · simp [here]

theorem getElem?_zipIdx_of {xs : List α} {i : Nat} {x : α} (found : xs[i]? = some x) :
    xs.zipIdx[i]? = some (x, i) := by
  simp [List.getElem?_zipIdx, found]

end Population

namespace Exact

instance : Zero Exact := ⟨.fin 0⟩

instance : Add Exact := ⟨add⟩

theorem binary64_zero : (Binary64.zero : Exact) = 0 := rfl

theorem zero_add (x : Exact) : 0 + x = x := by
  change add (.fin 0) x = x
  cases x <;> simp [add]

theorem add_comm (x y : Exact) : x + y = y + x := by
  change add x y = add y x
  cases x <;> cases y <;> grind [add, Rat.add_comm]

theorem add_assoc (x y z : Exact) : x + y + z = x + (y + z) := by
  change add (add x y) z = add x (add y z)
  cases x <;> cases y <;> cases z <;> grind [add, Rat.add_assoc]

theorem add_zero (x : Exact) : x + 0 = x := (add_comm x 0).trans (zero_add x)

/-- Rounding apart, floats may be summed in any order: an infinity absorbs every
    finite number, and two of different signs make NaN. -/
instance : AddCommMonoid Exact where
  nsmul := nsmulRec
  zero_add := zero_add
  add_zero := add_zero
  add_comm := add_comm
  add_assoc := add_assoc

theorem sum_fin (xs : List ℚ) : (xs.map fin).sum = fin xs.sum := by
  induction xs with
  | nil => rfl
  | cons x xs ih =>
      rw [List.map_cons, List.sum_cons, List.sum_cons, ih]
      rfl

end Exact
