import Mathlib.Data.List.Basic

/-! # Populations of agents

A list of agents, where one agent joins or moves at a time. A shared counter is
kept in step with the number of agents in a certain position by comparing the
mover before and after its move.
-/

namespace Population

variable {α : Type*}

theorem countP_join (p : α → Bool) (xs : List α) (x : α) :
    (xs ++ [x]).countP p = xs.countP p + (p x).toNat := by
  cases holds : p x <;> simp [holds]

theorem countP_replace (p : α → Bool) {xs : List α} {i : Nat} {x : α}
    (found : xs[i]? = some x) (y : α) :
    (xs.set i y).countP p + (p x).toNat = xs.countP p + (p y).toNat := by
  obtain ⟨inside, here⟩ := List.getElem?_eq_some_iff.mp found
  have enough : (p x).toNat ≤ xs.countP p := by
    cases holds : p x with
    | false => exact Nat.zero_le _
    | true =>
        apply List.countP_pos_iff.mpr
        exact ⟨x, List.mem_of_getElem? found, holds⟩
  have counted : (xs.set i y).countP p =
      xs.countP p - (if p xs[i] = true then 1 else 0) + if p y = true then 1 else 0 :=
    List.countP_set inside
  rw [here] at counted
  have weight : ∀ z, (if p z = true then 1 else 0) = (p z).toNat := by
    intro z
    cases p z <;> rfl
  rw [weight, weight] at counted
  omega

theorem countP_replace_same (p : α → Bool) {xs : List α} {i : Nat} {x y : α}
    (found : xs[i]? = some x) (same : p y = p x) : (xs.set i y).countP p = xs.countP p := by
  have balance := countP_replace p found y
  rw [same] at balance
  omega

theorem getElem?_replace {xs : List α} {i : Nat} {x : α} (found : xs[i]? = some x) (y : α)
    (j : Nat) : (xs.set i y)[j]? = if i = j then some y else xs[j]? := by
  obtain ⟨inside, -⟩ := List.getElem?_eq_some_iff.mp found
  rw [List.getElem?_set]
  split
  · rfl
  · rfl

/-- A replacement displaces one agent only. -/
theorem mem_replace {xs : List α} {i : Nat} {x : α} (found : xs[i]? = some x) (y : α) :
    y ∈ xs.set i y ∧ ∀ z ∈ xs, z = x ∨ z ∈ xs.set i y := by
  refine ⟨List.mem_set (List.getElem?_eq_some_iff.mp found).1 y, ?_⟩
  intro z member
  obtain ⟨j, at_j⟩ := List.mem_iff_getElem?.mp member
  by_cases here : i = j
  · subst here
    exact .inl (Option.some.inj (at_j.symm.trans found))
  · refine .inr (List.mem_of_getElem? (i := j) ?_)
    rw [List.getElem?_set_ne here]
    exact at_j

theorem getElem?_join {xs : List α} {i : Nat} {x y : α} (found : xs[i]? = some x) :
    (xs ++ [y])[i]? = some x := by
  rw [List.getElem?_append_left (List.getElem?_eq_some_iff.mp found).1]
  exact found

/-- Whoever is there after a join was there before, or is the new one. -/
theorem of_getElem?_join {xs : List α} {i : Nat} {x y : α} (found : (xs ++ [y])[i]? = some x) :
    xs[i]? = some x ∨ i = xs.length ∧ x = y := by
  by_cases old : i < xs.length
  · rw [List.getElem?_append_left old] at found
    exact .inl found
  · have inside := (List.getElem?_eq_some_iff.mp found).1
    rw [List.length_append, List.length_singleton] at inside
    have last : i = xs.length := by omega
    rw [last, List.getElem?_concat_length] at found
    exact .inr ⟨last, (Option.some.inj found).symm⟩

theorem map_replace {β : Type*} (g : α → β) {xs : List α} {i : Nat} {x : α}
    (found : xs[i]? = some x) (y : α) (same : g y = g x) : (xs.set i y).map g = xs.map g := by
  apply List.ext_getElem?
  intro j
  rw [List.getElem?_map, List.getElem?_map, getElem?_replace found]
  split
  · next here =>
      subst here
      rw [found, Option.map_some, Option.map_some, same]
  · rfl

/-- Two positions which exclude each other add up. -/
theorem countP_split {p q r : α → Bool} (xs : List α)
    (split : ∀ x ∈ xs, (p x).toNat = (q x).toNat + (r x).toNat) :
    xs.countP p = xs.countP q + xs.countP r := by
  induction xs with
  | nil => rfl
  | cons x xs ih =>
      have head := split x List.mem_cons_self
      have tail := ih fun y member => split y (List.mem_cons_of_mem x member)
      have weight : ∀ s : α → Bool, (x :: xs).countP s = xs.countP s + (s x).toNat := by
        intro s
        cases holds : s x <;> simp [holds]
      rw [weight, weight, weight]
      omega

/-- A sub-population is everybody exactly when its count says so. -/
theorem countP_eq_iff {p q : α → Bool} (xs : List α) (sub : ∀ x ∈ xs, q x = true → p x = true) :
    xs.countP p = xs.countP q ↔ ∀ x ∈ xs, p x = true → q x = true := by
  induction xs with
  | nil => simp
  | cons x xs ih =>
      obtain ⟨head, tail⟩ := List.forall_mem_cons.mp sub
      have fewer : xs.countP q ≤ xs.countP p := List.countP_mono_left tail
      rw [List.forall_mem_cons, ← ih tail, List.countP_cons, List.countP_cons]
      cases inP : p x <;> cases inQ : q x <;> simp [inP, inQ] at head ⊢
      omega

theorem forall_join {P : α → Prop} {xs : List α} {x : α} (all : ∀ y ∈ xs, P y) (new : P x) :
    ∀ y ∈ xs ++ [x], P y := by
  intro y member
  rcases List.mem_append.mp member with old | single
  · exact all y old
  · obtain rfl := List.mem_singleton.mp single
    exact new

theorem forall_replace {P : α → Prop} {xs : List α} {i : Nat} {y : α} (all : ∀ x ∈ xs, P x)
    (new : P y) : ∀ x ∈ xs.set i y, P x := by
  intro x member
  rcases List.mem_or_eq_of_mem_set member with old | rfl
  · exact all x old
  · exact new

end Population
