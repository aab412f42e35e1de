import Mathlib.Data.List.Induction

/-! # Cumulative buckets

A value is counted in the first bucket whose upper bound it does not exceed, and
the counts are summed up only when somebody reads them. With rising bounds the
sum up to a bound counts all values which do not exceed that bound.
-/

namespace Buckets

variable {α β : Type*} (le : α → β → Bool)

/-- Count a value in its first bucket; a value above all bounds is in none. -/
def place : List β → α → List Nat → List Nat
  | bound :: bounds, v, count :: counts =>
      if le v bound then (count + 1) :: counts else count :: place bounds v counts
  | _, _, counts => counts

/-- The sums of the counts so far, from `before` on. -/
def cumulate (before : Nat) : List Nat → List Nat
  | [] => []
  | count :: counts => (before + count) :: cumulate (before + count) counts

/-- What does not exceed a bound does not exceed a later one. -/
def Rising (bounds : List β) : Prop :=
  bounds.Pairwise fun bound later => ∀ v, le v bound = true → le v later = true

variable {le}

theorem cumulate_succ (before : Nat) (counts : List Nat) :
    cumulate (before + 1) counts = (cumulate before counts).map (· + 1) := by
  induction counts generalizing before with
  | nil => rfl
  | cons count counts ih =>
      have shift : before + 1 + count = before + count + 1 := by omega
      simp only [cumulate, shift, ih, List.map_cons]

/-- A value raises exactly the sums at the bounds which it does not exceed. -/
theorem cumulate_place {bounds : List β} (rising : Rising le bounds) (v : α) {sum : β → Nat}
    {before : Nat} {counts : List Nat} (sums : cumulate before counts = bounds.map sum) :
    cumulate before (place le bounds v counts) =
      bounds.map fun bound => sum bound + (le v bound).toNat := by
  induction bounds generalizing before counts with
  | nil => exact sums
  | cons bound bounds ih =>
      cases counts with
      | nil => cases sums
      | cons count counts =>
          obtain ⟨first, rising⟩ := List.pairwise_cons.mp rising
          simp only [cumulate, List.map_cons, List.cons.injEq] at sums
          obtain ⟨here, later⟩ := sums
          rw [here] at later
          cases fits : le v bound with
          | false =>
              simp only [place, fits, cumulate, Bool.false_eq_true, if_false, List.map_cons,
                Bool.toNat_false, Nat.add_zero, here, List.cons.injEq, true_and]
              exact ih rising later
          | true =>
              have all : ∀ other ∈ bounds, le v other = true :=
                fun other member => first other member v fits
              have raised : bounds.map (fun bound => sum bound + (le v bound).toNat) =
                  (bounds.map sum).map (· + 1) := by
                rw [List.map_map]
                apply List.map_congr_left
                intro other member
                simp only [all other member, Bool.toNat_true, Function.comp_apply]
              have shift : before + (count + 1) = before + count + 1 := by omega
              simp only [place, fits, if_true, cumulate, shift, cumulate_succ, later, raised,
                List.map_cons, Bool.toNat_true, here]

/-- Count all values, starting from empty buckets. -/
def placeAll (le : α → β → Bool) (bounds : List β) (vs : List α) : List Nat :=
  vs.foldl (fun counts v => place le bounds v counts) (bounds.map fun _ => 0)

theorem cumulate_zeros (bounds : List β) :
    cumulate 0 (bounds.map fun _ => 0) = bounds.map fun _ => 0 := by
  induction bounds with
  | nil => rfl
  | cons bound bounds ih => simp only [List.map_cons, cumulate, Nat.add_zero, ih]

/-- The sum at a bound counts the values which do not exceed it. -/
theorem cumulate_placeAll {bounds : List β} (rising : Rising le bounds) (vs : List α) :
    cumulate 0 (placeAll le bounds vs) = bounds.map fun bound => vs.countP fun v => le v bound := by
  induction vs using List.reverseRecOn with
  | nil => exact cumulate_zeros bounds
  | append_singleton vs v ih =>
      have step := cumulate_place rising v ih
      rw [placeAll] at step ⊢
      simp only [List.foldl_append, List.foldl_cons, List.foldl_nil, step, List.countP_append,
        List.countP_singleton]
      apply List.map_congr_left
      intro bound _
      cases le v bound <;> rfl

/-- The sums only rise from bound to bound. -/
theorem cumulate_placeAll_rising {bounds : List β} (rising : Rising le bounds) (vs : List α) :
    (cumulate 0 (placeAll le bounds vs)).Pairwise (· ≤ ·) := by
  rw [cumulate_placeAll rising, List.pairwise_map]
  exact rising.imp fun fits => List.countP_mono_left fun v _ => fits v

end Buckets
