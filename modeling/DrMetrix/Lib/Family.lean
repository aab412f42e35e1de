import Mathlib.Data.List.AList
import Mathlib.Algebra.BigOperators.Group.List.Basic
import Mathlib.Algebra.Ring.Nat
import Mathlib.Data.Finset.Card

/-! # Families of values under unique keys

A family creates the child of a key on first use and never removes one. The
association list carries the proof that no key has two children, so sums over a
family count every key once.

Updates find their child by a name of the key, such as a hash. Keys of one name
share the child which was created first. A key is alone if it shares its name
with no other one, and updates of other keys leave its child as it is.
-/

abbrev Family (K V : Type) := AList fun _ : K => V

namespace Family

variable {K N V ρ : Type} [DecidableEq K] [DecidableEq N]

def get? (f : Family K V) (k : K) : Option V := f.lookup k

/-- An absent child reads as the default. -/
def read (start : V) (f : Family K V) (k : K) : V := (f.get? k).getD start

/-- The key under which an update of `k` finds its child: one of the same name, else `k`. -/
def resolve (name : K → N) (f : Family K V) (k : K) : K :=
  (f.keys.find? fun l => name l = name k).getD k

def set (name : K → N) (f : Family K V) (k : K) (v : V) : Family K V :=
  f.insert (f.resolve name k) v

/-- Get the child or create it from `start`, then update it. -/
def modify (name : K → N) (start : V) (f : Family K V) (k : K) (g : V → V) : Family K V :=
  f.insert (f.resolve name k) (g (f.read start (f.resolve name k)))

/-- One `set` per row, in order. -/
def setAll (name : K → N) (key : ρ → K) (value : ρ → V) (f : Family K V) (rows : List ρ) :
    Family K V :=
  rows.foldl (fun f row => f.set name (key row) (value row)) f

/-- No other key has the name of this one. -/
def Alone (name : K → N) (k : K) : Prop := ∀ l, name l = name k → l = k

/-- The last row with the given key. -/
def latest (key : ρ → K) (k : K) (rows : List ρ) : Option ρ :=
  rows.reverse.find? fun row => key row = k

/-- The sum of a weight over all children. -/
def total (weight : V → Nat) (f : Family K V) : Nat :=
  (f.entries.map fun entry => weight entry.2).sum

@[simp] theorem get?_empty (k : K) : get? (∅ : Family K V) k = none := AList.lookup_empty k

theorem get?_insert (f : Family K V) (k l : K) (v : V) :
    get? (f.insert k v) l = if l = k then some v else f.get? l := by
  split
  · next same =>
      subst same
      exact AList.lookup_insert f
  · next apart => exact AList.lookup_insert_ne apart

theorem read_insert (start : V) (f : Family K V) (k l : K) (v : V) :
    read start (f.insert k v) l = if l = k then v else f.read start l := by
  rw [read, get?_insert]
  split <;> rfl

omit [DecidableEq K] in
theorem resolve_cases (name : K → N) (f : Family K V) (k : K) :
    f.resolve name k = k ∨ f.resolve name k ∈ f.keys ∧ name (f.resolve name k) = name k := by
  unfold resolve
  cases found : f.keys.find? fun l => name l = name k with
  | none => exact .inl rfl
  | some l =>
      have named := List.find?_some found
      exact .inr ⟨List.mem_of_find?_eq_some found, of_decide_eq_true named⟩

omit [DecidableEq K] in
/-- Exactly the updates of a key which is alone find its child. -/
theorem eq_resolve_iff {name : K → N} {l : K} (alone : Alone name l) (f : Family K V) (k : K) :
    l = f.resolve name k ↔ k = l := by
  rcases f.resolve_cases name k with same | ⟨-, named⟩
  · rw [same]
    exact eq_comm
  · constructor
    · rintro rfl
      exact alone k named.symm
    · rintro rfl
      exact (alone _ named).symm

theorem get?_set {name : K → N} {l : K} (alone : Alone name l) (f : Family K V) (k : K) (v : V) :
    (f.set name k v).get? l = if k = l then some v else f.get? l := by
  rw [set, get?_insert]
  exact if_congr (eq_resolve_iff alone f k) rfl rfl

theorem read_modify {name : K → N} {l : K} (alone : Alone name l) (start : V) (f : Family K V)
    (k : K) (g : V → V) : (f.modify name start k g).read start l =
      if k = l then g (f.read start l) else f.read start l := by
  rw [modify, read_insert, if_congr (eq_resolve_iff alone f k) rfl rfl]
  by_cases same : k = l
  · rw [if_pos same, if_pos same, (eq_resolve_iff alone f k).mpr same]
  · rw [if_neg same, if_neg same]

/-- Whichever child is found, an update changes no child in another way. -/
theorem read_modify_cases (name : K → N) (start : V) (f : Family K V) (k l : K) (g : V → V) :
    (f.modify name start k g).read start l = g (f.read start l) ∨
      (f.modify name start k g).read start l = f.read start l := by
  rw [modify, read_insert]
  split
  · next found =>
      rw [found]
      exact .inl rfl
  · exact .inr rfl

theorem keys_modify (name : K → N) (start : V) (f : Family K V) (k : K) (g : V → V) :
    ∀ l ∈ (f.modify name start k g).keys, l = k ∨ l ∈ f.keys := by
  intro l member
  rcases (AList.mem_insert f).mp (AList.mem_keys.mpr member) with rfl | old
  · exact (f.resolve_cases name k).imp_right And.left
  · exact .inr (AList.mem_keys.mp old)

theorem mem_keys_modify {name : K → N} {l : K} (alone : Alone name l) (start : V) (f : Family K V)
    (k : K) (g : V → V) : l ∈ (f.modify name start k g).keys ↔ l = k ∨ l ∈ f.keys := by
  rw [modify, ← AList.mem_keys, ← AList.mem_keys, AList.mem_insert, eq_resolve_iff alone f k,
    eq_comm]

/-- A family has no more children than there are keys they can come from. -/
theorem length_keys_le {f : Family K V} {keys : Finset K} (inside : ∀ k ∈ f.keys, k ∈ keys) :
    f.keys.length ≤ keys.card := by
  rw [← List.toFinset_card_of_nodup f.keys_nodup]
  apply Finset.card_le_card
  intro k member
  exact inside k (List.mem_toFinset.mp member)

theorem le_length_keys {f : Family K V} {keys : Finset K} (present : ∀ k ∈ keys, k ∈ f.keys) :
    keys.card ≤ f.keys.length := by
  rw [← List.toFinset_card_of_nodup f.keys_nodup]
  apply Finset.card_le_card
  intro k member
  exact List.mem_toFinset.mpr (present k member)

/-! ## Bulk updates -/

theorem get?_setAll {name : K → N} {k : K} (alone : Alone name k) (key : ρ → K) (value : ρ → V)
    (f : Family K V) (rows : List ρ) : (f.setAll name key value rows).get? k =
      match latest key k rows with
      | some row => some (value row)
      | none => f.get? k := by
  induction rows generalizing f with
  | nil => rfl
  | cons row rows ih =>
      have step : f.setAll name key value (row :: rows) =
          (f.set name (key row) (value row)).setAll name key value rows := rfl
      have search : latest key k (row :: rows) =
          (latest key k rows).or (if key row = k then some row else none) := by
        simp only [latest, List.reverse_cons, List.find?_append, List.find?_cons, List.find?_nil]
        by_cases same : key row = k <;> simp [same]
      rw [step, ih, search]
      cases found : latest key k rows with
      | some later => rfl
      | none =>
          rw [get?_set alone]
          by_cases same : key row = k
          · simp [same]
          · simp [same]

theorem latest_eq_none {key : ρ → K} {k : K} {rows : List ρ} :
    latest key k rows = none ↔ ∀ row ∈ rows, key row ≠ k := by
  simp only [latest, List.find?_eq_none, List.mem_reverse, decide_eq_true_eq, ne_eq]

theorem latest_some {key : ρ → K} {k : K} {rows : List ρ} {row : ρ}
    (found : latest key k rows = some row) : row ∈ rows ∧ key row = k := by
  refine ⟨?_, ?_⟩
  · exact List.mem_reverse.mp (List.mem_of_find?_eq_some found)
  · simpa only [decide_eq_true_eq] using List.find?_some found

/-- With distinct keys every row is the latest one of its key. -/
theorem latest_of_nodup {key : ρ → K} {rows : List ρ} (distinct : (rows.map key).Nodup)
    {row : ρ} (member : row ∈ rows) : latest key (key row) rows = some row := by
  cases found : latest key (key row) rows with
  | none => exact absurd rfl (latest_eq_none.mp found row member)
  | some other =>
      obtain ⟨inside, same⟩ := latest_some found
      exact congrArg some (List.inj_on_of_nodup_map distinct inside member same)

/-- An injective renaming of the keys does not change which row is the latest. -/
theorem latest_rename {L : Type} [DecidableEq L] {name : K → L} (injective : name.Injective)
    (key : ρ → K) (k : K) (rows : List ρ) :
    latest (fun row => name (key row)) (name k) rows = latest key k rows := by
  simp only [latest, injective.eq_iff]

/-- The family shows the rows at a key: the latest row's value, or nothing. -/
def ShowsAt (start : V) (key : ρ → K) (value : ρ → V) (rows : List ρ) (f : Family K V) (k : K) :
    Prop :=
  match latest key k rows with
  | some row => f.get? k = some (value row)
  | none => f.read start k = start

/-- A bulk update shows the rows at a key unless it leaves an older child behind. -/
theorem setAll_showsAt_iff {name : K → N} {k : K} (alone : Alone name k) (start : V) (key : ρ → K)
    (value : ρ → V) (f : Family K V) (rows : List ρ) :
    ShowsAt start key value rows (f.setAll name key value rows) k ↔
      (f.read start k ≠ start → ∃ row ∈ rows, key row = k) := by
  have after := get?_setAll alone key value f rows
  unfold ShowsAt
  cases found : latest key k rows with
  | some row =>
      rw [found] at after
      obtain ⟨member, same⟩ := latest_some found
      exact iff_of_true after fun _ => ⟨row, member, same⟩
  | none =>
      rw [found] at after
      have absent : ¬ ∃ row ∈ rows, key row = k := by
        rintro ⟨row, member, same⟩
        exact latest_eq_none.mp found row member same
      simp only [read, after, absent, imp_false, ne_eq, not_not]

/-! ## Counting -/

theorem sum_indicator (keys : List K) (k : K) :
    (keys.map fun l => if k == l then 1 else 0).sum = keys.count k := by
  induction keys with
  | nil => rfl
  | cons l keys ih =>
      have flip : (k == l) = (l == k) := BEq.comm
      simp only [List.map_cons, List.sum_cons, List.count_cons, ih, flip]
      omega

/-- Distinct keys which cover all counted items partition the count. -/
theorem sum_countP_keys {α : Type} {keys : List K} (distinct : keys.Nodup) (key : α → K)
    (p : α → Bool) (xs : List α) (cover : ∀ x ∈ xs, p x = true → key x ∈ keys) :
    (keys.map fun k => xs.countP fun x => p x && key x == k).sum = xs.countP p := by
  induction xs with
  | nil => simp
  | cons x xs ih =>
      have tail := ih fun y member => cover y (List.mem_cons_of_mem x member)
      simp only [List.countP_cons, List.sum_map_add, tail]
      congr 1
      cases counted : p x with
      | false => simp
      | true =>
          have member : key x ∈ keys := cover x List.mem_cons_self counted
          simp only [Bool.true_and, if_true, sum_indicator]
          exact List.count_eq_one_of_mem distinct member

/-- A family whose children count the items of their key sums up to all items. -/
theorem total_eq_countP {α : Type} (weight : V → Nat) (start : V) (f : Family K V) (key : α → K)
    (p : α → Bool) (xs : List α)
    (each : ∀ k, weight (f.read start k) = xs.countP fun x => p x && key x == k)
    (cover : ∀ x ∈ xs, p x = true → key x ∈ f.keys) : f.total weight = xs.countP p := by
  have children : f.entries.map (fun entry => weight entry.2) =
      f.keys.map fun k => weight (f.read start k) := by
    rw [AList.keys, List.keys, List.map_map]
    refine List.map_congr_left fun entry member => ?_
    have found : f.get? entry.1 = some entry.2 := AList.mem_lookup_iff.mpr member
    simp only [Function.comp_apply, read, found, Option.getD_some]
  rw [total, children, ← sum_countP_keys f.keys_nodup key p xs cover]
  exact congrArg List.sum (List.map_congr_left fun k _ => each k)

end Family
