import Mathlib.Data.List.Pairwise
import Mathlib.Data.List.Basic

/-! # Sets closed under admission control

Candidates enter one at a time, and one which conflicts with a member is
refused. Admitting a whole list stops at the first refusal and keeps what was
accepted before it, so a failed bulk admission is visible exactly when the
refused candidate was not the first.
-/

/-- A list of which no earlier member conflicts with a later one. -/
structure ConflictFree {α : Type} (conflicts : α → α → Prop) where
  members : List α
  compatible : members.Pairwise fun a b => ¬ conflicts a b

namespace ConflictFree

variable {α : Type} {conflicts : α → α → Prop}

@[ext] theorem ext {s t : ConflictFree conflicts} (same : s.members = t.members) : s = t := by
  cases s
  cases t
  cases same
  rfl

instance : EmptyCollection (ConflictFree conflicts) := ⟨⟨[], .nil⟩⟩

/-- No member stands in the way of the candidate. -/
def Fits (s : ConflictFree conflicts) (a : α) : Prop := ∀ b ∈ s.members, ¬ conflicts b a

/-- The given candidates never stand in each other's way. -/
def Independent (conflicts : α → α → Prop) (as : List α) : Prop :=
  as.Pairwise fun a b => ¬ conflicts a b

variable [DecidableRel conflicts]

instance (s : ConflictFree conflicts) (a : α) : Decidable (s.Fits a) :=
  inferInstanceAs (Decidable (∀ b ∈ s.members, ¬ conflicts b a))

def accept (s : ConflictFree conflicts) (a : α) : Option (ConflictFree conflicts) :=
  if fits : s.Fits a then
    some
      { members := s.members ++ [a]
        compatible := List.pairwise_append.mpr
          ⟨s.compatible, List.pairwise_singleton _ _, fun b member c single => by
            obtain rfl := List.mem_singleton.mp single
            exact fits b member⟩ }
  else none

/-- Admit in order up to the first refusal. The flag tells whether all entered. -/
def acceptAll (s : ConflictFree conflicts) : List α → ConflictFree conflicts × Bool
  | [] => (s, true)
  | a :: as =>
      match s.accept a with
      | some s' => s'.acceptAll as
      | none => (s, false)

/-- Remove a member. -/
def evict [DecidableEq α] (s : ConflictFree conflicts) (a : α) : ConflictFree conflicts where
  members := s.members.filter (· ≠ a)
  compatible := s.compatible.filter _

def evictAll [DecidableEq α] (s : ConflictFree conflicts) (as : List α) : ConflictFree conflicts :=
  as.foldl evict s

theorem accept_eq_some {s s' : ConflictFree conflicts} {a : α} :
    s.accept a = some s' ↔ s.Fits a ∧ s'.members = s.members ++ [a] := by
  unfold accept
  split
  · next fits =>
      constructor
      · intro same
        obtain rfl := Option.some.inj same
        exact ⟨fits, rfl⟩
      · rintro ⟨-, members⟩
        exact congrArg some (ext members.symm)
  · next unfit => simp [unfit]

theorem accept_eq_none {s : ConflictFree conflicts} {a : α} : s.accept a = none ↔ ¬ s.Fits a := by
  unfold accept
  split <;> simp [*]

/-- Admitting an independent candidate does not change who else fits. -/
theorem fits_accept {s s' : ConflictFree conflicts} {a b : α} (entered : s.accept a = some s')
    (apart : ¬ conflicts a b) : s'.Fits b ↔ s.Fits b := by
  obtain ⟨-, members⟩ := accept_eq_some.mp entered
  simp only [Fits, members, List.mem_append, List.mem_singleton]
  constructor
  · intro fits c member
    exact fits c (.inl member)
  · rintro fits c (member | rfl)
    · exact fits c member
    · exact apart

private theorem takeWhile_congr {p q : α → Bool} {as : List α} (same : ∀ a ∈ as, p a = q a) :
    as.takeWhile p = as.takeWhile q := by
  induction as with
  | nil => rfl
  | cons a as ih =>
      obtain ⟨head, tail⟩ := List.forall_mem_cons.mp same
      simp only [List.takeWhile_cons, head, ih tail]

/-- Bulk admission of independent candidates accepts the fitting prefix. -/
theorem acceptAll_members (s : ConflictFree conflicts) {as : List α}
    (independent : Independent conflicts as) :
    (s.acceptAll as).1.members = s.members ++ as.takeWhile fun a => s.Fits a := by
  induction as generalizing s with
  | nil => simp [acceptAll]
  | cons a as ih =>
      obtain ⟨apart, rest⟩ := List.pairwise_cons.mp independent
      cases entered : s.accept a with
      | none =>
          have unfit := accept_eq_none.mp entered
          simp [acceptAll, entered, unfit]
      | some s' =>
          obtain ⟨fits, members⟩ := accept_eq_some.mp entered
          have same : as.takeWhile (fun b => s'.Fits b) = as.takeWhile fun b => s.Fits b := by
            apply takeWhile_congr
            intro b member
            exact decide_eq_decide.mpr (fits_accept entered (apart b member))
          simp only [acceptAll, entered, ih s' rest, members, same, List.takeWhile_cons, fits,
            decide_true, if_true, List.append_assoc, List.singleton_append]

theorem acceptAll_complete (s : ConflictFree conflicts) {as : List α}
    (independent : Independent conflicts as) :
    (s.acceptAll as).2 = true ↔ ∀ a ∈ as, s.Fits a := by
  induction as generalizing s with
  | nil => simp [acceptAll]
  | cons a as ih =>
      obtain ⟨apart, rest⟩ := List.pairwise_cons.mp independent
      cases entered : s.accept a with
      | none =>
          have unfit := accept_eq_none.mp entered
          simp [acceptAll, entered, unfit]
      | some s' =>
          obtain ⟨fits, -⟩ := accept_eq_some.mp entered
          simp only [acceptAll, entered, ih s' rest, List.forall_mem_cons, fits, true_and]
          exact forall₂_congr fun b member => fits_accept entered (apart b member)

/-- After a complete bulk admission all candidates are members. -/
theorem acceptAll_all {s : ConflictFree conflicts} {as : List α} (all : (s.acceptAll as).2 = true) :
    (s.acceptAll as).1.members = s.members ++ as := by
  induction as generalizing s with
  | nil => simp [acceptAll]
  | cons a as ih =>
      unfold acceptAll at all ⊢
      cases entered : s.accept a with
      | none => simp [entered] at all
      | some s' =>
          simp only [entered] at all ⊢
          rw [ih all, (accept_eq_some.mp entered).2, List.append_assoc, List.singleton_append]

/-- A bulk admission leaves no trace exactly when the first candidate is refused. -/
theorem acceptAll_unchanged (s : ConflictFree conflicts) {a : α} {as : List α}
    (independent : Independent conflicts (a :: as)) :
    (s.acceptAll (a :: as)).1 = s ↔ ¬ s.Fits a := by
  constructor
  · intro same fits
    have members := acceptAll_members s independent
    rw [same] at members
    simp [fits] at members
  · intro unfit
    simp [acceptAll, accept_eq_none.mpr unfit]

/-- The members which stand in the way of one of the candidates. -/
def blockers (s : ConflictFree conflicts) (as : List α) : List α :=
  s.members.filter fun b => ∃ a ∈ as, conflicts b a

omit [DecidableRel conflicts] in
theorem mem_evictAll [DecidableEq α] (s : ConflictFree conflicts) (as : List α) (b : α) :
    b ∈ (s.evictAll as).members ↔ b ∈ s.members ∧ b ∉ as := by
  rw [evictAll]
  induction as generalizing s with
  | nil => simp
  | cons a as ih =>
      rw [List.foldl_cons, ih]
      simp only [evict, List.mem_filter, decide_eq_true_eq, List.mem_cons, not_or, and_assoc]

/-- Whoever was blocked fits once the blockers are gone. -/
theorem fits_evictAll_blockers [DecidableEq α] (s : ConflictFree conflicts) {as : List α} {a : α}
    (candidate : a ∈ as) : (s.evictAll (s.blockers as)).Fits a := by
  intro b member conflict
  obtain ⟨held, kept⟩ := (mem_evictAll s _ b).mp member
  apply kept
  exact List.mem_filter.mpr ⟨held, decide_eq_true ⟨a, candidate, conflict⟩⟩

end ConflictFree
