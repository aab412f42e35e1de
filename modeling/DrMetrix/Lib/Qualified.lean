import Mathlib.Data.List.Infix

/-! # Qualified names

A word behind an arbitrary qualifier and a separator. Every word begins with one
of a few markers. The qualifier may contain the separator and may itself end
with a marker, and still the joined name determines all its parts, as long as no
word has a marker behind a separator.
-/

namespace Qualified

variable {α : Type} {sep : α}

/-- Without a qualifier there is no separator either. -/
def join [DecidableEq α] (sep : α) (qualifier word : List α) : List α :=
  if qualifier = [] then word else qualifier ++ sep :: word

/-- No marker begins with another one. -/
def PrefixFree (markers : List (List α)) : Prop :=
  ∀ m ∈ markers, ∀ m' ∈ markers, m <+: m' → m = m'

/-- The word `marker ++ rest` has no marker behind a separator. -/
structure Marked (sep : α) (markers : List (List α)) (marker rest : List α) : Prop where
  known : marker ∈ markers
  clean : ∀ m ∈ markers, ¬ sep :: m <:+: marker ++ rest

variable {markers : List (List α)} {q q' w w' m m' r r' : List α}

theorem Marked.not_suffix (word : Marked sep markers m r) (other : Marked sep markers m' r') :
    ¬ sep :: (m' ++ r') <:+ m ++ r := by
  intro inside
  have begins : sep :: m' <+: sep :: (m' ++ r') := List.prefix_append (sep :: m') r'
  exact word.clean m' other.known (begins.isInfix.trans inside.isInfix)

theorem PrefixFree.parts (free : PrefixFree markers) (known : m ∈ markers) (known' : m' ∈ markers)
    (same : m ++ r = m' ++ r') : m = m' ∧ r = r' := by
  have equal : m = m' := by
    rcases List.append_eq_append_iff.mp same with ⟨as, longer, -⟩ | ⟨as, longer, -⟩
    · exact free m known m' known' ⟨as, longer.symm⟩
    · exact (free m' known' m known ⟨as, longer.symm⟩).symm
  subst equal
  exact ⟨rfl, List.append_cancel_left same⟩

variable [DecidableEq α]

/-- Equal names have equal parts, or one word is at the end of the other. -/
theorem join_eq_join (same : join sep q w = join sep q' w') :
    q = q' ∧ w = w' ∨ sep :: w' <:+ w ∨ sep :: w <:+ w' := by
  unfold join at same
  split at same <;> split at same
  · next empty empty' => exact .inl ⟨empty.trans empty'.symm, same⟩
  · exact .inr (.inl ⟨q', same.symm⟩)
  · exact .inr (.inr ⟨q, same⟩)
  · rcases List.append_eq_append_iff.mp same with ⟨as, longer, rest⟩ | ⟨as, longer, rest⟩
    · cases as with
      | nil => exact .inl ⟨by simpa using longer.symm, by simpa using rest⟩
      | cons a as =>
          rw [List.cons_append, List.cons.injEq] at rest
          exact .inr (.inl ⟨as, rest.2.symm⟩)
    · cases as with
      | nil => exact .inl ⟨by simpa using longer, by simpa using rest.symm⟩
      | cons a as =>
          rw [List.cons_append, List.cons.injEq] at rest
          exact .inr (.inr ⟨as, rest.2.symm⟩)

/-- A joined name determines its qualifier, its marker and the rest. -/
theorem Marked.join_inj (free : PrefixFree markers) (word : Marked sep markers m r)
    (word' : Marked sep markers m' r') (same : join sep q (m ++ r) = join sep q' (m' ++ r')) :
    q = q' ∧ m = m' ∧ r = r' := by
  rcases join_eq_join same with ⟨qualifiers, words⟩ | inside | inside
  · exact ⟨qualifiers, free.parts word.known word'.known words⟩
  · exact absurd inside (word.not_suffix word')
  · exact absurd inside (word'.not_suffix word)

end Qualified
