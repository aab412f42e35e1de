import DrMetrix.Lib.ConflictFree
import DrMetrix.Lib.Population
import DrMetrix.Lib.Transition

/-! # Racing for admission

Any number of claimants admit their candidates to one conflict-free set, each in
the order of its own list, and give up at their first refusal. Claimants with
one key are rivals: they conflict candidate by candidate. Rivals meet at their
first candidates, so one of them enters as a whole and the others not at all.
-/

namespace ConflictFree

open Transition

variable {α κ : Type} {conflicts : α → α → Prop}

/-- A bulk admission under way. -/
structure Claim (κ α : Type) where
  key : κ
  candidates : List α
  admitted : Nat := 0
  refused : Bool := false

namespace Claim

def entered (c : Claim κ α) : List α := c.candidates.take c.admitted

def Complete (c : Claim κ α) : Prop := c.refused = false ∧ c.admitted = c.candidates.length

def Finished (c : Claim κ α) : Prop := c.refused = true ∨ c.admitted = c.candidates.length

end Claim

structure Race (κ : Type) (conflicts : α → α → Prop) where
  held : ConflictFree conflicts
  claims : List (Claim κ α)

/-- Candidates conflict exactly if they have the same place in the lists of
    claims with the same key. -/
def Rivalry (conflicts : α → α → Prop) (claims : List (Claim κ α)) : Prop :=
  ∀ c ∈ claims, ∀ d ∈ claims, ∀ (i j : Nat) (a b : α), c.candidates[i]? = some a →
    d.candidates[j]? = some b → (conflicts a b ↔ c.key = d.key ∧ i = j)

namespace Race

variable [DecidableRel conflicts]

/-- The claim with this number tries its next candidate. -/
def step (s : Race κ conflicts) (i : Nat) : Option (Race κ conflicts) :=
  s.claims[i]?.bind fun c =>
    if c.refused then none
    else c.candidates[c.admitted]?.map fun a =>
      match s.held.accept a with
      | some held => { held, claims := s.claims.set i { c with admitted := c.admitted + 1 } }
      | none => { s with claims := s.claims.set i { c with refused := true } }

/-- What a try can do. -/
theorem step_cases {s s' : Race κ conflicts} {i : Nat} (h : s.step i = some s') :
    ∃ c a, s.claims[i]? = some c ∧ c.refused = false ∧ c.candidates[c.admitted]? = some a ∧
      ((s.held.Fits a ∧ s'.held.members = s.held.members ++ [a] ∧
          s'.claims = s.claims.set i { c with admitted := c.admitted + 1 }) ∨
        (¬ s.held.Fits a ∧ s'.held = s.held ∧
          s'.claims = s.claims.set i { c with refused := true })) := by
  obtain ⟨c, found, tried⟩ := Option.bind_eq_some_iff.mp h
  split at tried
  · cases tried
  · next going =>
      obtain ⟨a, candidate, rfl⟩ := Option.map_eq_some_iff.mp tried
      refine ⟨c, a, found, by simpa using going, candidate, ?_⟩
      cases entered : s.held.accept a with
      | some held =>
          obtain ⟨fits, members⟩ := accept_eq_some.mp entered
          exact .inl ⟨fits, members, rfl⟩
      | none => exact .inr ⟨accept_eq_none.mp entered, rfl, rfl⟩

/-- The race so far. -/
structure Raced (before : List α) (claims : List (Claim κ α)) (s : Race κ conflicts) : Prop where
  same : s.claims.map (fun c => (c.key, c.candidates)) =
    claims.map fun c => (c.key, c.candidates)
  within : ∀ c ∈ s.claims, c.admitted ≤ c.candidates.length
  members : ∀ b, b ∈ s.held.members ↔ b ∈ before ∨ ∃ c ∈ s.claims, b ∈ c.entered
  single : ∀ (i j : Nat) (c d : Claim κ α), s.claims[i]? = some c → s.claims[j]? = some d → c.key = d.key →
    0 < c.admitted → 0 < d.admitted → i = j
  refused : ∀ c ∈ s.claims, c.refused = true →
    c.admitted = 0 ∧ ∃ d ∈ s.claims, d.key = c.key ∧ 0 < d.admitted

omit [DecidableRel conflicts] in
theorem Raced.rivalry {before : List α} {claims : List (Claim κ α)} {s : Race κ conflicts}
    (raced : Raced before claims s) (rivals : Rivalry conflicts claims) :
    Rivalry conflicts s.claims := by
  have original : ∀ c ∈ s.claims, ∃ c' ∈ claims, c'.key = c.key ∧ c'.candidates = c.candidates := by
    intro c member
    have inside := List.mem_map_of_mem (f := fun c : Claim κ α => (c.key, c.candidates)) member
    rw [raced.same] at inside
    obtain ⟨c', member', same⟩ := List.mem_map.mp inside
    exact ⟨c', member', congrArg Prod.fst same, congrArg Prod.snd same⟩
  intro c member d member' i j a b at_i at_j
  obtain ⟨c', original_c, key, candidates⟩ := original c member
  obtain ⟨d', original_d, key', candidates'⟩ := original d member'
  rw [← candidates] at at_i
  rw [← candidates'] at at_j
  rw [← key, ← key']
  exact rivals c' original_c d' original_d i j a b at_i at_j

omit [DecidableRel conflicts] in
/-- Only a rival which is further stands in the way. -/
theorem Raced.fits_iff {before : List α} {claims : List (Claim κ α)} {s : Race κ conflicts}
    (raced : Raced before claims s) (rivals : Rivalry conflicts claims)
    (apart : ∀ b ∈ before, ∀ c ∈ s.claims, ∀ a ∈ c.candidates, ¬ conflicts b a)
    {c : Claim κ α} (member : c ∈ s.claims) {a : α}
    (candidate : c.candidates[c.admitted]? = some a) :
    s.held.Fits a ↔ ∀ d ∈ s.claims, d.key = c.key → d.admitted ≤ c.admitted := by
  have rivalry := raced.rivalry rivals
  constructor
  · intro fits d member' key
    by_contra further
    have inside : c.admitted < d.candidates.length := by
      have := raced.within d member'
      omega
    have held : d.candidates[c.admitted] ∈ s.held.members := by
      apply (raced.members _).mpr
      refine .inr ⟨d, member', ?_⟩
      rw [Claim.entered, List.mem_take_iff_getElem]
      exact ⟨c.admitted, by omega, rfl⟩
    refine fits _ held ?_
    exact (rivalry d member' c member _ _ _ a (List.getElem?_eq_getElem inside) candidate).mpr
      ⟨key, rfl⟩
  · intro behind b held conflict
    rcases (raced.members b).mp held with old | ⟨d, member', entered⟩
    · exact apart b old c member a (List.mem_of_getElem? candidate) conflict
    · obtain ⟨k, inside, rfl⟩ := List.mem_take_iff_getElem.mp entered
      have here := List.getElem?_eq_getElem (l := d.candidates) (i := k) (by omega)
      obtain ⟨key, rfl⟩ := (rivalry d member' c member k _ _ a here candidate).mp conflict
      have := behind d member' key
      omega

omit [DecidableRel conflicts] in
/-- What a claim tries to admit belongs to the set of a moved claim. -/
theorem Raced.moved_same {before : List α} {claims : List (Claim κ α)} {s : Race κ conflicts}
    (raced : Raced before claims s) {i : Nat} {c c' : Claim κ α} (found : s.claims[i]? = some c)
    (key : c'.key = c.key) (candidates : c'.candidates = c.candidates) :
    (s.claims.set i c').map (fun c => (c.key, c.candidates)) =
      claims.map fun c => (c.key, c.candidates) := by
  rw [← raced.same]
  exact Population.map_replace _ found c' (by rw [key, candidates])

omit [DecidableRel conflicts] in
/-- An admitted candidate is the claim's next one, and its rivals stay out. -/
theorem Raced.admitted {before : List α} {claims : List (Claim κ α)} {s s' : Race κ conflicts}
    (raced : Raced before claims s) {i : Nat} {c : Claim κ α} {a : α}
    (found : s.claims[i]? = some c) (going : c.refused = false)
    (candidate : c.candidates[c.admitted]? = some a)
    (behind : ∀ d ∈ s.claims, d.key = c.key → d.admitted ≤ c.admitted)
    (members : s'.held.members = s.held.members ++ [a])
    (moved : s'.claims = s.claims.set i { c with admitted := c.admitted + 1 }) :
    Raced before claims s' := by
  have inside := (List.getElem?_eq_some_iff.mp candidate).1
  have longer : c.candidates.take (c.admitted + 1) = c.entered ++ [a] := by
    rw [List.take_add_one, candidate]
    rfl
  obtain ⟨here, others⟩ :=
    Population.mem_replace found { c with admitted := c.admitted + 1 }
  -- A rival with an entry would be as far as this claim, which has none of its own then.
  have alone : ∀ j d, s.claims[j]? = some d → d.key = c.key → 0 < d.admitted → j = i := by
    intro j d at_j key entered
    have := behind d (List.mem_of_getElem? at_j) key
    exact raced.single j i d c at_j found key entered (by omega)
  refine ⟨?_, ?_, ?_, ?_, ?_⟩
  · rw [moved]
    exact raced.moved_same found rfl rfl
  · rw [moved]
    exact Population.forall_replace raced.within inside
  · intro b
    rw [members, List.mem_append, List.mem_singleton, raced.members, moved]
    constructor
    · rintro ((old | ⟨d, member, entered⟩) | rfl)
      · exact .inl old
      · rcases others d member with rfl | elsewhere
        · exact .inr ⟨_, here, by rw [Claim.entered, longer]; exact List.mem_append_left _ entered⟩
        · exact .inr ⟨d, elsewhere, entered⟩
      · exact .inr ⟨_, here, by rw [Claim.entered, longer]; exact List.mem_concat_self⟩
    · rintro (old | ⟨d, member, entered⟩)
      · exact .inl (.inl old)
      · rcases List.mem_or_eq_of_mem_set member with earlier | rfl
        · exact .inl (.inr ⟨d, earlier, entered⟩)
        · rw [Claim.entered, longer, List.mem_append, List.mem_singleton] at entered
          rcases entered with mine | rfl
          · exact .inl (.inr ⟨c, List.mem_of_getElem? found, mine⟩)
          · exact .inr rfl
  · intro j k d e at_j at_k key entered_d entered_e
    rw [moved, Population.getElem?_replace found] at at_j at_k
    by_cases first : i = j <;> by_cases there : i = k
    · exact first.symm.trans there
    · rw [if_pos first] at at_j
      rw [if_neg there] at at_k
      obtain rfl := Option.some.inj at_j
      exact absurd (alone k e at_k key.symm entered_e).symm there
    · rw [if_neg first] at at_j
      rw [if_pos there] at at_k
      obtain rfl := Option.some.inj at_k
      exact absurd (alone j d at_j key entered_d).symm first
    · rw [if_neg first] at at_j
      rw [if_neg there] at at_k
      exact raced.single j k d e at_j at_k key entered_d entered_e
  · rw [moved]
    have kept : ∀ d ∈ s.claims, d.refused = true → d.admitted = 0 ∧
        ∃ e ∈ s.claims.set i { c with admitted := c.admitted + 1 },
          e.key = d.key ∧ 0 < e.admitted := by
      intro d member refused
      obtain ⟨none, e, member', key, entered⟩ := raced.refused d member refused
      rcases others e member' with rfl | elsewhere
      · exact ⟨none, _, here, key, by simp⟩
      · exact ⟨none, e, elsewhere, key, entered⟩
    apply Population.forall_replace kept
    intro refused
    cases going.symm.trans refused

omit [DecidableRel conflicts] in
/-- A refused claim has entered nothing, and a rival is in its way. -/
theorem Raced.turned_away {before : List α} {claims : List (Claim κ α)} {s s' : Race κ conflicts}
    (raced : Raced before claims s) {i : Nat} {c : Claim κ α} (found : s.claims[i]? = some c)
    (blocked : ∃ d ∈ s.claims, d.key = c.key ∧ c.admitted < d.admitted)
    (held : s'.held = s.held) (moved : s'.claims = s.claims.set i { c with refused := true }) :
    Raced before claims s' := by
  have member := List.mem_of_getElem? found
  obtain ⟨here, others⟩ := Population.mem_replace found { c with refused := true }
  have none : c.admitted = 0 := by
    obtain ⟨d, member', key, further⟩ := blocked
    by_contra some_entered
    obtain ⟨j, at_j⟩ := List.mem_iff_getElem?.mp member'
    obtain rfl := raced.single j i d c at_j found key (by omega) (by omega)
    obtain rfl := Option.some.inj (found.symm.trans at_j)
    omega
  have entries : ∀ P : Claim κ α → Prop, (P { c with refused := true } ↔ P c) →
      ((∃ d ∈ s'.claims, P d) ↔ ∃ d ∈ s.claims, P d) := by
    intro P same
    rw [moved]
    constructor
    · rintro ⟨d, member', holds⟩
      rcases List.mem_or_eq_of_mem_set member' with earlier | rfl
      · exact ⟨d, earlier, holds⟩
      · exact ⟨c, member, same.mp holds⟩
    · rintro ⟨d, member', holds⟩
      rcases others d member' with rfl | elsewhere
      · exact ⟨_, here, same.mpr holds⟩
      · exact ⟨d, elsewhere, holds⟩
  have origin : ∀ (j : Nat) (d : Claim κ α), s'.claims[j]? = some d →
      ∃ e : Claim κ α, s.claims[j]? = some e ∧ e.key = d.key ∧ e.admitted = d.admitted := by
    intro j d at_j
    rw [moved, Population.getElem?_replace found] at at_j
    by_cases mine : i = j
    · subst mine
      rw [if_pos rfl] at at_j
      obtain rfl := Option.some.inj at_j
      exact ⟨c, found, rfl, rfl⟩
    · rw [if_neg mine] at at_j
      exact ⟨d, at_j, rfl, rfl⟩
  refine ⟨?_, ?_, ?_, ?_, ?_⟩
  · rw [moved]
    exact raced.moved_same found rfl rfl
  · rw [moved]
    exact Population.forall_replace raced.within (raced.within c member)
  · intro b
    rw [held, raced.members, entries (fun d => b ∈ d.entered) Iff.rfl]
  · intro j k d e at_j at_k key entered_d entered_e
    obtain ⟨d', at_j, key_d, same_d⟩ := origin j d at_j
    obtain ⟨e', at_k, key_e, same_e⟩ := origin k e at_k
    exact raced.single j k d' e' at_j at_k (by rw [key_d, key_e, key]) (by omega) (by omega)
  · intro d member' refused
    rw [entries (fun e => e.key = d.key ∧ 0 < e.admitted) Iff.rfl]
    rw [moved] at member'
    rcases List.mem_or_eq_of_mem_set member' with earlier | rfl
    · exact raced.refused d earlier refused
    · obtain ⟨e, member'', key, further⟩ := blocked
      exact ⟨none, e, member'', key, by omega⟩

theorem Raced.step {before : List α} {claims : List (Claim κ α)} {s s' : Race κ conflicts}
    (raced : Raced before claims s) (rivals : Rivalry conflicts claims)
    (apart : ∀ b ∈ before, ∀ c ∈ s.claims, ∀ a ∈ c.candidates, ¬ conflicts b a) {i : Nat}
    (h : s.step i = some s') : Raced before claims s' := by
  obtain ⟨c, a, found, going, candidate, split⟩ := step_cases h
  have fits := raced.fits_iff rivals apart (List.mem_of_getElem? found) candidate
  rcases split with ⟨entered, members, moved⟩ | ⟨unfit, held, moved⟩
  · exact raced.admitted found going candidate (fits.mp entered) members moved
  · simp only [fits, not_forall, Nat.not_le, exists_prop] at unfit
    exact raced.turned_away found unfit held moved

/-- Without a rival at work, a claim is a bulk admission. -/
theorem run_alone {s : Race κ conflicts} {i : Nat} {c : Claim κ α} (found : s.claims[i]? = some c)
    (going : c.refused = false) (within : c.admitted ≤ c.candidates.length) :
    let result := s.held.acceptAll (c.candidates.drop c.admitted)
    ∃ n c', run step s (List.replicate n i) =
        some { held := result.1, claims := s.claims.set i c' } ∧
      c'.Finished ∧ (c'.Complete ↔ result.2 = true) := by
  obtain ⟨left, count⟩ : ∃ left, left = c.candidates.length - c.admitted := ⟨_, rfl⟩
  induction left generalizing s c with
  | zero =>
      have all : c.admitted = c.candidates.length := by omega
      have kept : s.claims.set i c = s.claims := by
        obtain ⟨inside, rfl⟩ := List.getElem?_eq_some_iff.mp found
        exact List.set_getElem_self inside
      refine ⟨0, c, ?_, .inr all, ?_⟩
      · simp [all, acceptAll, kept]
      · simp [all, acceptAll, Claim.Complete, going]
  | succ left ih =>
      have inside : c.admitted < c.candidates.length := by omega
      have candidate := List.getElem?_eq_getElem inside
      rw [List.drop_eq_getElem_cons inside]
      cases entered : s.held.accept c.candidates[c.admitted] with
      | none =>
          refine ⟨1, { c with refused := true }, ?_, .inl rfl, ?_⟩
          · simp [run, step, found, going, candidate, entered, acceptAll]
          · simp [acceptAll, entered, Claim.Complete]
      | some held =>
          have first : s.step i = some
              { held, claims := s.claims.set i { c with admitted := c.admitted + 1 } } := by
            simp [step, found, going, candidate, entered]
          obtain ⟨n, c', ran, finished, complete⟩ := ih
            (s := { held, claims := s.claims.set i { c with admitted := c.admitted + 1 } })
            (c := { c with admitted := c.admitted + 1 })
            (by simp [Population.getElem?_replace found]) going inside (by simp only; omega)
          refine ⟨n + 1, c', ?_, finished, ?_⟩
          · rw [List.replicate_succ]
            apply run_cons_some.mpr ⟨_, first, ?_⟩
            simpa [acceptAll, entered, List.set_set] using ran
          · simpa [acceptAll, entered] using complete

/-- The race when nobody has tried. -/
def start (held : ConflictFree conflicts) (entries : List (κ × List α)) : Race κ conflicts where
  held := held
  claims := entries.map fun e => { key := e.1, candidates := e.2 }

/-- Nobody is left to try. -/
def Over (s : Race κ conflicts) : Prop := ∀ c ∈ s.claims, c.Finished

instance (s : Race κ conflicts) : Decidable s.Over :=
  inferInstanceAs (Decidable (∀ c ∈ s.claims, c.refused = true ∨ c.admitted = c.candidates.length))

theorem Raced.run {held : ConflictFree conflicts} {entries : List (κ × List α)}
    (rivals : Rivalry conflicts (start held entries).claims)
    (apart : ∀ b ∈ held.members, ∀ e ∈ entries, ∀ a ∈ e.2, ¬ conflicts b a) {tries : List Nat}
    {s : Race κ conflicts} (h : run Race.step (start held entries) tries = some s) :
    Raced held.members (start held entries).claims s := by
  have fresh : ∀ c ∈ (start held entries).claims, c.admitted = 0 ∧ c.refused = false := by
    intro c member
    obtain ⟨e, -, rfl⟩ := List.mem_map.mp member
    exact ⟨rfl, rfl⟩
  refine run_invariant (I := Raced held.members (start held entries).claims) ?_ ?_ h
  · intro s i s' raced taken
    apply raced.step rivals _ taken
    intro b old c member a candidate
    have inside := List.mem_map_of_mem (f := fun c : Claim κ α => (c.key, c.candidates)) member
    rw [raced.same, start, List.map_map] at inside
    obtain ⟨e, entry, same⟩ := List.mem_map.mp inside
    have mine : e.2 = c.candidates := congrArg Prod.snd same
    exact apart b old e entry a (mine ▸ candidate)
  · refine ⟨rfl, ?_, ?_, ?_, ?_⟩
    · intro c member
      have := fresh c member
      omega
    · intro b
      constructor
      · exact .inl
      · rintro (old | ⟨c, member, entered⟩)
        · exact old
        · rw [Claim.entered, (fresh c member).1, List.take_zero] at entered
          cases entered
    · intro i j c d at_i at_j key entered
      have := fresh c (List.mem_of_getElem? at_i)
      omega
    · intro c member refused
      cases (fresh c member).2.symm.trans refused

/-- The claim with this number has the key and entered as a whole. -/
def Wins (s : Race κ conflicts) (k : κ) (i : Nat) : Prop :=
  ∃ d : Claim κ α, s.claims[i]? = some d ∧ d.key = k ∧ d.Complete

omit [DecidableRel conflicts] in
/-- When the race is over, every claim entered as a whole or not at all, and of
    the claims with one key exactly one entered. -/
theorem Raced.decided {before : List α} {claims : List (Claim κ α)} {s : Race κ conflicts}
    (raced : Raced before claims s) (ended : s.Over) (some_each : ∀ c ∈ s.claims, c.candidates ≠ []) :
    (∀ c ∈ s.claims, c.Complete ∨ c.refused = true ∧ c.entered = []) ∧
      ∀ c ∈ s.claims, ∃! i, s.Wins c.key i := by
  have finished : ∀ c ∈ s.claims, c.Complete ∨ c.refused = true ∧ c.admitted = 0 := by
    intro c member
    cases refused : c.refused with
    | true => exact .inr ⟨rfl, (raced.refused c member refused).1⟩
    | false =>
        rcases ended c member with yes | all
        · cases refused.symm.trans yes
        · exact .inl ⟨refused, all⟩
  have positive : ∀ c ∈ s.claims, c.Complete → 0 < c.admitted := by
    intro c member complete
    rw [complete.2]
    exact List.length_pos_iff.mpr (some_each c member)
  constructor
  · intro c member
    rcases finished c member with complete | ⟨refused, none⟩
    · exact .inl complete
    · exact .inr ⟨refused, by rw [Claim.entered, none, List.take_zero]⟩
  · intro c member
    obtain ⟨d, winner, key, complete⟩ : ∃ d ∈ s.claims, d.key = c.key ∧ d.Complete := by
      rcases finished c member with complete | ⟨refused, -⟩
      · exact ⟨c, member, rfl, complete⟩
      · obtain ⟨d, winner, key, entered⟩ := (raced.refused c member refused).2
        rcases finished d winner with complete | ⟨-, none⟩
        · exact ⟨d, winner, key, complete⟩
        · omega
    obtain ⟨i, at_i⟩ := List.mem_iff_getElem?.mp winner
    refine ⟨i, ⟨d, at_i, key, complete⟩, ?_⟩
    rintro j ⟨e, at_j, key', complete'⟩
    exact raced.single j i e d at_j at_i (key'.trans key.symm)
      (positive e (List.mem_of_getElem? at_j) complete') (positive d winner complete)

end Race

end ConflictFree
