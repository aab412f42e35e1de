import Mathlib.Data.List.Induction

/-! # Runs of partial step functions

A system is an executable `step : σ → α → Option σ`; an action which is not
enabled yields `none`. Safety follows from `run_invariant`. A property which a
faulty step destroys for good is characterised by `run_iff`: it holds at the end
of a run exactly when every step of the run met the step condition.
-/

namespace Transition

variable {σ α : Type*} {step : σ → α → Option σ}

/-- The state after all actions, provided each was enabled in turn. -/
def run (step : σ → α → Option σ) : σ → List α → Option σ
  | s, [] => some s
  | s, a :: as => (step s a).bind fun s' => run step s' as

/-- Every step of the run meets `P` in the state where it is taken. -/
def StepsMeet (step : σ → α → Option σ) (P : σ → α → Prop) : σ → List α → Prop
  | _, [] => True
  | s, a :: as => P s a ∧ ∀ s', step s a = some s' → StepsMeet step P s' as

/-- `t` is the state after some prefix of the actions. -/
def Visits (step : σ → α → Option σ) (s : σ) (as : List α) (t : σ) : Prop :=
  ∃ pre, pre <+: as ∧ run step s pre = some t

@[simp] theorem run_nil (s : σ) : run step s [] = some s := rfl

theorem run_cons_some {s t : σ} {a : α} {as : List α} :
    run step s (a :: as) = some t ↔ ∃ s', step s a = some s' ∧ run step s' as = some t := by
  simp only [run, Option.bind_eq_some_iff]

theorem run_append (s : σ) (as bs : List α) :
    run step s (as ++ bs) = (run step s as).bind fun t => run step t bs := by
  induction as generalizing s with
  | nil => rfl
  | cons a as ih =>
      simp only [List.cons_append, run, Option.bind_assoc]
      congr 1
      funext s'
      exact ih s'

theorem run_append_some {s t : σ} {as bs : List α} :
    run step s (as ++ bs) = some t ↔ ∃ u, run step s as = some u ∧ run step u bs = some t := by
  simp only [run_append, Option.bind_eq_some_iff]

/-- A property kept by every step is kept by every run. -/
theorem run_invariant {I : σ → Prop}
    (keep : ∀ s a s', I s → step s a = some s' → I s') {s t as}
    (start : I s) (h : run step s as = some t) : I t := by
  induction as generalizing s with
  | nil =>
      cases h
      exact start
  | cons a as ih =>
      obtain ⟨s', first, rest⟩ := run_cons_some.mp h
      exact ih (keep s a s' start first) rest

/-- An invariant between a state and the actions which led to it. -/
theorem run_history {I : List α → σ → Prop}
    (keep : ∀ as s a s', I as s → step s a = some s' → I (as ++ [a]) s') {s t as}
    (start : I [] s) (h : run step s as = some t) : I as t := by
  induction as using List.reverseRecOn generalizing t with
  | nil =>
      cases h
      exact start
  | append_singleton as a ih =>
      obtain ⟨u, before, last⟩ := run_append_some.mp h
      obtain ⟨t', taken, finished⟩ := run_cons_some.mp last
      cases finished
      exact keep as u a t (ih before) taken

/-- A property which one step keeps exactly when the step meets `P` holds after
    a run exactly when it held before and every step met `P`. -/
theorem run_iff {I Q : σ → Prop} {P : σ → α → Prop}
    (keep : ∀ s a s', I s → step s a = some s' → I s')
    (exact_step : ∀ s a s', I s → step s a = some s' → (Q s' ↔ Q s ∧ P s a)) {s t as}
    (start : I s) (h : run step s as = some t) :
    Q t ↔ Q s ∧ StepsMeet step P s as := by
  induction as generalizing s with
  | nil =>
      cases h
      simp only [StepsMeet, and_true]
  | cons a as ih =>
      obtain ⟨s', first, rest⟩ := run_cons_some.mp h
      have tail := ih (keep s a s' start first) rest
      have head := exact_step s a s' start first
      rw [tail, head, and_assoc]
      refine and_congr_right fun _ => and_congr_right fun _ => ?_
      constructor
      · intro meets s'' same
        obtain rfl : s' = s'' := Option.some.inj (first.symm.trans same)
        exact meets
      · intro meets
        exact meets s' first

/-- What every step meets, a step in the middle of the actions meets. -/
theorem StepsMeet.middle {P : σ → α → Prop} {s u : σ} {pre post : List α} {a : α}
    (meets : StepsMeet step P s (pre ++ a :: post)) (before : run step s pre = some u) :
    P u a := by
  induction pre generalizing s with
  | nil =>
      cases before
      exact meets.1
  | cons b pre ih =>
      obtain ⟨s', first, rest⟩ := run_cons_some.mp before
      exact ih (meets.2 s' first) rest

theorem stepsMeet_of_forall {P : σ → α → Prop} {as : List α} (all : ∀ a ∈ as, ∀ s, P s a) (s : σ) :
    StepsMeet step P s as := by
  induction as generalizing s with
  | nil => trivial
  | cons a as ih =>
      obtain ⟨first, rest⟩ := List.forall_mem_cons.mp all
      exact ⟨first s, fun s' _ => ih rest s'⟩

/-- A step condition which does not read the state is a condition on the list. -/
theorem stepsMeet_forall {P : α → Prop} {s t as} (h : run step s as = some t) :
    StepsMeet step (fun _ a => P a) s as ↔ ∀ a ∈ as, P a := by
  induction as generalizing s with
  | nil => simp only [StepsMeet, List.not_mem_nil, false_implies, implies_true]
  | cons a as ih =>
      obtain ⟨s', first, rest⟩ := run_cons_some.mp h
      simp only [StepsMeet, List.forall_mem_cons]
      refine and_congr_right fun _ => ⟨fun meets => (ih rest).mp (meets s' first), ?_⟩
      intro all s'' same
      obtain rfl : s' = s'' := Option.some.inj (first.symm.trans same)
      exact (ih rest).mpr all

theorem Visits.start (s : σ) (as : List α) : Visits step s as s :=
  ⟨[], List.nil_prefix, rfl⟩

/-- The state before a step of the run and the state after it are both visited. -/
theorem Visits.around {s u v : σ} {pre post : List α} {a : α}
    (before : run step s pre = some u) (taken : step u a = some v) :
    Visits step s (pre ++ a :: post) u ∧ Visits step s (pre ++ a :: post) v := by
  refine ⟨⟨pre, List.prefix_append _ _, before⟩, ⟨pre ++ [a], ⟨post, by simp⟩, ?_⟩⟩
  exact run_append_some.mpr ⟨u, before, by simp only [run, taken, Option.bind_some]⟩

theorem forall_visits_nil {P : σ → Prop} {s : σ} :
    (∀ u, Visits step s [] u → P u) ↔ P s := by
  constructor
  · exact fun all => all s (.start s [])
  · rintro here u ⟨pre, inside, reached⟩
    obtain rfl := List.prefix_nil.mp inside
    cases reached
    exact here

/-- What holds wherever a run goes holds here, and wherever it goes from its next
    state. -/
theorem forall_visits_cons {P : σ → Prop} {s s' : σ} {a : α} {as : List α}
    (taken : step s a = some s') :
    (∀ u, Visits step s (a :: as) u → P u) ↔ P s ∧ ∀ u, Visits step s' as u → P u := by
  constructor
  · intro all
    refine ⟨all s (.start s _), ?_⟩
    rintro u ⟨pre, inside, reached⟩
    exact all u ⟨a :: pre, (List.prefix_cons_inj a).mpr inside, run_cons_some.mpr ⟨s', taken, reached⟩⟩
  · rintro ⟨here, later⟩ u ⟨pre, inside, reached⟩
    cases pre with
    | nil =>
        cases reached
        exact here
    | cons b pre =>
        obtain ⟨rfl, within⟩ := List.cons_prefix_cons.mp inside
        obtain ⟨s'', first, rest⟩ := run_cons_some.mp reached
        obtain rfl := Option.some.inj (taken.symm.trans first)
        exact later u ⟨pre, within, rest⟩

/-- Cut a run at one of its actions. -/
theorem run_split {s t : σ} {pre post : List α} {a : α}
    (h : run step s (pre ++ a :: post) = some t) :
    ∃ u v, run step s pre = some u ∧ step u a = some v ∧ run step v post = some t := by
  obtain ⟨u, before, rest⟩ := run_append_some.mp h
  obtain ⟨v, taken, after⟩ := run_cons_some.mp rest
  exact ⟨u, v, before, taken, after⟩

/-- If each step of a system is one step of its component, or none, its runs are
    runs of the component. -/
theorem run_project {τ β : Type*} {inner : τ → β → Option τ} (view : σ → τ) (pick : α → Option β)
    (each : ∀ s a s', step s a = some s' → run inner (view s) (pick a).toList = some (view s'))
    {s t : σ} {as : List α} (h : run step s as = some t) :
    run inner (view s) (as.filterMap pick) = some (view t) := by
  induction as generalizing s with
  | nil =>
      cases h
      rfl
  | cons a as ih =>
      obtain ⟨s', first, rest⟩ := run_cons_some.mp h
      have split : (a :: as).filterMap pick = (pick a).toList ++ as.filterMap pick := by
        cases picked : pick a <;> simp [picked]
      rw [split]
      exact run_append_some.mpr ⟨view s', each s a s' first, ih rest⟩

end Transition
