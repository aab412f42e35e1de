import DrMetrix.Core.Pacing

/-! # How old a snapshot can be

The ticker keeps the loop from running too often. Whether it runs often enough
is up to the runtime and to the backend: if due ticks are taken in time and
collections return in time, the starts are never far apart, and what the last
collections found is never old.
-/

namespace DrMetrix.CollectTask

open Transition

variable {ι σ κ ρ ε : Type} {collect : ι → Async σ κ ρ ε Unit} {s s' : CollectTask ι σ κ ρ ε}
  {began interval lateness duration : Nat}

/-- When the last collection returned. -/
def idleSince (s : CollectTask ι σ κ ρ ε) : Nat :=
  (s.collections.getLast?.map Collection.returned).getD 0

/-- A due tick waits no longer than the lateness, a collection lasts no longer
    than the duration. -/
def Punctual (lateness duration : Nat) (s : CollectTask ι σ κ ρ ε) : Prop :=
  match s.phase with
  | .ticking => s.now ≤ max s.ticker.deadline s.idleSince + lateness
  | .collecting .. => ∀ b ∈ s.starts.getLast?, s.now ≤ b + duration
  | .panicked | .aborted => True

/-- Neither panicked nor aborted. -/
def Alive (s : CollectTask ι σ κ ρ ε) : Prop :=
  match s.phase with
  | .ticking | .collecting .. => True
  | .panicked | .aborted => False

/-- A step which is not the passing of time is taken by a living task. -/
theorem step_alive {a : TaskAction ι ρ} (h : step collect s a = some s')
    (acts : ∀ delay, a ≠ .wait delay) :
    s.Alive ∧ s'.now = s.now ∧ (s'.phase = .aborted → a = .abort) := by
  unfold Alive
  cases a with
  | wait delay => exact absurd rfl (acts delay)
  | tick env =>
      obtain ⟨ticking, -, rfl⟩ := step_tick h
      simp [ticking]
  | work =>
      obtain ⟨env, before, replies, rest, running, split⟩ := step_work h
      rcases split with ⟨update, next, -, rfl⟩ | ⟨outcome, phase, rfl, -, stopped⟩
      · simp [running]
      · rcases stopped with ⟨rfl, -⟩ | ⟨rfl, -⟩ <;> simp [running, CollectTask.finish]
  | reply r =>
      obtain ⟨_, _, _, _, _, running, rfl⟩ := step_reply h
      simp [running]
  | abort =>
      obtain ⟨ticking | ⟨_, _, _, _, _, running⟩, rfl⟩ := step_abort h
      · simp [ticking]
      · simp [running]

/-- No two consecutive starts are further apart than this. -/
def gap (interval lateness duration : Nat) : Nat := max interval duration + lateness

structure Timely (began interval lateness duration : Nat) (s : CollectTask ι σ κ ρ ε) : Prop where
  period : s.ticker.period = interval
  due : s.ticker.deadline ≤ (s.starts.getLast?.map (· + interval)).getD began
  idle : s.phase = .ticking → s.idleSince ≤ (s.starts.getLast?.map (· + duration)).getD 0
  opened : ∀ env before replies rest, s.phase = .collecting env before replies rest → s.starts ≠ []
  first : ∀ a, s.starts[0]? = some a → a ≤ began + lateness
  close : ∀ i a b, s.starts[i]? = some a → s.starts[i + 1]? = some b →
    b ≤ a + gap interval lateness duration

theorem Timely.ticked (timely : Timely began interval lateness duration s)
    (punctual : s.Punctual lateness duration) (ticking : s.phase = .ticking)
    (due : s.ticker.deadline ≤ s.now) (env : ι) :
    Timely began interval lateness duration
      { s with
        ticker := s.ticker.tick s.now
        phase := .collecting env s.state [] (collect env)
        starts := s.starts ++ [s.now] } := by
  obtain ⟨period, deadline, idle, -, first, close⟩ := timely
  have back := idle ticking
  simp only [Punctual, ticking] at punctual
  refine ⟨period, ?_, by simp, fun _ _ _ _ _ => by simp, ?_, ?_⟩
  · simp only [List.getLast?_append, List.getLast?_singleton, Option.some_or, Option.map_some,
      Option.getD_some, Ticker.tick, period]
    split <;> omega
  · intro a found
    by_cases none : s.starts = []
    · simp only [none, List.nil_append, List.getElem?_cons_zero, Option.some.injEq] at found
      simp only [none, List.getLast?_nil, Option.map_none, Option.getD_none] at deadline back
      omega
    · rw [List.getElem?_append_left (List.length_pos_iff.mpr none)] at found
      exact first a found
  · intro i a b found next
    by_cases old : i + 1 < s.starts.length
    · rw [List.getElem?_append_left (by omega)] at found
      rw [List.getElem?_append_left old] at next
      exact close i a b found next
    · have inside := (List.getElem?_eq_some_iff.mp next).1
      rw [List.length_append, List.length_singleton] at inside
      have last : i + 1 = s.starts.length := by omega
      rw [List.getElem?_append_left (by omega)] at found
      rw [last, List.getElem?_concat_length] at next
      obtain rfl := Option.some.inj next
      have before : s.starts.getLast? = some a := by
        rw [List.getLast?_eq_getElem?, ← last]
        exact found
      simp only [before, Option.map_some, Option.getD_some] at deadline back
      unfold gap
      omega

theorem Timely.step {a : TaskAction ι ρ} (timely : Timely began interval lateness duration s)
    (punctual : s.Punctual lateness duration) (h : step collect s a = some s') :
    Timely began interval lateness duration s' := by
  have now := timely
  obtain ⟨period, deadline, idle, opened, first, close⟩ := now
  cases a with
  | wait delay =>
      cases h
      exact ⟨period, deadline, idle, opened, first, close⟩
  | tick env =>
      obtain ⟨ticking, due, rfl⟩ := step_tick h
      exact timely.ticked punctual ticking due env
  | work =>
      obtain ⟨env, before, replies, rest, running, split⟩ := step_work h
      have started := opened _ _ _ _ running
      rcases split with ⟨update, next, -, rfl⟩ | ⟨outcome, phase, rfl, -, stopped⟩
      · exact ⟨period, deadline, by simp, fun _ _ _ _ _ => started, first, close⟩
      · refine ⟨period, deadline, fun _ => ?_, fun _ _ _ _ _ => started, first, close⟩
        have last := List.getLast?_eq_some_getLast started
        simp only [Punctual, running] at punctual
        simp only [idleSince, CollectTask.finish, List.getLast?_append, List.getLast?_singleton,
          Option.some_or, Option.map_some, Option.getD_some, last]
        exact punctual _ last
  | reply r =>
      obtain ⟨_, _, _, _, _, running, rfl⟩ := step_reply h
      have started := opened _ _ _ _ running
      exact ⟨period, deadline, by simp, fun _ _ _ _ _ => started, first, close⟩
  | abort =>
      obtain ⟨-, rfl⟩ := step_abort h
      exact ⟨period, deadline, by simp, by simp, first, close⟩

theorem run_timely {initial : σ} {actions : List (TaskAction ι ρ)}
    (h : run (step collect) (spawn initial began interval) actions = some s)
    (punctual : ∀ u, Visits (step collect) (spawn initial began interval) actions u →
      u.Punctual lateness duration) : Timely began interval lateness duration s := by
  have start : Timely began interval lateness duration
      (spawn initial began interval : CollectTask ι σ κ ρ ε) := by
    refine ⟨rfl, Nat.le_refl _, fun _ => Nat.le_refl _, ?_, by simp [spawn], by simp [spawn]⟩
    intro env before replies rest running
    simp only [spawn] at running
    split at running <;> cases running
  induction actions using List.reverseRecOn generalizing s with
  | nil =>
      cases h
      exact start
  | append_singleton actions a ih =>
      obtain ⟨u, before, last⟩ := run_append_some.mp h
      obtain ⟨v, taken, finished⟩ := run_cons_some.mp last
      cases finished
      have earlier := ih before (by
        rintro w ⟨pre, inside, reached⟩
        exact punctual w ⟨pre, inside.trans (List.prefix_append _ _), reached⟩)
      exact earlier.step (punctual u ⟨actions, List.prefix_append _ _, before⟩) taken

/-- Starts which are `k` collections apart, and the age of every start. -/
structure Fresh (began interval lateness duration : Nat) (s : CollectTask ι σ κ ρ ε) : Prop where
  apart : ∀ i k a b, s.starts[i]? = some a → s.starts[i + k]? = some b →
    b ≤ a + k * gap interval lateness duration
  /-- While the loop lives, what a collection found is no older than that, even if
      all later collections failed. -/
  age : s.Alive → ∀ i a, s.starts[i]? = some a →
    s.now ≤ a + (s.starts.length - i) * gap interval lateness duration
  /-- The loop keeps starting collections. -/
  progress : s.Alive → s.now ≤ began + lateness + s.starts.length * gap interval lateness duration

theorem Timely.apart (timely : Timely began interval lateness duration s) (i k a b : Nat)
    (first : s.starts[i]? = some a) (last : s.starts[i + k]? = some b) :
    b ≤ a + k * gap interval lateness duration := by
  induction k generalizing b with
  | zero =>
      obtain rfl := Option.some.inj (first.symm.trans last)
      omega
  | succ k ih =>
      have inside := (List.getElem?_eq_some_iff.mp last).1
      have before : s.starts[i + k]? = some s.starts[i + k] := List.getElem?_eq_getElem (by omega)
      have close := timely.close (i + k) _ b before last
      have earlier := ih _ before
      rw [Nat.succ_mul]
      omega

/-- The last start is recent. -/
theorem Timely.recent (timely : Timely began interval lateness duration s)
    (punctual : s.Punctual lateness duration) (alive : s.Alive) :
    (∀ b ∈ s.starts.getLast?, s.now ≤ b + gap interval lateness duration) ∧
      (s.starts = [] → s.now ≤ began + lateness) := by
  obtain ⟨-, deadline, idle, opened, -, -⟩ := timely
  unfold gap
  cases phase : s.phase with
  | ticking =>
      have back := idle phase
      simp only [Punctual, phase] at punctual
      constructor
      · intro b last
        simp only [Option.mem_def.mp last, Option.map_some, Option.getD_some] at deadline back
        omega
      · intro none
        simp only [none, List.getLast?_nil, Option.map_none, Option.getD_none] at deadline back
        omega
  | collecting env before replies rest =>
      simp only [Punctual, phase] at punctual
      constructor
      · intro b last
        have short := punctual b last
        omega
      · exact fun none => absurd none (opened env before replies rest phase)
  | panicked | aborted => simp only [Alive, phase] at alive

/-- The dual of the pacing: a punctual loop starts a collection in every gap. -/
theorem spawnCollectLoop_fresh {initial : σ} {actions : List (TaskAction ι ρ)}
    (h : run (step collect) (spawn initial began interval) actions = some s)
    (punctual : ∀ u, Visits (step collect) (spawn initial began interval) actions u →
      u.Punctual lateness duration) : Fresh began interval lateness duration s := by
  have timely := run_timely h punctual
  have last_start : s.Alive → ∀ n, s.starts.length = n + 1 → ∃ b, s.starts[n]? = some b ∧
      s.now ≤ b + gap interval lateness duration := by
    intro alive n count
    have recent := (timely.recent (punctual s ⟨actions, List.prefix_refl _, h⟩) alive).1
    obtain ⟨b, found⟩ : ∃ b, s.starts[n]? = some b := ⟨_, List.getElem?_eq_getElem (by omega)⟩
    refine ⟨b, found, recent b ?_⟩
    rw [List.getLast?_eq_getElem?, count]
    exact found
  refine ⟨timely.apart, ?_, ?_⟩
  · intro alive i a found
    have inside := (List.getElem?_eq_some_iff.mp found).1
    obtain ⟨k, count⟩ : ∃ k, s.starts.length = i + k + 1 := ⟨s.starts.length - i - 1, by omega⟩
    obtain ⟨b, last, recent⟩ := last_start alive (i + k) count
    have apart := timely.apart i k a b found last
    have steps : s.starts.length - i = k + 1 := by omega
    rw [steps, Nat.succ_mul]
    omega
  · intro alive
    cases count : s.starts.length with
    | zero =>
        have none : s.starts = [] := List.length_eq_zero_iff.mp count
        have early := (timely.recent (punctual s ⟨actions, List.prefix_refl _, h⟩) alive).2 none
        omega
    | succ n =>
        obtain ⟨b, last, recent⟩ := last_start alive n count
        have found : s.starts[0]? = some s.starts[0] := List.getElem?_eq_getElem (by omega)
        have apart := timely.apart 0 n _ b found (by rwa [Nat.zero_add])
        have first := timely.first _ found
        rw [Nat.succ_mul]
        omega

/-- A collection of 3 ns in a loop of 10 ns, and a second tick which is 1 ns late. -/
def slowThenLate : List (TaskAction Unit Unit) :=
  [.tick (), .wait 3, .reply (), .work, .wait 8, .tick ()]

theorem spawnCollectLoop_fresh_late :
    ∃ s : CollectTask Unit Unit Unit Unit String,
      run (step fun _ => .await () fun _ => .fail "down") (spawn () 0 10) slowThenLate = some s ∧
        s.starts = [0, 11] ∧ Fresh 0 10 1 3 s := by
  obtain ⟨s, ran, starts⟩ : ∃ s : CollectTask Unit Unit Unit Unit String,
      run (step fun _ => .await () fun _ => .fail "down") (spawn () 0 10) slowThenLate = some s ∧
        s.starts = [0, 11] := ⟨_, rfl, rfl⟩
  refine ⟨s, ran, starts, spawnCollectLoop_fresh ran ?_⟩
  unfold slowThenLate
  repeat rw [forall_visits_cons rfl]
  rw [forall_visits_nil]
  simp [Punctual, spawn, idleSince, CollectTask.finish, Ticker.tick, Ticker.tolerance]

end DrMetrix.CollectTask
