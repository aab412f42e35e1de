import Mathlib.Algebra.Order.BigOperators.Group.List
import Mathlib.Algebra.Order.Group.Nat
import DrMetrix.Lib.Script
import DrMetrix.Core.Replay

/-! # What the loop asks of its backend

The requests of every session are those of the collector's script, in its order.
Since the starts keep their distance, so do the scripts: this bounds the load
which one loop can put on its backend.
-/

namespace DrMetrix

open Transition

variable {ι σ κ ρ ε : Type}

/-- The requests of all sessions. -/
def requestsOf (collect : ι → Async σ κ ρ ε Unit) (xs : List (Session ι ρ)) : List κ :=
  xs.flatMap fun x => (collect x.env).requests x.replies

/-- The loop against a script of requests. -/
structure Scripted (script : List κ) (errors : ε → Prop) (collect : ι → Async σ κ ρ ε Unit)
    (began interval : Nat) (xs : List (Session ι ρ)) (s : CollectTask ι σ κ ρ ε) : Prop where
  /-- Also in a session which failed, panicked, was aborted or is under way. -/
  inOrder : ∀ x ∈ xs, (collect x.env).requests x.replies <+: script
  complete : ∀ c ∈ s.collections, c.outcome = .ok () →
    (collect c.env).requests c.replies = script
  failed : ∀ c ∈ s.collections, ∀ e, c.outcome = .err e → errors e
  /-- Not more than one script in each interval, up to the first start and the
      tolerance of the ticker. -/
  load : (requestsOf collect xs).length * interval ≤
    script.length * (s.now - began + Ticker.tolerance + interval)

namespace CollectTask

variable {collect : ι → Async σ κ ρ ε Unit} {initial : σ} {s s' : CollectTask ι σ κ ρ ε}

/-- Starts lie between the spawn and now, one for each session. -/
structure Started (began : Nat) (xs : List (Session ι ρ)) (s : CollectTask ι σ κ ρ ε) : Prop where
  clock : began ≤ s.now
  within : ∀ b ∈ s.starts, began ≤ b ∧ b ≤ s.now
  sessions : xs.length = s.starts.length
  opened : ∀ env before replies rest, s.phase = .collecting env before replies rest → xs ≠ []

theorem Started.step {began : Nat} {xs : List (Session ι ρ)} {a : TaskAction ι ρ}
    (started : Started began xs s) (h : step collect s a = some s') :
    Started began (a.record xs) s' := by
  obtain ⟨clock, within, sessions, opened⟩ := started
  cases a with
  | wait delay =>
      cases h
      refine ⟨by simp only; omega, ?_, sessions, opened⟩
      intro b member
      have old := within b member
      exact ⟨old.1, by simp only; omega⟩
  | tick env =>
      obtain ⟨-, -, rfl⟩ := step_tick h
      refine ⟨clock, Population.forall_join within ⟨clock, Nat.le_refl _⟩, ?_, ?_⟩
      · simp only [TaskAction.record, List.length_append, List.length_singleton, sessions]
      · simp [TaskAction.record]
  | work =>
      obtain ⟨env, before, replies, rest, running, split⟩ := step_work h
      rcases split with ⟨update, next, -, rfl⟩ | ⟨outcome, phase, rfl, -, stopped⟩
      · exact ⟨clock, within, sessions, fun _ _ _ _ _ => opened _ _ _ _ running⟩
      · exact ⟨clock, within, sessions, fun _ _ _ _ _ => opened _ _ _ _ running⟩
  | reply r =>
      obtain ⟨env, before, replies, q, next, running, rfl⟩ := step_reply h
      have some_open := opened _ _ _ _ running
      have last := List.getLast?_eq_some_getLast some_open
      have count : ((TaskAction.reply r : TaskAction ι ρ).record xs).length = xs.length := by
        have positive := List.length_pos_iff.mpr some_open
        simp only [TaskAction.record, last, List.length_append, List.length_dropLast,
          List.length_singleton]
        omega
      refine ⟨clock, within, count.trans sessions, ?_⟩
      intro _ _ _ _ _ none
      rw [none, List.length_nil] at count
      exact some_open (List.length_eq_zero_iff.mp count.symm)
  | abort =>
      obtain ⟨-, rfl⟩ := step_abort h
      exact ⟨clock, within, sessions, by simp⟩

theorem run_started {began interval : Nat} {actions : List (TaskAction ι ρ)}
    (h : run (step collect) (spawn initial began interval) actions = some s) :
    Started began (sessions actions) s := by
  refine run_history (I := fun as s => Started began (sessions as) s) ?_ ?_ h
  · intro as s a s' started taken
    rw [sessions_concat]
    exact started.step taken
  · refine ⟨Nat.le_refl _, by simp [spawn], rfl, ?_⟩
    intro env before replies rest running
    simp only [spawn] at running
    split at running <;> cases running

/-- Starts per time. -/
theorem starts_bounded {began interval : Nat} {actions : List (TaskAction ι ρ)}
    (h : run (step collect) (spawn initial began interval) actions = some s) :
    s.starts.length * interval ≤ s.now - began + Ticker.tolerance + interval := by
  obtain ⟨clock, within, -, -⟩ := run_started h
  have spaced := (run_paced h).spaced
  cases count : s.starts.length with
  | zero => omega
  | succ n =>
      have first : s.starts[0]? = some s.starts[0] := List.getElem?_eq_getElem (by omega)
      have last : s.starts[0 + n]? = some s.starts[0 + n] := List.getElem?_eq_getElem (by omega)
      have apart := spaced 0 n _ _ first last
      have from_began := (within _ (List.mem_of_getElem? first)).1
      have to_now := (within _ (List.mem_of_getElem? last)).2
      rw [Nat.succ_mul]
      omega

theorem spawnCollectLoop_scripted {script : List κ} {errors : ε → Prop} {began interval : Nat}
    {actions : List (TaskAction ι ρ)}
    (follows : ∀ env, (collect env).Follows errors script)
    (h : run (step collect) (spawn initial began interval) actions = some s) :
    Scripted script errors collect began interval (sessions actions) s := by
  have traced := run_traced h
  have outcome : ∀ c ∈ s.collections, ((collect c.env).answer c.replies).1 = c.outcome := by
    intro c member
    rw [← Async.exec_answer (collect c.env) c.before, traced.ran c member]
  refine ⟨fun x _ => (follows x.env).requests_within x.replies, ?_, ?_, ?_⟩
  · intro c member returned
    exact (follows c.env).requests_ok ((outcome c member).trans returned)
  · intro c member e failed
    exact (follows c.env).error ((outcome c member).trans failed)
  · have each : (requestsOf collect (sessions actions)).length ≤
        (sessions actions).length * script.length := by
      rw [requestsOf, List.length_flatMap]
      have bounded := List.sum_le_card_nsmul
        ((sessions actions).map fun x => ((collect x.env).requests x.replies).length)
        script.length (List.forall_mem_map.mpr fun x _ =>
          ((follows x.env).requests_within x.replies).length_le)
      simpa using bounded
    rw [(run_started h).sessions] at each
    calc (requestsOf collect (sessions actions)).length * interval
        ≤ s.starts.length * script.length * interval := Nat.mul_le_mul_right interval each
      _ = script.length * (s.starts.length * interval) := by
          rw [Nat.mul_comm s.starts.length, Nat.mul_assoc]
      _ ≤ script.length * (s.now - began + Ticker.tolerance + interval) :=
          Nat.mul_le_mul_left _ (starts_bounded h)

end CollectTask

end DrMetrix
