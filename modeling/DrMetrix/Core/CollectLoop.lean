import DrMetrix.Lib.Async
import DrMetrix.Lib.Ticker
import DrMetrix.Lib.Transition

/-! # The collect loop

The task which `spawn_collect_loop` spawns. It waits for its ticker, runs one
collection to the end, logs an error and waits again. Time passes at any point,
so that collections and scheduling delays last arbitrarily long. `ι` is what a
collection reads when it starts.
-/

namespace DrMetrix

variable {ι σ κ ρ ε : Type}

/-- A collection which came to its end. -/
structure Collection (ι σ κ ρ ε : Type) where
  env : ι
  before : σ
  replies : List ρ
  after : σ
  outcome : Outcome κ ε Unit
  returned : Nat

inductive TaskPhase (ι σ κ ρ ε : Type) where
  | ticking
  /-- With what was there at the start, the replies so far and the rest of the
      collection. -/
  | collecting (env : ι) (before : σ) (replies : List ρ) (rest : Async σ κ ρ ε Unit)
  | panicked
  | aborted

/-- How many collections have started and not ended, unless the task is gone. -/
def TaskPhase.unfinished : TaskPhase ι σ κ ρ ε → Option Nat
  | .ticking | .panicked => some 0
  | .collecting .. => some 1
  | .aborted => none

structure CollectTask (ι σ κ ρ ε : Type) where
  state : σ
  now : Nat
  ticker : Ticker
  phase : TaskPhase ι σ κ ρ ε
  starts : List Nat := []
  collections : List (Collection ι σ κ ρ ε) := []

inductive TaskAction (ι ρ : Type) where
  | wait (delay : Nat)
  | tick (env : ι)
  /-- Run on to the next write, or return. -/
  | work
  | reply (r : ρ)
  | abort

namespace CollectTask

/-- `tokio::time::interval` panics on a zero period. -/
def spawn (state : σ) (now interval : Nat) : CollectTask ι σ κ ρ ε where
  state := state
  now := now
  ticker := { period := interval, deadline := now }
  phase := if interval = 0 then .panicked else .ticking

/-- The collection is over. After `Ok` and after `Err` the loop goes on, a panic
    ends it. -/
def finish (s : CollectTask ι σ κ ρ ε) (env : ι) (before : σ) (replies : List ρ)
    (outcome : Outcome κ ε Unit) (phase : TaskPhase ι σ κ ρ ε) : CollectTask ι σ κ ρ ε :=
  { s with
    phase
    collections := s.collections ++
      [{ env, before, replies, after := s.state, outcome, returned := s.now }] }

def step (collect : ι → Async σ κ ρ ε Unit) (s : CollectTask ι σ κ ρ ε) :
    TaskAction ι ρ → Option (CollectTask ι σ κ ρ ε)
  | .wait delay => some { s with now := s.now + delay }
  | .tick env =>
      match s.phase with
      | .ticking =>
          if s.ticker.deadline ≤ s.now then
            some { s with
              ticker := s.ticker.tick s.now
              phase := .collecting env s.state [] (collect env)
              starts := s.starts ++ [s.now] }
          else none
      | _ => none
  | .work =>
      match s.phase with
      | .collecting env before replies (.done ()) =>
          some (s.finish env before replies (.ok ()) .ticking)
      | .collecting env before replies (.fail e) =>
          some (s.finish env before replies (.err e) .ticking)
      | .collecting env before replies .panic =>
          some (s.finish env before replies .panicked .panicked)
      | .collecting env before replies (.write update next) =>
          some { s with state := update s.state, phase := .collecting env before replies next }
      | _ => none
  | .reply r =>
      match s.phase with
      | .collecting env before replies (.await _ next) =>
          some { s with phase := .collecting env before (replies ++ [r]) (next r) }
      | _ => none
  | .abort =>
      match s.phase with
      | .ticking | .collecting _ _ _ (.await _ _) => some { s with phase := .aborted }
      | _ => none

/-! ## What a step can do -/

section
variable {collect : ι → Async σ κ ρ ε Unit} {s s' : CollectTask ι σ κ ρ ε}

theorem step_tick {env : ι} (h : step collect s (.tick env) = some s') :
    s.phase = .ticking ∧ s.ticker.deadline ≤ s.now ∧
      s' = { s with
        ticker := s.ticker.tick s.now
        phase := .collecting env s.state [] (collect env)
        starts := s.starts ++ [s.now] } := by
  simp only [step] at h
  split at h
  · next ticking =>
      split at h
      · next due => exact ⟨ticking, due, (Option.some.inj h).symm⟩
      · cases h
  · cases h

/-- Either a write, or the end with its outcome. -/
theorem step_work (h : step collect s .work = some s') :
    ∃ env before replies rest, s.phase = .collecting env before replies rest ∧
      ((∃ update next, rest = .write update next ∧
          s' = { s with state := update s.state, phase := .collecting env before replies next }) ∨
        ∃ outcome phase, s' = s.finish env before replies outcome phase ∧
          (∀ more, rest.exec s.state more = (s.state, outcome)) ∧
          (phase = .ticking ∧ outcome ≠ .panicked ∨ phase = .panicked ∧ outcome = .panicked)) := by
  simp only [step] at h
  split at h
  · next env before replies running =>
      exact ⟨env, before, replies, _, running, .inr ⟨.ok (), .ticking, (Option.some.inj h).symm,
        fun _ => rfl, .inl ⟨rfl, nofun⟩⟩⟩
  · next env before replies e running =>
      exact ⟨env, before, replies, _, running, .inr ⟨.err e, .ticking, (Option.some.inj h).symm,
        fun _ => rfl, .inl ⟨rfl, nofun⟩⟩⟩
  · next env before replies running =>
      exact ⟨env, before, replies, _, running, .inr ⟨.panicked, .panicked,
        (Option.some.inj h).symm, fun _ => rfl, .inr ⟨rfl, rfl⟩⟩⟩
  · next env before replies update next running =>
      exact ⟨env, before, replies, _, running, .inl ⟨update, next, rfl, (Option.some.inj h).symm⟩⟩
  · cases h

theorem step_reply {r : ρ} (h : step collect s (.reply r) = some s') :
    ∃ env before replies q next, s.phase = .collecting env before replies (.await q next) ∧
      s' = { s with phase := .collecting env before (replies ++ [r]) (next r) } := by
  simp only [step] at h
  split at h
  · next env before replies q next running =>
      exact ⟨env, before, replies, q, next, running, (Option.some.inj h).symm⟩
  · cases h

theorem step_abort (h : step collect s .abort = some s') :
    (s.phase = .ticking ∨ ∃ env before replies q next,
        s.phase = .collecting env before replies (.await q next)) ∧
      s' = { s with phase := .aborted } := by
  simp only [step] at h
  split at h
  · next ticking => exact ⟨.inl ticking, (Option.some.inj h).symm⟩
  · next env before replies q next running =>
      exact ⟨.inr ⟨env, before, replies, q, next, running⟩, (Option.some.inj h).symm⟩
  · cases h

end

end CollectTask

end DrMetrix
