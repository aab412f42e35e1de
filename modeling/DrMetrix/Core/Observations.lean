import DrMetrix.Lib.Commute
import DrMetrix.Core.Replay

/-! # The loop beside the application

The application keeps a clone of the collector, and the clone's cells are those
of the loop. It updates them at any time, also between two writes of a
collection. Updates which commute with the writes leave the loop as it is alone.
-/

namespace DrMetrix

open Transition

variable {ι σ κ ρ ε ω τ : Type}

inductive SharedAction (ι ρ ω : Type) where
  | loop (a : TaskAction ι ρ)
  /-- An update by the application. -/
  | update (o : ω)

namespace SharedAction

def loop? : SharedAction ι ρ ω → Option (TaskAction ι ρ)
  | .loop a => some a
  | .update _ => none

def update? : SharedAction ι ρ ω → Option ω
  | .loop _ => none
  | .update o => some o

end SharedAction

/-- Both write to the state of the task. -/
def sharedStep (collect : ι → Async σ κ ρ ε Unit) (apply : ω → σ → σ)
    (s : CollectTask ι σ κ ρ ε) : SharedAction ι ρ ω → Option (CollectTask ι σ κ ρ ε)
  | .loop a => CollectTask.step collect s a
  | .update o => some { s with state := apply o s.state }

/-- The same phase, up to what was there at the start of the collection. -/
inductive TaskPhase.Same : TaskPhase ι σ κ ρ ε → TaskPhase ι σ κ ρ ε → Prop
  | ticking : Same .ticking .ticking
  | collecting (env : ι) (before before' : σ) (replies : List ρ) (rest : Async σ κ ρ ε Unit) :
      Same (.collecting env before replies rest) (.collecting env before' replies rest)
  | panicked : Same .panicked .panicked
  | aborted : Same .aborted .aborted

theorem TaskPhase.Same.ticking_right {p : TaskPhase ι σ κ ρ ε} (h : Same .ticking p) :
    p = .ticking := by
  cases h
  rfl

theorem TaskPhase.Same.collecting_right {p : TaskPhase ι σ κ ρ ε} {env : ι} {before : σ}
    {replies : List ρ} {rest : Async σ κ ρ ε Unit} (h : Same (.collecting env before replies rest) p) :
    ∃ before', p = .collecting env before' replies rest := by
  cases h
  exact ⟨_, rfl⟩

/-- What the environment sees of a finished collection. -/
def Collection.log (c : Collection ι σ κ ρ ε) : ι × List ρ × Outcome κ ε Unit × Nat :=
  (c.env, c.replies, c.outcome, c.returned)

namespace CollectTask

variable {collect : ι → Async σ κ ρ ε Unit} {apply : ω → σ → σ} {g : σ → σ}
  {s s' t : CollectTask ι σ κ ρ ε}

/-- `s` is the task alone, with an update on top of its state. -/
structure Alongside (g : σ → σ) (s t : CollectTask ι σ κ ρ ε) : Prop where
  state : s.state = g t.state
  now : s.now = t.now
  ticker : s.ticker = t.ticker
  phase : s.phase.Same t.phase
  starts : s.starts = t.starts
  collections : s.collections.map Collection.log = t.collections.map Collection.log

/-- Whatever is left of a collection commutes with the update. -/
def Commutes (g : σ → σ) (s : CollectTask ι σ κ ρ ε) : Prop :=
  ∀ env before replies rest, s.phase = .collecting env before replies rest → rest.Commutes g

theorem Commutes.step {a : TaskAction ι ρ} (collects : ∀ env, (collect env).Commutes g)
    (commutes : s.Commutes g) (h : step collect s a = some s') : s'.Commutes g := by
  intro env before replies rest running
  cases a with
  | wait delay =>
      cases h
      exact commutes env before replies rest running
  | tick env' =>
      obtain ⟨-, -, rfl⟩ := step_tick h
      cases running
      exact collects env
  | work =>
      obtain ⟨_, _, _, _, earlier, ⟨update, next, rfl, rfl⟩ | ⟨_, _, rfl, -, stopped⟩⟩ := step_work h
      · cases running
        exact (commutes _ _ _ _ earlier).2
      · rcases stopped with ⟨rfl, -⟩ | ⟨rfl, -⟩ <;> cases running
  | reply r =>
      obtain ⟨_, _, _, _, next, earlier, rfl⟩ := step_reply h
      cases running
      exact commutes _ _ _ _ earlier r
  | abort =>
      obtain ⟨-, rfl⟩ := step_abort h
      cases running

theorem Alongside.finish (alongside : Alongside g s t) {env : ι} (before before' : σ)
    {replies : List ρ} {outcome : Outcome κ ε Unit} {phase : TaskPhase ι σ κ ρ ε}
    (same : phase.Same phase) :
    Alongside g (s.finish env before replies outcome phase)
      (t.finish env before' replies outcome phase) := by
  refine ⟨alongside.state, alongside.now, alongside.ticker, same, alongside.starts, ?_⟩
  simp only [CollectTask.finish, List.map_append, List.map_cons, List.map_nil, Collection.log,
    alongside.collections, alongside.now]

/-- The task beside the application does what it does alone. -/
theorem Alongside.step {a : TaskAction ι ρ} (alongside : Alongside g s t) (commutes : s.Commutes g)
    (h : CollectTask.step collect s a = some s') :
    ∃ t', CollectTask.step collect t a = some t' ∧ Alongside g s' t' := by
  have ⟨state, now, ticker, phase, starts, collections⟩ := alongside
  cases a with
  | wait delay =>
      cases h
      exact ⟨_, rfl, state, congrArg (· + delay) now, ticker, phase, starts, collections⟩
  | tick env =>
      obtain ⟨ticking, due, rfl⟩ := step_tick h
      rw [ticking] at phase
      have alone := phase.ticking_right
      rw [ticker, now] at due
      refine ⟨{ t with
        ticker := t.ticker.tick t.now
        phase := .collecting env t.state [] (collect env)
        starts := t.starts ++ [t.now] }, by simp only [CollectTask.step, alone, due, if_true], ?_⟩
      exact ⟨state, now, by simp only [ticker, now], .collecting .., by simp only [starts, now],
        collections⟩
  | work =>
      obtain ⟨env, before, replies, rest, running, -⟩ := step_work h
      rw [running] at phase
      obtain ⟨before', alone⟩ := phase.collecting_right
      have here := commutes env before replies rest running
      cases rest with
      | done value =>
          simp only [CollectTask.step, running, Option.some.injEq] at h
          subst h
          exact ⟨_, by simp only [CollectTask.step, alone], alongside.finish before before' .ticking⟩
      | fail e =>
          simp only [CollectTask.step, running, Option.some.injEq] at h
          subst h
          exact ⟨_, by simp only [CollectTask.step, alone], alongside.finish before before' .ticking⟩
      | panic =>
          simp only [CollectTask.step, running, Option.some.injEq] at h
          subst h
          exact ⟨_, by simp only [CollectTask.step, alone], alongside.finish before before' .panicked⟩
      | write update next =>
          simp only [CollectTask.step, running, Option.some.injEq] at h
          subst h
          refine ⟨{ t with
            state := update t.state
            phase := .collecting env before' replies next },
            by simp only [CollectTask.step, alone], ?_⟩
          exact ⟨by simp only [state, here.1], now, ticker, .collecting .., starts, collections⟩
      | await q next => simp only [CollectTask.step, running, reduceCtorEq] at h
  | reply r =>
      obtain ⟨env, before, replies, q, next, running, rfl⟩ := step_reply h
      rw [running] at phase
      obtain ⟨before', alone⟩ := phase.collecting_right
      exact ⟨{ t with phase := .collecting env before' (replies ++ [r]) (next r) },
        by simp only [CollectTask.step, alone], state, now, ticker, .collecting .., starts,
        collections⟩
  | abort =>
      obtain ⟨alive, rfl⟩ := step_abort h
      refine ⟨{ t with phase := .aborted }, ?_, state, now, ticker, .aborted, starts, collections⟩
      rcases alive with ticking | ⟨env, before, replies, q, next, running⟩
      · rw [ticking] at phase
        simp only [CollectTask.step, phase.ticking_right]
      · rw [running] at phase
        obtain ⟨before', alone⟩ := phase.collecting_right
        simp only [CollectTask.step, alone]

/-- Not in the middle of a collection. -/
def Idle (s : CollectTask ι σ κ ρ ε) : Prop :=
  ∀ env before replies rest, s.phase ≠ .collecting env before replies rest

theorem spawn_idle (initial : σ) (now interval : Nat) :
    (spawn initial now interval : CollectTask ι σ κ ρ ε).Idle := by
  intro env before replies rest running
  unfold spawn at running
  split at running <;> cases running

theorem Alongside.refl (idle : s.Idle) : Alongside id s s := by
  refine ⟨rfl, rfl, rfl, ?_, rfl, rfl⟩
  cases phase : s.phase with
  | ticking => exact .ticking
  | panicked => exact .panicked
  | aborted => exact .aborted
  | collecting env before replies rest => exact absurd phase (idle env before replies rest)

/-- Any interleaving of the loop with the application is the loop alone, followed
    by the application's updates in their order. -/
theorem run_shared {as : List (SharedAction ι ρ ω)}
    (collects : ∀ o env, (collect env).Commutes (apply o)) (idle : s.Idle)
    (h : run (sharedStep collect apply) s as = some s') :
    ∃ t, run (step collect) s (as.filterMap SharedAction.loop?) = some t ∧
      Alongside (applyAll apply (as.filterMap SharedAction.update?)) s' t := by
  have kept : (∀ o, s'.Commutes (apply o)) ∧ ∃ t,
      run (step collect) s (as.filterMap SharedAction.loop?) = some t ∧
        Alongside (applyAll apply (as.filterMap SharedAction.update?)) s' t := by
    refine run_history (I := fun as s' => (∀ o, s'.Commutes (apply o)) ∧ ∃ t,
      run (step collect) s (as.filterMap SharedAction.loop?) = some t ∧
        Alongside (applyAll apply (as.filterMap SharedAction.update?)) s' t) ?_ ?_ h
    · rintro as s a s' ⟨commutes, t, ran, alongside⟩ taken
      cases a with
      | loop a =>
          have all : s.Commutes (applyAll apply (as.filterMap SharedAction.update?)) :=
            fun env before replies rest running =>
              .all (fun o => commutes o env before replies rest running) _
          obtain ⟨t', also, alongside⟩ := alongside.step all taken
          refine ⟨fun o => (commutes o).step (collects o) taken, t', ?_, ?_⟩
          · simp only [List.filterMap_append, List.filterMap_cons, SharedAction.loop?,
              List.filterMap_nil]
            exact run_append_some.mpr ⟨t, ran, by simp only [run, also, Option.bind_some]⟩
          · simpa only [List.filterMap_append, List.filterMap_cons, SharedAction.update?,
              List.filterMap_nil, List.append_nil] using alongside
      | update o =>
          cases taken
          refine ⟨commutes, t, ?_, ?_⟩
          · simpa only [List.filterMap_append, List.filterMap_cons, SharedAction.loop?,
              List.filterMap_nil, List.append_nil] using ran
          · obtain ⟨state, now, ticker, phase, starts, collections⟩ := alongside
            simp only [List.filterMap_append, List.filterMap_cons, SharedAction.update?,
              List.filterMap_nil]
            exact ⟨by simp only [state, applyAll_concat], now, ticker, phase, starts, collections⟩
    · exact ⟨fun o env before replies rest running =>
        absurd running (idle env before replies rest), s, rfl, .refl idle⟩
  exact kept.2

/-! ## Parts which the loop leaves alone -/

theorem step_frames {part : σ → τ} {a : TaskAction ι ρ}
    (collects : ∀ env, (collect env).Frames part)
    (frames : ∀ env before replies rest, s.phase = .collecting env before replies rest →
      rest.Frames part) (h : step collect s a = some s') :
    part s'.state = part s.state ∧ ∀ env before replies rest,
      s'.phase = .collecting env before replies rest → rest.Frames part := by
  cases a with
  | wait delay =>
      cases h
      exact ⟨rfl, frames⟩
  | tick env =>
      obtain ⟨-, -, rfl⟩ := step_tick h
      refine ⟨rfl, ?_⟩
      intro env before replies rest running
      cases running
      exact collects env
  | work =>
      obtain ⟨env, before, replies, rest, earlier, split⟩ := step_work h
      rcases split with ⟨update, next, rfl, rfl⟩ | ⟨_, _, rfl, -, stopped⟩
      · obtain ⟨same, later⟩ := frames env before replies _ earlier
        refine ⟨same s.state, ?_⟩
        intro env before replies rest running
        cases running
        exact later
      · refine ⟨rfl, ?_⟩
        intro env before replies rest running
        rcases stopped with ⟨rfl, -⟩ | ⟨rfl, -⟩ <;> cases running
  | reply r =>
      obtain ⟨env, before, replies, q, next, earlier, rfl⟩ := step_reply h
      refine ⟨rfl, ?_⟩
      intro env' before' replies' rest running
      cases running
      exact frames env before replies _ earlier r
  | abort =>
      obtain ⟨-, rfl⟩ := step_abort h
      exact ⟨rfl, nofun⟩

/-- In every reachable state, between two writes too. -/
theorem run_frames {part : σ → τ} {actions : List (TaskAction ι ρ)}
    (collects : ∀ env, (collect env).Frames part) (idle : s.Idle)
    (h : run (step collect) s actions = some s') : part s'.state = part s.state := by
  have kept := run_invariant (I := fun u => part u.state = part s.state ∧
    ∀ env before replies rest, u.phase = .collecting env before replies rest → rest.Frames part)
    (fun u a u' before taken =>
      have after := step_frames collects before.2 taken
      ⟨after.1.trans before.1, after.2⟩)
    ⟨rfl, fun env before replies rest running => absurd running (idle env before replies rest)⟩ h
  exact kept.1

/-- The application updates a part of the state which no collection touches: the
    loop runs as it does alone, and neither loses a write of the other. -/
theorem run_beside {p : StatePart σ τ} {act : ω → τ → τ} {as : List (SharedAction ι ρ ω)}
    (avoids : ∀ env, p.Avoids (collect env)) (idle : s.Idle)
    (h : run (sharedStep collect fun o => p.update (act o)) s as = some s') :
    ∃ alone, run (step collect) s (as.filterMap SharedAction.loop?) = some alone ∧
      Alongside (p.put (applyAll act (as.filterMap SharedAction.update?) (p.get s.state)))
        s' alone := by
  obtain ⟨alone, ran, alongside⟩ :=
    run_shared (fun o env => (avoids env).commutes (act o)) idle h
  have untouched : p.get alone.state = p.get s.state :=
    run_frames (fun env => (avoids env).frames) idle ran
  obtain ⟨state, now, ticker, phase, starts, collections⟩ := alongside
  refine ⟨alone, ran, ?_, now, ticker, phase, starts, collections⟩
  rw [state, StatePart.applyAll_update, untouched]

end CollectTask

end DrMetrix
