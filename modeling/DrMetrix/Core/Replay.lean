import DrMetrix.Core.Pacing

/-! # The loop replays its sessions

The abstract loop knows no phases and no single writes: it is the list of
sessions, one for each tick with the replies which followed it, executed one
after the other on the state. The task agrees with it wherever it is suspended,
however its collections ended.
-/

namespace DrMetrix

variable {ι σ κ ρ ε : Type}

/-- One collection as its environment sees it: what was there at its start, and
    the replies which it was given. -/
structure Session (ι ρ : Type) where
  env : ι
  replies : List ρ

def Session.answer (x : Session ι ρ) (r : ρ) : Session ι ρ := { x with replies := x.replies ++ [r] }

/-- A tick opens a session, and a reply goes to the last one. -/
def TaskAction.record (xs : List (Session ι ρ)) : TaskAction ι ρ → List (Session ι ρ)
  | .tick env => xs ++ [{ env, replies := [] }]
  | .reply r =>
      match xs.getLast? with
      | some x => xs.dropLast ++ [x.answer r]
      | none => xs
  | .wait _ | .work | .abort => xs

def sessions (actions : List (TaskAction ι ρ)) : List (Session ι ρ) :=
  actions.foldl TaskAction.record []

/-- Every session executed to where its replies bring it. -/
def replay (collect : ι → Async σ κ ρ ε Unit) (initial : σ) (xs : List (Session ι ρ)) : σ :=
  xs.foldl (fun s x => ((collect x.env).exec s x.replies).1) initial

theorem sessions_concat (actions : List (TaskAction ι ρ)) (a : TaskAction ι ρ) :
    sessions (actions ++ [a]) = a.record (sessions actions) := by
  simp only [sessions, List.foldl_append, List.foldl_cons, List.foldl_nil]

theorem record_reply (done : List (Session ι ρ)) (x : Session ι ρ) (r : ρ) :
    (TaskAction.reply r : TaskAction ι ρ).record (done ++ [x]) = done ++ [x.answer r] := by
  simp [TaskAction.record]

@[simp] theorem replay_concat (collect : ι → Async σ κ ρ ε Unit) (initial : σ)
    (xs : List (Session ι ρ)) (x : Session ι ρ) :
    replay collect initial (xs ++ [x]) =
      ((collect x.env).exec (replay collect initial xs) x.replies).1 := by
  simp only [replay, List.foldl_append, List.foldl_cons, List.foldl_nil]

/-- A view of the state which every session updates by some items is the update
    by the items of all sessions. -/
theorem replay_view {τ β : Type} (collect : ι → Async σ κ ρ ε Unit) (view : σ → τ)
    (update : τ → β → τ) (items : Session ι ρ → List β) {xs : List (Session ι ρ)}
    (each : ∀ x ∈ xs, ∀ s,
      view ((collect x.env).exec s x.replies).1 = (items x).foldl update (view s)) (initial : σ) :
    view (replay collect initial xs) = (xs.flatMap items).foldl update (view initial) := by
  induction xs using List.reverseRecOn with
  | nil => rfl
  | append_singleton xs x ih =>
      have before := ih fun y member => each y (List.mem_append_left [x] member)
      rw [replay_concat, each x List.mem_concat_self, before, List.flatMap_append,
        List.foldl_append, List.flatMap_singleton]

def Collection.session (c : Collection ι σ κ ρ ε) : Session ι ρ := ⟨c.env, c.replies⟩

namespace CollectTask

open Transition

variable {collect : ι → Async σ κ ρ ε Unit} {initial : σ} {s s' : CollectTask ι σ κ ρ ε}
  {done xs : List (Session ι ρ)}

/-- Not between two writes of one poll. -/
def Suspended (s : CollectTask ι σ κ ρ ε) : Prop :=
  match s.phase with
  | .ticking | .panicked | .aborted | .collecting _ _ _ (.await _ _) => True
  | .collecting .. => False

/-- What a phase says about the finished and about all sessions. -/
def Explains (collect : ι → Async σ κ ρ ε Unit) (initial : σ) (done xs : List (Session ι ρ))
    (state : σ) : TaskPhase ι σ κ ρ ε → Prop
  | .ticking | .panicked => xs = done ∧ state = replay collect initial done
  | .collecting env before replies rest =>
      xs = done ++ [⟨env, replies⟩] ∧ before = replay collect initial done ∧
        ∀ more, rest.exec state more = (collect env).exec before (replies ++ more)
  | .aborted => state = replay collect initial xs ∧ (xs = done ∨ ∃ x q, xs = done ++ [x] ∧
      ((collect x.env).exec (replay collect initial done) x.replies).2 = .waiting q)

structure Replayed (collect : ι → Async σ κ ρ ε Unit) (initial : σ)
    (done xs : List (Session ι ρ)) (s : CollectTask ι σ κ ρ ε) : Prop where
  finished : s.collections.map Collection.session = done
  chained : ∀ n c, s.collections[n]? = some c →
    c.before = replay collect initial (done.take n) ∧
      c.after = replay collect initial (done.take (n + 1)) ∧
      c.outcome = ((collect c.env).exec c.before c.replies).2
  explained : Explains collect initial done xs s.state s.phase

/-- A finished collection is the next link of the chain. -/
theorem Replayed.finish (replayed : Replayed collect initial done xs s) {env : ι} {before : σ}
    {replies : List ρ} {rest : Async σ κ ρ ε Unit} {outcome : Outcome κ ε Unit}
    {phase : TaskPhase ι σ κ ρ ε} (running : s.phase = .collecting env before replies rest)
    (ended : ∀ more, rest.exec s.state more = (s.state, outcome))
    (stopped : phase = .ticking ∨ phase = .panicked) :
    Replayed collect initial xs xs (s.finish env before replies outcome phase) := by
  obtain ⟨finished, chained, explained⟩ := replayed
  rw [running] at explained
  obtain ⟨rfl, rfl, whole⟩ := explained
  have ran := whole []
  rw [ended, List.append_nil] at ran
  have count : s.collections.length = done.length := by
    rw [← finished, List.length_map]
  have state : s.state = replay collect initial (done ++ [⟨env, replies⟩]) := by
    rw [replay_concat, ← ran]
  refine ⟨?_, ?_, ?_⟩
  · simp only [CollectTask.finish, List.map_append, finished, List.map_cons, List.map_nil,
      Collection.session]
  · intro n c found
    by_cases old : n < s.collections.length
    · rw [CollectTask.finish, List.getElem?_append_left old] at found
      obtain ⟨from_before, to_after, result⟩ := chained n c found
      rw [List.take_append_of_le_length (by omega), List.take_append_of_le_length (by omega)]
      exact ⟨from_before, to_after, result⟩
    · rw [CollectTask.finish, List.getElem?_append_right (by omega),
        List.getElem?_singleton] at found
      split at found
      · next last =>
          obtain rfl := Option.some.inj found
          have here : n = done.length := by omega
          refine ⟨?_, ?_, congrArg Prod.snd ran⟩
          · rw [here, List.take_left]
          · rw [List.take_of_length_le (by simp [here])]
            exact state
      · cases found
  · rcases stopped with rfl | rfl <;> exact ⟨rfl, state⟩

theorem Replayed.step {a : TaskAction ι ρ} (replayed : Replayed collect initial done xs s)
    (h : step collect s a = some s') :
    ∃ done', Replayed collect initial done' (a.record xs) s' := by
  cases a with
  | wait delay =>
      cases h
      exact ⟨done, replayed.finished, replayed.chained, replayed.explained⟩
  | tick env =>
      obtain ⟨ticking, -, rfl⟩ := step_tick h
      obtain ⟨finished, chained, explained⟩ := replayed
      rw [ticking] at explained
      obtain ⟨rfl, state⟩ := explained
      exact ⟨xs, finished, chained, rfl, state, fun more => rfl⟩
  | work =>
      obtain ⟨env, before, replies, rest, running, split⟩ := step_work h
      rcases split with ⟨update, next, rfl, rfl⟩ | ⟨outcome, phase, rfl, ended, stopped⟩
      · obtain ⟨finished, chained, explained⟩ := replayed
        rw [running] at explained
        exact ⟨done, finished, chained, explained⟩
      · exact ⟨xs, replayed.finish running ended (stopped.imp And.left And.left)⟩
  | reply r =>
      obtain ⟨env, before, replies, q, next, running, rfl⟩ := step_reply h
      obtain ⟨finished, chained, explained⟩ := replayed
      rw [running] at explained
      obtain ⟨rfl, start, whole⟩ := explained
      refine ⟨done, finished, chained, record_reply done _ r, start, ?_⟩
      intro more
      rw [List.append_assoc]
      exact whole (r :: more)
  | abort =>
      obtain ⟨alive, rfl⟩ := step_abort h
      obtain ⟨finished, chained, explained⟩ := replayed
      refine ⟨done, finished, chained, ?_⟩
      rcases alive with ticking | ⟨env, before, replies, q, next, running⟩
      · rw [ticking] at explained
        obtain ⟨rfl, state⟩ := explained
        exact ⟨state, .inl rfl⟩
      · rw [running] at explained
        obtain ⟨rfl, start, whole⟩ := explained
        have here := whole []
        rw [List.append_nil, start] at here
        refine ⟨?_, .inr ⟨⟨env, replies⟩, q, rfl, (congrArg Prod.snd here).symm⟩⟩
        exact (congrArg Prod.fst here).trans
          (replay_concat collect initial done ⟨env, replies⟩).symm

theorem run_replayed {now interval : Nat} {actions : List (TaskAction ι ρ)}
    (h : run (step collect) (spawn initial now interval) actions = some s) :
    ∃ done, Replayed collect initial done (sessions actions) s := by
  refine run_history (I := fun as s => ∃ done, Replayed collect initial done (sessions as) s)
    ?_ ?_ h
  · intro as s a s' replayed taken
    obtain ⟨done, replayed⟩ := replayed
    rw [sessions_concat]
    exact replayed.step taken
  · refine ⟨[], rfl, nofun, ?_⟩
    unfold spawn
    split <;> exact ⟨rfl, rfl⟩

theorem Replayed.suspended (replayed : Replayed collect initial done xs s)
    (suspended : s.Suspended) : s.state = replay collect initial xs := by
  have explained := replayed.explained
  unfold Suspended at suspended
  cases phase : s.phase with
  | ticking | panicked =>
      rw [phase] at explained
      obtain ⟨rfl, state⟩ := explained
      exact state
  | aborted =>
      rw [phase] at explained
      exact explained.1
  | collecting env before replies rest =>
      rw [phase] at suspended explained
      obtain ⟨rfl, rfl, whole⟩ := explained
      cases rest with
      | await q next =>
          have here := congrArg Prod.fst (whole [])
          rw [List.append_nil] at here
          rw [replay_concat]
          exact here
      | done | fail | panic | write => exact suspended.elim

/-- All sessions have ended, except perhaps for the last one. -/
theorem Replayed.open_session (replayed : Replayed collect initial done xs s) :
    xs = done ∨ ∃ x, xs = done ++ [x] ∧ (s.Suspended →
      ∃ q, ((collect x.env).exec (replay collect initial done) x.replies).2 = .waiting q) := by
  have explained := replayed.explained
  cases phase : s.phase with
  | ticking | panicked =>
      rw [phase] at explained
      exact .inl explained.1
  | aborted =>
      rw [phase] at explained
      obtain ⟨-, all | ⟨x, q, all, waits⟩⟩ := explained
      · exact .inl all
      · exact .inr ⟨x, all, fun _ => ⟨q, waits⟩⟩
  | collecting env before replies rest =>
      rw [phase] at explained
      obtain ⟨all, rfl, whole⟩ := explained
      refine .inr ⟨⟨env, replies⟩, all, ?_⟩
      intro suspended
      simp only [Suspended, phase] at suspended
      cases rest with
      | await q next =>
          have here := congrArg Prod.snd (whole [])
          rw [List.append_nil] at here
          exact ⟨q, here.symm⟩
      | done | fail | panic | write => exact suspended.elim

theorem Replayed.done_initial (replayed : Replayed collect initial done xs s) : done <+: xs := by
  rcases replayed.open_session with rfl | ⟨x, rfl, -⟩
  · exact List.prefix_refl xs
  · exact List.prefix_append done _

/-- In a loop which has not panicked, no session has. -/
theorem Replayed.survived (replayed : Replayed collect initial done xs s)
    (fine : ∀ c ∈ s.collections, c.outcome ≠ .panicked) (suspended : s.Suspended) :
    ∀ x ∈ xs, ((collect x.env).answer x.replies).1 ≠ .panicked := by
  have ended : ∀ x ∈ done, ((collect x.env).answer x.replies).1 ≠ .panicked := by
    rw [← replayed.finished, List.forall_mem_map]
    intro c member
    obtain ⟨n, found⟩ := List.getElem?_of_mem member
    have outcome := (replayed.chained n c found).2.2
    rw [Async.exec_answer] at outcome
    exact outcome ▸ fine c member
  rcases replayed.open_session with rfl | ⟨x, rfl, waits⟩
  · exact ended
  · apply Population.forall_join ended
    obtain ⟨q, waiting⟩ := waits suspended
    rw [Async.exec_answer] at waiting
    simp [waiting]

/-- At an await, at the ticker and after the end, the state is the replay. -/
theorem run_suspended {now interval : Nat} {actions : List (TaskAction ι ρ)}
    (h : run (step collect) (spawn initial now interval) actions = some s)
    (suspended : s.Suspended) : s.state = replay collect initial (sessions actions) := by
  obtain ⟨_, replayed⟩ := run_replayed h
  exact replayed.suspended suspended

/-- The task against the sessions of its run. -/
structure Refines (collect : ι → Async σ κ ρ ε Unit) (initial : σ) (xs : List (Session ι ρ))
    (s : CollectTask ι σ κ ρ ε) : Prop where
  /-- At every await, at the ticker and after the end. -/
  suspended : s.Suspended → s.state = replay collect initial xs
  /-- Every finished collection is the session of its tick, from the state which
      the sessions before it made. -/
  collections : ∀ n c, s.collections[n]? = some c → xs[n]? = some c.session ∧
    c.before = replay collect initial (xs.take n) ∧
    c.after = replay collect initial (xs.take (n + 1)) ∧
    c.outcome = ((collect c.env).exec c.before c.replies).2
  /-- Between two writes, the rest of the poll leads where the session leads. -/
  working : ∀ env before replies rest, s.phase = .collecting env before replies rest →
    xs = xs.dropLast ++ [⟨env, replies⟩] ∧ before = replay collect initial xs.dropLast ∧
      rest.exec s.state [] = (replay collect initial xs, ((collect env).exec before replies).2)

theorem spawnCollectLoop_refines {now interval : Nat} {actions : List (TaskAction ι ρ)}
    (h : run (step collect) (spawn initial now interval) actions = some s) :
    Refines collect initial (sessions actions) s := by
  obtain ⟨done, replayed⟩ := run_replayed h
  obtain ⟨later, split⟩ := replayed.done_initial
  refine ⟨run_suspended h, ?_, ?_⟩
  · intro n c found
    obtain ⟨from_before, to_after, result⟩ := replayed.chained n c found
    have count : s.collections.length = done.length := by
      rw [← replayed.finished, List.length_map]
    have inside : n < done.length := count ▸ (List.getElem?_eq_some_iff.mp found).1
    have here : done[n]? = some c.session := by
      rw [← replayed.finished, List.getElem?_map, found, Option.map_some]
    rw [← split, List.getElem?_append_left inside, List.take_append_of_le_length (by omega),
      List.take_append_of_le_length (by omega)]
    exact ⟨here, from_before, to_after, result⟩
  · intro env before replies rest running
    have explained := replayed.explained
    rw [running] at explained
    obtain ⟨all, start, whole⟩ := explained
    have here := whole []
    rw [List.append_nil] at here
    rw [all, List.dropLast_concat, replay_concat, here, start]
    exact ⟨rfl, rfl, rfl⟩

/-- A collection which failed, and one which was aborted at its await. -/
def failedAndAborted : List (TaskAction Unit (Except String Unit)) :=
  [.tick (), .work, .reply (.error "down"), .work, .wait 1, .tick (), .work, .abort]

theorem spawnCollectLoop_refines_aborted :
    ∃ s : CollectTask Unit Nat Unit (Except String Unit) String,
      Refines (fun _ => Async.write (· + 1) (Async.request ())) 0 (sessions failedAndAborted) s ∧
        s.Suspended ∧ s.state = 2 := by
  obtain ⟨s, ran, two, ended⟩ : ∃ s : CollectTask Unit Nat Unit (Except String Unit) String,
      run (step fun _ => Async.write (· + 1) (Async.request ())) (spawn 0 0 1) failedAndAborted =
        some s ∧ s.state = 2 ∧ s.phase = .aborted := ⟨_, rfl, rfl, rfl⟩
  exact ⟨s, spawnCollectLoop_refines ran, by simp only [Suspended, ended], two⟩

end CollectTask

end DrMetrix
