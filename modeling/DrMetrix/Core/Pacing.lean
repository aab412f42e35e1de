import DrMetrix.Lib.Population
import DrMetrix.Core.CollectLoop

/-! # One collection at a time, and never a burst

Three invariants of the loop: its starts keep their distance, they alternate
with the ends of collections, and every finished collection is one execution of
`collect` against the replies it got.
-/

namespace DrMetrix.CollectTask

open Transition

variable {ι σ κ ρ ε : Type} {collect : ι → Async σ κ ρ ε Unit} {s s' : CollectTask ι σ κ ρ ε}

/-! ## Distance -/

structure Paced (interval : Nat) (s : CollectTask ι σ κ ρ ε) : Prop where
  period : s.ticker.period = interval
  keeps : s.ticker.Keeps s.starts
  spaced : Ticker.Spaced interval s.starts

theorem Paced.step {interval : Nat} {a : TaskAction ι ρ} (paced : s.Paced interval)
    (h : step collect s a = some s') : s'.Paced interval := by
  cases a with
  | wait delay =>
      cases h
      exact ⟨paced.period, paced.keeps, paced.spaced⟩
  | tick env =>
      obtain ⟨-, due, rfl⟩ := step_tick h
      refine ⟨paced.period, paced.keeps.tick s.now, ?_⟩
      have spaced := paced.spaced
      rw [← paced.period] at spaced ⊢
      exact spaced.tick paced.keeps due
  | work =>
      obtain ⟨_, _, _, _, -, ⟨_, _, -, rfl⟩ | ⟨_, _, rfl, -⟩⟩ := step_work h
      · exact ⟨paced.period, paced.keeps, paced.spaced⟩
      · exact ⟨paced.period, paced.keeps, paced.spaced⟩
  | reply r =>
      obtain ⟨_, _, _, _, _, -, rfl⟩ := step_reply h
      exact ⟨paced.period, paced.keeps, paced.spaced⟩
  | abort =>
      obtain ⟨-, rfl⟩ := step_abort h
      exact ⟨paced.period, paced.keeps, paced.spaced⟩

/-! ## Alternation -/

structure Sequential (s : CollectTask ι σ κ ρ ε) : Prop where
  count : ∀ n ∈ s.phase.unfinished, s.starts.length = s.collections.length + n
  single : s.collections.length ≤ s.starts.length ∧ s.starts.length ≤ s.collections.length + 1
  begun : ∀ a ∈ s.starts, a ≤ s.now
  past : ∀ c ∈ s.collections, c.returned ≤ s.now
  returns : ∀ (n a : Nat) (c : Collection ι σ κ ρ ε), s.starts[n]? = some a →
    s.collections[n]? = some c → a ≤ c.returned
  /-- Collection `n` is over when collection `n + 1` starts. -/
  ordered : ∀ n b, s.starts[n + 1]? = some b →
    ∃ c, s.collections[n]? = some c ∧ c.outcome ≠ .panicked ∧ c.returned ≤ b
  survived : s.phase ≠ .panicked → ∀ c ∈ s.collections, c.outcome ≠ .panicked
  panicked : s.phase = .panicked → ∃ c ∈ s.collections, c.outcome = .panicked

/-- A tick starts the collection after the ones which have returned. -/
theorem Sequential.ticked (seq : s.Sequential) (ticking : s.phase = .ticking)
    {s' : CollectTask ι σ κ ρ ε} (starts : s'.starts = s.starts ++ [s.now])
    (collections : s'.collections = s.collections) (now : s'.now = s.now)
    (unfinished : s'.phase.unfinished = some 1) (alive : s'.phase ≠ .panicked) :
    s'.Sequential := by
  have count : s.starts.length = s.collections.length := by
    simpa [ticking, TaskPhase.unfinished] using seq.count
  have survived := seq.survived (by simp [ticking])
  refine ⟨?_, ?_, ?_, ?_, ?_, ?_, ?_, ?_⟩
  · simp [unfinished, starts, collections, count]
  · simp [starts, collections, count]
  · rw [starts, now]
    exact Population.forall_join seq.begun (Nat.le_refl _)
  · rw [collections, now]
    exact seq.past
  · rw [starts, collections]
    intro n a c started found
    rcases Population.of_getElem?_join started with old | ⟨last, -⟩
    · exact seq.returns n a c old found
    · have inside := (List.getElem?_eq_some_iff.mp found).1
      omega
  · rw [starts, collections]
    intro n b started
    rcases Population.of_getElem?_join started with old | ⟨last, rfl⟩
    · exact seq.ordered n b old
    · have returned : n < s.collections.length := by omega
      have member := List.getElem_mem returned
      exact ⟨_, List.getElem?_eq_getElem returned, survived _ member, seq.past _ member⟩
  · rw [collections]
    exact fun _ => survived
  · intro panicked
    exact absurd panicked alive

/-- While a collection is under way nothing else starts or returns. -/
theorem Sequential.continued (seq : s.Sequential) {env env' : ι} {before before' : σ}
    {replies replies' : List ρ} {rest rest' : Async σ κ ρ ε Unit}
    (running : s.phase = .collecting env before replies rest) (state : σ) :
    ({ s with state, phase := .collecting env' before' replies' rest' } :
      CollectTask ι σ κ ρ ε).Sequential := by
  have count : s.starts.length = s.collections.length + 1 := by
    simpa [running, TaskPhase.unfinished] using seq.count
  have survived := seq.survived (by simp [running])
  exact ⟨by simp [TaskPhase.unfinished, count], seq.single, seq.begun, seq.past, seq.returns,
    seq.ordered, fun _ => survived, nofun⟩

theorem Sequential.finished (seq : s.Sequential) {env : ι} {before : σ} {replies : List ρ}
    {rest : Async σ κ ρ ε Unit} {outcome : Outcome κ ε Unit} {phase : TaskPhase ι σ κ ρ ε}
    (running : s.phase = .collecting env before replies rest)
    (stopped : phase = .ticking ∧ outcome ≠ .panicked ∨ phase = .panicked ∧ outcome = .panicked) :
    (s.finish env before replies outcome phase).Sequential := by
  have count : s.starts.length = s.collections.length + 1 := by
    simpa [running, TaskPhase.unfinished] using seq.count
  have survived := seq.survived (by simp [running])
  refine ⟨?_, by simp [finish, count], seq.begun, ?_, ?_, ?_, ?_, ?_⟩
  · rcases stopped with ⟨rfl, -⟩ | ⟨rfl, -⟩ <;> simp [TaskPhase.unfinished, finish, count]
  · exact Population.forall_join seq.past (Nat.le_refl _)
  · intro n a c started found
    rcases Population.of_getElem?_join found with old | ⟨-, rfl⟩
    · exact seq.returns n a c started old
    · exact seq.begun a (List.mem_of_getElem? started)
  · intro n b started
    obtain ⟨c, found, rest⟩ := seq.ordered n b started
    exact ⟨c, Population.getElem?_join found, rest⟩
  · intro alive
    apply Population.forall_join survived
    rcases stopped with ⟨-, fine⟩ | ⟨rfl, -⟩
    · exact fine
    · exact absurd rfl alive
  · intro ended
    rcases stopped with ⟨rfl, -⟩ | ⟨-, bad⟩
    · cases ended
    · exact ⟨_, List.mem_append_right _ (List.mem_singleton_self _), bad⟩

theorem Sequential.step {a : TaskAction ι ρ} (seq : s.Sequential)
    (h : step collect s a = some s') : s'.Sequential := by
  cases a with
  | wait delay =>
      cases h
      exact { seq with
        begun := fun a member => Nat.le_add_right_of_le (seq.begun a member)
        past := fun c member => Nat.le_add_right_of_le (seq.past c member) }
  | tick env =>
      obtain ⟨ticking, due, rfl⟩ := step_tick h
      exact seq.ticked ticking rfl rfl rfl rfl nofun
  | work =>
      obtain ⟨env, before, replies, rest, running, split⟩ := step_work h
      rcases split with ⟨update, next, -, rfl⟩ | ⟨outcome, phase, rfl, -, stopped⟩
      · exact seq.continued running _
      · exact seq.finished running stopped
  | reply r =>
      obtain ⟨_, _, _, _, _, running, rfl⟩ := step_reply h
      exact seq.continued running s.state
  | abort =>
      obtain ⟨alive, rfl⟩ := step_abort h
      have survived : ∀ c ∈ s.collections, c.outcome ≠ .panicked := by
        apply seq.survived
        rcases alive with ticking | ⟨_, _, _, _, _, running⟩
        · simp [ticking]
        · simp [running]
      exact ⟨nofun, seq.single, seq.begun, seq.past, seq.returns, seq.ordered,
        fun _ => survived, nofun⟩

/-- A start is the start of a collection which has returned, or of the one under
    way or cut off. -/
theorem Sequential.start_cases (seq : s.Sequential) {n a : Nat} (started : s.starts[n]? = some a) :
    (∃ c, s.collections[n]? = some c ∧ a ≤ c.returned) ∨
      n = s.collections.length ∧ (s.phase = .aborted ∨
        ∃ env before replies rest, s.phase = .collecting env before replies rest) := by
  have inside := (List.getElem?_eq_some_iff.mp started).1
  by_cases returned : n < s.collections.length
  · have found := List.getElem?_eq_getElem returned
    exact .inl ⟨_, found, seq.returns n a _ started found⟩
  · have last : n = s.collections.length := by have := seq.single; omega
    refine .inr ⟨last, ?_⟩
    have count := seq.count
    cases phase : s.phase with
    | ticking | panicked =>
        simp only [phase, TaskPhase.unfinished, Option.mem_some_iff, forall_eq'] at count
        omega
    | collecting env before replies rest => exact .inr ⟨env, before, replies, rest, rfl⟩
    | aborted => exact .inl rfl

/-! ## Execution -/

/-- What the loop did is what its collections do. -/
structure Traced (collect : ι → Async σ κ ρ ε Unit) (s : CollectTask ι σ κ ρ ε) : Prop where
  ran : ∀ c ∈ s.collections, (collect c.env).exec c.before c.replies = (c.after, c.outcome)
  /-- The rest does to the current state what the whole does to the old one. -/
  running : ∀ env before replies rest, s.phase = .collecting env before replies rest →
    ∀ more, rest.exec s.state more = (collect env).exec before (replies ++ more)

theorem Traced.step {a : TaskAction ι ρ} (traced : s.Traced collect)
    (h : CollectTask.step collect s a = some s') : s'.Traced collect := by
  cases a with
  | wait delay =>
      cases h
      exact ⟨traced.ran, traced.running⟩
  | tick env =>
      obtain ⟨-, -, rfl⟩ := step_tick h
      refine ⟨traced.ran, ?_⟩
      intro env before replies rest running more
      cases running
      rfl
  | work =>
      obtain ⟨env, before, replies, rest, running, split⟩ := step_work h
      have whole := traced.running env before replies rest running
      rcases split with ⟨update, next, rfl, rfl⟩ | ⟨outcome, phase, rfl, ended, stopped⟩
      · refine ⟨traced.ran, ?_⟩
        intro env before replies rest running more
        cases running
        exact whole more
      · constructor
        · apply Population.forall_join traced.ran
          have last := whole []
          rw [List.append_nil, ended] at last
          exact last.symm
        · intro env before replies rest running
          rcases stopped with ⟨rfl, -⟩ | ⟨rfl, -⟩ <;> cases running
  | reply r =>
      obtain ⟨env, before, replies, q, next, running, rfl⟩ := step_reply h
      have whole := traced.running env before replies _ running
      refine ⟨traced.ran, ?_⟩
      intro env' before' replies' rest' running' more
      cases running'
      rw [List.append_assoc]
      exact whole (r :: more)
  | abort =>
      obtain ⟨-, rfl⟩ := step_abort h
      exact ⟨traced.ran, nofun⟩

/-! ## Whole runs -/

section
variable {state : σ} {now interval : Nat} {actions : List (TaskAction ι ρ)}

theorem run_paced (h : run (step collect) (spawn state now interval) actions = some s) :
    s.Paced interval := by
  apply run_invariant (fun _ _ _ paced taken => Paced.step paced taken) ?_ h
  exact ⟨rfl, nofun, nofun⟩

theorem run_sequential (positive : 0 < interval)
    (h : run (step collect) (spawn state now interval) actions = some s) : s.Sequential := by
  apply run_invariant (fun _ _ _ seq taken => Sequential.step seq taken) ?_ h
  have ticking : (spawn state now interval : CollectTask ι σ κ ρ ε).phase = .ticking := by
    simp only [spawn, if_neg (Nat.ne_of_gt positive)]
  refine ⟨?_, ⟨Nat.le_refl _, Nat.zero_le _⟩, nofun, nofun, nofun, nofun, nofun, ?_⟩
  · rw [ticking]
    exact fun n zero => (Option.some.inj zero) ▸ rfl
  · rw [ticking]
    exact nofun

theorem run_traced (h : run (step collect) (spawn state now interval) actions = some s) :
    s.Traced collect := by
  apply run_invariant (fun _ _ _ traced taken => Traced.step traced taken) ?_ h
  refine ⟨nofun, ?_⟩
  intro env before replies rest running
  simp only [spawn] at running
  split at running <;> cases running

theorem run_aborted (positive : 0 < interval)
    (h : run (step collect) (spawn state now interval) actions = some s) :
    s.phase = .aborted → .abort ∈ actions := by
  apply run_history (I := fun as s => s.phase = .aborted → .abort ∈ as) ?_ ?_ h
  · intro as s a s' before taken aborted
    rw [List.mem_append]
    cases a with
    | wait delay =>
        cases taken
        exact .inl (before aborted)
    | tick env =>
        obtain ⟨-, -, rfl⟩ := step_tick taken
        cases aborted
    | work =>
        obtain ⟨_, _, _, _, -, ⟨_, _, -, rfl⟩ | ⟨_, _, rfl, -, stopped⟩⟩ := step_work taken
        · cases aborted
        · rcases stopped with ⟨rfl, -⟩ | ⟨rfl, -⟩ <;> cases aborted
    | reply r =>
        obtain ⟨_, _, _, _, _, -, rfl⟩ := step_reply taken
        cases aborted
    | abort => exact .inr (List.mem_singleton_self _)
  · simp [spawn, Nat.ne_of_gt positive]

/-- The loop after any run: every start is one execution of `collect`, there is
    one at a time, no burst, and no end by an error. -/
structure WellPaced (collect : ι → Async σ κ ρ ε Unit) (interval : Nat)
    (actions : List (TaskAction ι ρ)) (s : CollectTask ι σ κ ρ ε) : Prop where
  executed : s.Traced collect
  /-- Start `n` is the start of collection `n`. Only the last one may be under
      way, or cut off by the abort. -/
  begun : ∀ n a, s.starts[n]? = some a → (∃ c, s.collections[n]? = some c ∧ a ≤ c.returned) ∨
    n = s.collections.length ∧ (s.phase = .aborted ∨
      ∃ env before replies rest, s.phase = .collecting env before replies rest)
  single : s.starts.length ≤ s.collections.length + 1
  /-- Collection `n` has returned when collection `n + 1` starts. -/
  sequential : ∀ n b, s.starts[n + 1]? = some b → ∃ c, s.collections[n]? = some c ∧ c.returned ≤ b
  /-- Starts which are `k` collections apart. -/
  spaced : ∀ i k a b, s.starts[i]? = some a → s.starts[i + k]? = some b →
    a + k * interval ≤ b + Ticker.tolerance
  /-- Whether collections returned `Ok` or `Err`, the loop waits for its next tick
      as soon as none is left to return. -/
  survives : (∀ c ∈ s.collections, c.outcome ≠ .panicked) → .abort ∉ actions →
    s.starts.length = s.collections.length → s.phase = .ticking
  /-- An error is a step back to the ticker. -/
  recovers : ∀ env before replies e, s.phase = .collecting env before replies (.fail e) →
    ∃ s', step collect s .work = some s' ∧ s'.phase = .ticking
  /-- From its deadline on the tick starts the next collection. -/
  resumes : s.phase = .ticking → ∀ delay env, s.ticker.deadline ≤ s.now + delay →
    ∃ s', run (step collect) s [.wait delay, .tick env] = some s' ∧
      s'.starts = s.starts ++ [s.now + delay]

theorem spawnCollectLoop_paced (positive : 0 < interval)
    (h : run (step collect) (spawn state now interval) actions = some s) :
    WellPaced collect interval actions s := by
  have paced := run_paced h
  have seq := run_sequential positive h
  refine ⟨run_traced h, fun n a => seq.start_cases, seq.single.2, ?_, paced.spaced, ?_, ?_, ?_⟩
  · intro n b started
    obtain ⟨c, found, -, before⟩ := seq.ordered n b started
    exact ⟨c, found, before⟩
  · intro fine kept stopped
    cases phase : s.phase with
    | ticking => rfl
    | collecting env before replies rest =>
        have count := seq.count
        simp [phase, TaskPhase.unfinished, stopped] at count
    | panicked =>
        obtain ⟨c, member, bad⟩ := seq.panicked phase
        exact absurd bad (fine c member)
    | aborted => exact absurd (run_aborted positive h phase) kept
  · intro env before replies e failing
    exact ⟨s.finish env before replies (.err e) .ticking, by simp only [step, failing], rfl⟩
  · intro ticking delay env due
    simp [run, step, ticking, due]

end

theorem spawnCollectLoop_paced_failing :
    ∃ s : CollectTask Unit Unit Unit Unit String,
      s.starts = [0, 15 * 10 ^ 9] ∧
      WellPaced (fun _ => .fail "down") (15 * 10 ^ 9)
        [.tick (), .work, .wait (15 * 10 ^ 9), .tick ()] s := by
  obtain ⟨s, ran, starts⟩ : ∃ s : CollectTask Unit Unit Unit Unit String,
      run (step fun _ => .fail "down") (spawn () 0 (15 * 10 ^ 9))
        [.tick (), .work, .wait (15 * 10 ^ 9), .tick ()] = some s ∧ s.starts = [0, 15 * 10 ^ 9] :=
    ⟨_, rfl, rfl⟩
  exact ⟨s, starts, spawnCollectLoop_paced (by decide) ran⟩

end DrMetrix.CollectTask
