import DrMetrix.Axum.Application

/-! # Calls, loops and tasks belong together

Seen by the server, a run of the application is a run of the server; seen by a
task, it is a run of its loop alone. In between, every task has its call, and
its end has a cause on the other side.
-/

namespace DrMetrix.Axum

open Transition

variable {F K : Type} {kind : K → CollectorKind}

/-! ## What the server does to calls and loops -/

namespace Server

variable {s s' : Server F} {a : ServerAction}

/-- A call which moves on keeps its place, its interval and its handle. -/
theorem advance_keeps {i j : Nat} {call other : AddCall} {phase : AddPhase}
    {metrics : PrometheusMetrics F} {t : Nat} (at_j : s.calls[j]? = some other)
    (keeps : ∀ t, other.phase.handle? = some t → phase.handle? = some t)
    (found : s.calls[i]? = some call) (handle : call.phase.handle? = some t) :
    ∃ call', (s.advance j other phase metrics).calls[i]? = some call' ∧
      call'.phase.handle? = some t ∧ call'.interval = call.interval := by
  have moved := Population.getElem?_replace at_j { other with phase } i
  change (s.advance j other phase metrics).calls[i]? = _ at moved
  by_cases here : j = i
  · subst here
    obtain rfl := Option.some.inj (at_j.symm.trans found)
    rw [if_pos rfl] at moved
    exact ⟨_, moved, keeps t handle, rfl⟩
  · rw [if_neg here] at moved
    exact ⟨call, moved.trans found, handle, rfl⟩

theorem calls_step (h : s.step a = some s') {i t : Nat} {call : AddCall}
    (found : s.calls[i]? = some call) (handle : call.phase.handle? = some t) :
    ∃ call', s'.calls[i]? = some call' ∧ call'.phase.handle? = some t ∧
      call'.interval = call.interval := by
  cases step_effect h with
  | began collector interval _ _ next =>
      subst next
      exact ⟨call, Population.getElem?_join found, handle, rfl⟩
  | registered j other _ at_j source _ _ _ next | spawned j other _ at_j source next =>
      subst next
      exact advance_keeps at_j (by simp [source, AddPhase.handle?]) found handle
  | pushed j other _ at_j handle source next | counted j other _ at_j handle source next =>
      subst next
      exact advance_keeps at_j (by simp [source, AddPhase.handle?]) found ‹_›
  | shut _ _ next | terminated _ _ _ _ _ next | dropped _ _ _ next =>
      subst next
      exact ⟨call, found, handle, rfl⟩

theorem calls_length (h : s.step a = some s') :
    s'.calls.length = s.calls.length + a.begins.toNat := by
  cases step_effect h with
  | began collector interval action _ next =>
      subst action next
      exact List.length_append
  | registered j other action _ _ _ _ _ next | spawned j other action _ _ next
  | pushed j other action _ _ _ next | counted j other action _ _ _ next =>
      subst action next
      exact List.length_set
  | shut action _ next | terminated _ _ action _ _ next | dropped action _ _ next =>
      subst action next
      rfl

/-- Loops are only added, aborts only go up, and nothing but the runtime ends one. -/
structure LoopsGrow (s : Server F) (a : ServerAction) (s' : Server F) : Prop where
  length : s'.metrics.loops.length = s.metrics.loops.length + a.spawns.toNat
  aborts : ∀ (t : Nat) (l l' : CollectLoop), s.metrics.loops[t]? = some l →
    s'.metrics.loops[t]? = some l' → l.aborts ≤ l'.aborts
  ended : ∀ (t : Nat) (l' : CollectLoop), s'.metrics.loops[t]? = some l' → l'.ended = true →
    a = .terminate t ∨ ∃ l, s.metrics.loops[t]? = some l ∧ l.ended = true

theorem LoopsGrow.same {s s' : Server F} {a : ServerAction} (spawns : a.spawns = false)
    (loops : s'.metrics.loops = s.metrics.loops) : LoopsGrow s a s' := by
  refine ⟨by rw [loops, spawns]; rfl, ?_, ?_⟩
  · intro t l l' before after
    rw [loops, before] at after
    cases after
    exact Nat.le_refl _
  · intro t l' after ended
    exact .inr ⟨l', loops ▸ after, ended⟩

theorem LoopsGrow.shut {s s' : Server F} {a : ServerAction} (spawns : a.spawns = false)
    (metrics : s'.metrics = s.metrics.shutdown) : LoopsGrow s a s' := by
  have loops : ∀ t : Nat, s'.metrics.loops[t]? = s.metrics.loops[t]?.map fun l : CollectLoop =>
      { l with aborts := l.aborts + s.metrics.listed t } := by
    intro t
    rw [metrics]
    exact PrometheusMetrics.abortAll_get _ _ t
  refine ⟨?_, ?_, ?_⟩
  · rw [metrics, spawns]
    exact PrometheusMetrics.abortAll_length _ _
  · intro t l l' before after
    rw [loops, before] at after
    cases after
    exact Nat.le_add_right _ _
  · intro t l' after ended
    rw [loops] at after
    obtain ⟨l, before, rfl⟩ := Option.map_eq_some_iff.mp after
    exact .inr ⟨l, before, ended⟩

theorem loops_step (h : s.step a = some s') : LoopsGrow s a s' := by
  cases step_effect h with
  | began _ _ action _ next | registered _ _ action _ _ _ _ _ next
  | pushed _ _ action _ _ _ next | counted _ _ action _ _ _ next =>
      subst action next
      exact .same rfl rfl
  | shut action _ next | dropped action _ _ next =>
      subst action next
      exact .shut rfl rfl
  | spawned j other action at_j source next =>
      subst action next
      refine ⟨List.length_append, ?_, ?_⟩
      · intro t l l' before after
        cases (Population.getElem?_join before).symm.trans after
        exact Nat.le_refl _
      · intro t l' after ended
        rcases Population.of_getElem?_join after with old | ⟨-, rfl⟩
        · exact .inr ⟨l', old, ended⟩
        · cases ended
  | terminated u k action at_u running next =>
      subst action next
      refine ⟨List.length_set, ?_, ?_⟩
      · intro t l l' before after
        change (s.metrics.loops.set u _)[t]? = some l' at after
        rw [Population.getElem?_replace at_u] at after
        split at after
        · next here =>
            subst here
            cases after
            cases at_u.symm.trans before
            exact Nat.le_refl _
        · cases after.symm.trans before
          exact Nat.le_refl _
      · intro t l' after ended
        change (s.metrics.loops.set u _)[t]? = some l' at after
        rw [Population.getElem?_replace at_u] at after
        split at after
        · next here => exact .inl (congrArg _ here)
        · exact .inr ⟨l', after, ended⟩

/-- The call which spawned has the handle of the new loop. -/
theorem spawned_handle {i : Nat} {call : AddCall} (h : s.step (.spawn i) = some s')
    (found : s'.calls[i]? = some call) : call.phase.handle? = some s.metrics.loops.length := by
  cases step_effect h with
  | spawned j other action at_j source next =>
      cases action
      subst next
      have moved := Population.getElem?_replace at_j
        { other with phase := .pushing s.metrics.loops.length } i
      rw [if_pos rfl] at moved
      cases moved.symm.trans found
      rfl
  | began _ _ action | registered _ _ action | pushed _ _ action | counted _ _ action
  | shut action | terminated _ _ action | dropped action => cases action

/-- There are as many loops as calls which have spawned. -/
theorem handles_counted {registry : Prometheus.Registry} {http : HttpMetrics F}
    {as : List ServerAction} (h : run step (start registry http) as = some s) :
    s.calls.countP (fun call => call.phase.handle?.isSome) = s.metrics.loops.length := by
  refine run_invariant (I := fun s : Server F =>
    s.calls.countP (fun call => call.phase.handle?.isSome) = s.metrics.loops.length) ?_ rfl h
  intro s a s' before taken
  have moves : ∀ {i : Nat} {call : AddCall}, s.calls[i]? = some call → ∀ phase metrics,
      (s.advance i call phase metrics).calls.countP (fun call => call.phase.handle?.isSome) +
          call.phase.handle?.isSome.toNat =
        s.metrics.loops.length + phase.handle?.isSome.toNat := by
    intro i call found phase metrics
    rw [← before]
    exact Population.countP_replace (fun call : AddCall => call.phase.handle?.isSome) found
      { call with phase }
  have grow := (loops_step taken).length
  cases step_effect taken with
  | began collector interval action _ next =>
      subst action next
      exact (Population.countP_join (fun call : AddCall => call.phase.handle?.isSome) _ _).trans before
  | registered i call action found source phase target registry next =>
      subst action next
      have balance := moves found phase { s.metrics with registry }
      rw [source] at balance
      rcases target with rfl | ⟨e, rfl⟩ <;> exact balance
  | spawned i call action found source next =>
      subst action next
      have balance := moves found (.pushing s.metrics.loops.length)
        (s.metrics.spawnCollectLoop call.collector.name call.interval)
      rw [source] at balance
      exact balance.trans grow.symm
  | pushed i call action found handle source next =>
      subst action next
      have balance := moves found (.counting handle)
        (s.metrics.pushHandle call.collector.name handle)
      rw [source] at balance
      exact Nat.add_right_cancel balance
  | counted i call action found handle source next =>
      subst action next
      have balance := moves found (.added handle) s.metrics.countCollector
      rw [source] at balance
      exact Nat.add_right_cancel balance
  | shut action _ next | terminated _ _ action _ _ next | dropped action _ _ next =>
      subst action next
      rw [grow]
      exact before

/-- With no call in progress, every loop has been counted. -/
theorem count_quiet {registry : Prometheus.Registry} {http : HttpMetrics F}
    {as : List ServerAction} (h : run step (start registry http) as = some s) (quiet : s.Quiet) :
    s.metrics.collectorCount = s.metrics.loops.length := by
  have counted : Counted s :=
    run_invariant (fun _ _ _ counted taken => Counted.step counted taken) (.start registry http) h
  rw [counted.count, ← handles_counted h]
  apply List.countP_congr
  intro call member
  have returned := quiet call member
  cases phase : call.phase with
  | registering | spawning | pushing | counting => simp [phase, AddPhase.returned] at returned
  | added handle | failed e => simp [AddPhase.counted, AddPhase.handle?]

end Server

/-! ## The tasks of the loops -/

namespace Application

/-- The task `s` runs the loop of the call which holds or gave away the handle
    `t`, on the collector of that call. -/
def Drives (app : Application F kind) (t : Nat) (k : K) (s : (kind k).Task) : Prop :=
  ∃ (i : Nat) (call : AddCall) (state : (kind k).State) (began : Nat)
      (actions : List (kind k).Action),
    app.server.calls[i]? = some call ∧ call.phase.handle? = some t ∧
      app.given[i]? = some ⟨k, state⟩ ∧
      run (CollectTask.step (kind k).collect) (CollectTask.spawn state began call.interval)
        actions = some s

structure Supervised (app : Application F kind) : Prop where
  given : app.given.length = app.server.calls.length
  tasks : app.tasks.length = app.server.metrics.loops.length
  drives : ∀ t k s, app.Runs t k s → app.Drives t k s
  clock : ∀ t k s, app.Runs t k s → s.now = app.clock
  aborted : ∀ t k s (l : CollectLoop), app.Runs t k s → app.server.metrics.loops[t]? = some l →
    s.phase = .aborted → l.aborts ≠ 0
  ended : ∀ t k s (l : CollectLoop), app.Runs t k s → app.server.metrics.loops[t]? = some l →
    l.ended = true → s.phase = .panicked

variable {app app' : Application F kind}

theorem runs_moved {t u : Nat} {k k' : K} {s s' : (kind k).Task} {s'' : (kind k').Task}
    (found : app.Runs t k s)
    (there : ({ app with tasks := app.tasks.set t ⟨k, s'⟩ } : Application F kind).Runs u k' s'') :
    (u = t ∧ (⟨k', s''⟩ : (k : K) × (kind k).Task) = ⟨k, s'⟩) ∨ app.Runs u k' s'' := by
  change (app.tasks.set t ⟨k, s'⟩)[u]? = _ at there
  rw [Population.getElem?_replace found] at there
  split at there
  · next here => exact .inl ⟨here.symm, (Option.some.inj there).symm⟩
  · exact .inr there

theorem runs_passTime {t delay : Nat} {k : K} {s : (kind k).Task}
    (there : (app.passTime delay).Runs t k s) :
    ∃ s₀, app.Runs t k s₀ ∧ s = { s₀ with now := s₀.now + delay } := by
  rw [Runs, passTime, List.getElem?_map] at there
  obtain ⟨⟨k', s₀⟩, found, same⟩ := Option.map_eq_some_iff.mp there
  cases same
  exact ⟨s₀, found, rfl⟩

/-- One more step of the task. -/
theorem Drives.step {t : Nat} {k : K} {s s' : (kind k).Task} {a : (kind k).Action}
    (drives : app.Drives t k s) (taken : CollectTask.step (kind k).collect s a = some s') :
    app.Drives t k s' := by
  obtain ⟨i, call, state, began, actions, found, handle, handed, ran⟩ := drives
  refine ⟨i, call, state, began, actions ++ [a], found, handle, handed, ?_⟩
  exact run_append_some.mpr ⟨s, ran, run_cons_some.mpr ⟨s', taken, rfl⟩⟩

/-- The server moves, the task stands still. -/
theorem Drives.serve {t : Nat} {k : K} {s : (kind k).Task} {a : ServerAction} {server : Server F}
    {later : List ((k : K) × (kind k).State)} (drives : app.Drives t k s)
    (taken : app.server.step a = some server) :
    ({ app with server, given := app.given ++ later } : Application F kind).Drives t k s := by
  obtain ⟨i, call, state, began, actions, found, handle, handed, ran⟩ := drives
  obtain ⟨call', found', handle', interval⟩ := Server.calls_step taken found handle
  rw [← interval] at ran
  refine ⟨i, call', state, began, actions, found', handle', ?_, ran⟩
  have inside := (List.getElem?_eq_some_iff.mp handed).1
  exact (List.getElem?_append_left inside).trans handed

/-- A step of the server which starts no task. -/
theorem Supervised.serve {a : ServerAction} {server : Server F}
    {later : List ((k : K) × (kind k).State)} (supervised : app.Supervised)
    (taken : app.server.step a = some server) (other : a.spawns = false)
    (ended : ∀ t, a = .terminate t → ∃ k s, app.Runs t k s ∧ s.phase = .panicked)
    (joins : later.length = a.begins.toNat) :
    ({ app with server, given := app.given ++ later } : Application F kind).Supervised := by
  have grow := Server.loops_step taken
  have length := grow.length
  rw [other, Bool.toNat_false, Nat.add_zero] at length
  have before : ∀ {t : Nat} {l' : CollectLoop}, server.metrics.loops[t]? = some l' →
      ∃ l, app.server.metrics.loops[t]? = some l := by
    intro t l' after
    have inside := (List.getElem?_eq_some_iff.mp after).1
    exact ⟨_, List.getElem?_eq_getElem (length ▸ inside)⟩
  refine ⟨?_, supervised.tasks.trans length.symm, ?_, supervised.clock, ?_, ?_⟩
  · rw [List.length_append, supervised.given, joins, Server.calls_length taken]
  · exact fun t k s found => (supervised.drives t k s found).serve taken
  · intro t k s l' found after aborted
    obtain ⟨l, at_t⟩ := before after
    have asked := supervised.aborted t k s l found at_t aborted
    have more := grow.aborts t l l' at_t after
    omega
  · intro t k s l' found after stopped
    rcases grow.ended t l' after stopped with same | ⟨l, at_t, stopped⟩
    · obtain ⟨k', s', here, panicked⟩ := ended t same
      cases found.symm.trans here
      exact panicked
    · exact supervised.ended t k s l found at_t stopped

/-- A step of one task. -/
theorem Supervised.move {t : Nat} {k : K} {a : (kind k).Action} {s s' : (kind k).Task}
    (supervised : app.Supervised) (found : app.Runs t k s)
    (taken : CollectTask.step (kind k).collect s a = some s') (now : s'.now = s.now)
    (alive : s.phase ≠ .panicked)
    (asked : s'.phase = .aborted → ∃ l, app.server.metrics.loops[t]? = some l ∧ l.aborts ≠ 0) :
    ({ app with tasks := app.tasks.set t ⟨k, s'⟩ } : Application F kind).Supervised := by
  refine ⟨supervised.given, List.length_set.trans supervised.tasks, ?_, ?_, ?_, ?_⟩
  · intro u k' s'' there
    rcases runs_moved found there with ⟨rfl, same⟩ | old
    · cases same
      exact (supervised.drives u k s found).step taken
    · exact supervised.drives u k' s'' old
  · intro u k' s'' there
    rcases runs_moved found there with ⟨rfl, same⟩ | old
    · cases same
      exact now.trans (supervised.clock u k s found)
    · exact supervised.clock u k' s'' old
  · intro u k' s'' l there at_u aborted
    rcases runs_moved found there with ⟨rfl, same⟩ | old
    · cases same
      obtain ⟨l', at_t, requested⟩ := asked aborted
      cases at_t.symm.trans at_u
      exact requested
    · exact supervised.aborted u k' s'' l old at_u aborted
  · intro u k' s'' l there at_u stopped
    rcases runs_moved found there with ⟨rfl, same⟩ | old
    · exact absurd (supervised.ended u k s l found at_u stopped) alive
    · exact supervised.ended u k' s'' l old at_u stopped

/-- A spawning call gets its task. -/
theorem Supervised.spawn {i : Nat} {server : Server F} {k : K} {state : (kind k).State}
    {call : AddCall} (supervised : app.Supervised) (taken : app.server.step (.spawn i) = some server)
    (handed : app.given[i]? = some ⟨k, state⟩) (found : server.calls[i]? = some call) :
    ({ app with
      server
      tasks := app.tasks ++ [⟨k, CollectTask.spawn state app.clock call.interval⟩] } :
        Application F kind).Supervised := by
  have grow := Server.loops_step taken
  have handle := Server.spawned_handle taken found
  rw [← supervised.tasks] at handle
  have split : ∀ u k' s', ({ app with
      server
      tasks := app.tasks ++ [⟨k, CollectTask.spawn state app.clock call.interval⟩] } :
        Application F kind).Runs u k' s' → app.Runs u k' s' ∨ u = app.tasks.length ∧
          (⟨k', s'⟩ : (k : K) × (kind k).Task) =
            ⟨k, CollectTask.spawn state app.clock call.interval⟩ :=
    fun u k' s' there => Population.of_getElem?_join there
  have before : ∀ {t : Nat} {k' : K} {s' : (kind k').Task}, app.Runs t k' s' →
      ∃ l, app.server.metrics.loops[t]? = some l := by
    intro t k' s' there
    have inside := (List.getElem?_eq_some_iff.mp there).1
    exact ⟨_, List.getElem?_eq_getElem (supervised.tasks ▸ inside)⟩
  refine ⟨?_, ?_, ?_, ?_, ?_, ?_⟩
  · exact supervised.given.trans (Server.calls_length taken).symm
  · rw [List.length_append, supervised.tasks, grow.length]
    rfl
  · intro u k' s' there
    rcases split u k' s' there with old | ⟨rfl, same⟩
    · obtain ⟨j, other, start, began, actions, at_j, handle', handed', ran⟩ :=
        supervised.drives u k' s' old
      obtain ⟨other', at_j', handle'', interval⟩ := Server.calls_step taken at_j handle'
      exact ⟨j, other', start, began, actions, at_j', handle'', handed', interval ▸ ran⟩
    · cases same
      exact ⟨i, call, state, app.clock, [], found, handle, handed, rfl⟩
  · intro u k' s' there
    rcases split u k' s' there with old | ⟨rfl, same⟩
    · exact supervised.clock u k' s' old
    · cases same
      rfl
  · intro u k' s' l' there after aborted
    rcases split u k' s' there with old | ⟨rfl, same⟩
    · obtain ⟨l, at_u⟩ := before old
      have asked := supervised.aborted u k' s' l old at_u aborted
      have more := grow.aborts u l l' at_u after
      omega
    · cases same
      simp only [CollectTask.spawn] at aborted
      split at aborted <;> cases aborted
  · intro u k' s' l' there after stopped
    rcases grow.ended u l' after stopped with same | ⟨l, at_u, stopped⟩
    · cases same
    · rcases split u k' s' there with old | ⟨rfl, -⟩
      · exact supervised.ended u k' s' l old at_u stopped
      · have inside := (List.getElem?_eq_some_iff.mp at_u).1
        have length := supervised.tasks
        omega

/-- Time passes for all. -/
theorem Supervised.wait (supervised : app.Supervised) (delay : Nat) :
    (app.passTime delay).Supervised := by
  refine ⟨supervised.given, (List.length_map _).trans supervised.tasks, ?_, ?_, ?_, ?_⟩
  · intro t k s there
    obtain ⟨s₀, found, rfl⟩ := runs_passTime there
    exact (supervised.drives t k s₀ found).step (a := .wait delay) rfl
  · intro t k s there
    obtain ⟨s₀, found, rfl⟩ := runs_passTime there
    exact congrArg (· + delay) (supervised.clock t k s₀ found)
  · intro t k s l there
    obtain ⟨s₀, found, rfl⟩ := runs_passTime there
    exact supervised.aborted t k s₀ l found
  · intro t k s l there
    obtain ⟨s₀, found, rfl⟩ := runs_passTime there
    exact supervised.ended t k s₀ l found

theorem Supervised.start (registry : Prometheus.Registry) (http : HttpMetrics F) :
    (start registry http : Application F kind).Supervised := by
  refine ⟨rfl, rfl, ?_, ?_, ?_, ?_⟩ <;> simp [Application.start, Runs]

variable [DecidableEq K]

theorem Supervised.step {a : AppAction kind} (supervised : app.Supervised)
    (h : app.step a = some app') : app'.Supervised := by
  cases step_effect h with
  | began k state collector interval server action taken next =>
      subst next
      exact supervised.serve taken rfl (by simp) rfl
  | spawned i server k state call action taken handed found next =>
      subst next
      exact supervised.spawn taken handed found
  | served b server action taken calls loops ended next =>
      subst next
      have same : app.given ++ [] = app.given := List.append_nil _
      rw [← same]
      exact supervised.serve taken loops ended (by rw [calls]; rfl)
  | waited delay action next =>
      subst next
      exact supervised.wait delay
  | moved t k b s s' action found taken next =>
      subst next
      have acts : ∀ delay, b ≠ .wait delay := by
        rintro delay rfl
        rcases action with ⟨-, polls⟩ | ⟨-, same, -⟩ <;> contradiction
      obtain ⟨alive, now, cause⟩ := CollectTask.step_alive taken acts
      refine supervised.move found taken now ?_ ?_
      · intro panicked
        simp only [CollectTask.Alive, panicked] at alive
      · intro aborted
        obtain rfl := cause aborted
        rcases action with ⟨-, polls⟩ | ⟨-, -, asked⟩
        · cases polls
        · exact asked

end Application

/-- What the server sees of an action. -/
def AppAction.server? : AppAction kind → Option ServerAction
  | .begin _ _ collector interval => some (.begin collector interval)
  | .server a => some a
  | .wait _ | .poll .. | .cancel .. => none

/-- The application is its server and its loops, each as it is alone. -/
structure Composed (registry : Prometheus.Registry) (http : HttpMetrics F)
    (as : List (AppAction kind)) (app : Application F kind) : Prop where
  server : run Server.step (Server.start registry http) (as.filterMap AppAction.server?) =
    some app.server
  /-- Calls and collectors, loops and tasks correspond. -/
  given : app.given.length = app.server.calls.length
  tasks : app.tasks.length = app.server.metrics.loops.length
  /-- Every task runs the loop of the call which spawned it, at the common time. -/
  loop : ∀ t k s, app.Runs t k s → app.Drives t k s ∧ s.now = app.clock
  /-- A task is gone only after its handle was consumed by one abort. -/
  aborted : ∀ t k s (l : CollectLoop), app.Runs t k s → app.server.metrics.loops[t]? = some l →
    s.phase = .aborted →
      l.aborts = 1 ∧ app.server.metrics.listed t = 0 ∧ app.server.inTransit t = 0
  ended : ∀ t k s (l : CollectLoop), app.Runs t k s → app.server.metrics.loops[t]? = some l →
    l.ended = true → s.phase = .panicked
  /-- What `/health` reports is the number of tasks which were ever spawned. -/
  count : app.server.Quiet → app.server.metrics.collectorCount = app.tasks.length

namespace Application

variable [DecidableEq K] {registry : Prometheus.Registry} {http : HttpMetrics F}
  {as : List (AppAction kind)} {app : Application F kind}

theorem run_server (h : run step (start registry http) as = some app) :
    run Server.step (Server.start registry http) (as.filterMap AppAction.server?) =
      some app.server := by
  refine run_project Application.server AppAction.server? ?_ h
  intro app a app' stepped
  cases step_effect stepped with
  | began k state collector interval server action taken next =>
      subst action next
      exact run_cons_some.mpr ⟨server, taken, rfl⟩
  | spawned i server k state call action taken handed found next =>
      subst action next
      exact run_cons_some.mpr ⟨server, taken, rfl⟩
  | served b server action taken calls loops ended next =>
      subst action next
      exact run_cons_some.mpr ⟨server, taken, rfl⟩
  | waited delay action next =>
      subst action next
      rfl
  | moved t k b s s' action found taken next =>
      subst next
      rcases action with ⟨rfl, -⟩ | ⟨rfl, -⟩ <;> rfl

theorem run_supervised (h : run step (start registry http) as = some app) : app.Supervised :=
  run_invariant (I := Supervised) (fun _ _ _ supervised taken => supervised.step taken)
    (.start registry http) h

end Application

/-- For any number of collectors of any kinds. -/
theorem application_composes [DecidableEq K] {registry : Prometheus.Registry} {http : HttpMetrics F}
    {as : List (AppAction kind)} {app : Application F kind}
    (h : run Application.step (Application.start registry http) as = some app) :
    Composed registry http as app := by
  have served := Application.run_server h
  have supervised := Application.run_supervised h
  refine ⟨served, supervised.given, supervised.tasks, ?_, ?_, supervised.ended, ?_⟩
  · exact fun t k s found => ⟨supervised.drives t k s found, supervised.clock t k s found⟩
  · intro t k s l found at_t aborted
    have asked := supervised.aborted t k s l found at_t aborted
    have balance := (Owned.run served).balance t l at_t
    omega
  · intro quiet
    rw [supervised.tasks, Server.count_quiet served quiet]

/-- A collector which counts its collections. -/
def counting (_ : Unit) : CollectorKind where
  Env := Unit
  State := Nat
  Request := Unit
  Reply := Except String Unit
  collect _ := .write (· + 1) (.await () fun reply => Async.liftExcept (reply.mapError .database))

/-- A shutdown which ends a collection at its await. -/
def shutdownWhileCollecting : List (AppAction counting) :=
  [.begin () (0 : Nat) { name := "counting", register := registerAll [] } 15, .server (.register 0),
    .server (.spawn 0), .poll 0 () (.tick ()), .server (.push 0), .server (.count 0),
    .poll 0 () .work, .server .shutdown, .wait 3, .cancel 0 ()]

theorem application_composes_shutdown :
    ∃ (http : HttpMetrics Exact) (app : Application Exact counting) (s : (counting ()).Task),
      HttpMetrics.new "app" = .ok http ∧ Composed ∅ http shutdownWhileCollecting app ∧
        app.Runs 0 () s ∧ s.state = (1 : Nat) ∧ s.now = 3 := by
  obtain ⟨http, built⟩ : ∃ http : HttpMetrics Exact, HttpMetrics.new "app" = .ok http := ⟨_, rfl⟩
  obtain ⟨app, ran, s, task, state⟩ : ∃ app,
      run Application.step (Application.start ∅ http) shutdownWhileCollecting = some app ∧
        ∃ s, app.Runs 0 () s ∧ s.state = (1 : Nat) ∧ s.now = 3 := ⟨_, rfl, _, rfl, rfl, rfl⟩
  exact ⟨http, app, s, built, application_composes ran, task, state⟩

end DrMetrix.Axum
