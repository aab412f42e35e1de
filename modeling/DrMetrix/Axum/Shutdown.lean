import DrMetrix.Axum.Supervision

/-! # The end of the loops

An abort ends a task at its next await, and a task gets there on its own: what
is left of a poll is finite, and no reply is needed. A task which is gone never
writes again.
-/

namespace DrMetrix

open Transition

namespace CollectTask

variable {ι σ κ ρ ε : Type} {collect : ι → Async σ κ ρ ε Unit}

/-- From a ticker the abort comes at once, from a collection after the writes
    before its next await. -/
theorem lands (s : CollectTask ι σ κ ρ ε) :
    ∃ (bs : List (TaskAction ι ρ)) (s' : CollectTask ι σ κ ρ ε),
      (∀ b ∈ bs, b = .work ∨ b = .abort) ∧ run (step collect) s bs = some s' ∧ ¬ s'.Alive := by
  have at_ticker : ∀ s : CollectTask ι σ κ ρ ε, s.phase = .ticking →
      ∃ s', run (step collect) s [.abort] = some s' ∧ ¬ s'.Alive := by
    intro s ticking
    exact ⟨{ s with phase := .aborted }, by simp [run, step, ticking], id⟩
  cases phase : s.phase with
  | ticking =>
      obtain ⟨s', ran, gone⟩ := at_ticker s phase
      exact ⟨[.abort], s', by simp, ran, gone⟩
  | panicked | aborted => exact ⟨[], s, by simp, rfl, by simp [Alive, phase]⟩
  | collecting env before replies rest =>
      induction rest generalizing s with
      | done value =>
          obtain ⟨s', ran, gone⟩ := at_ticker (s.finish env before replies (.ok ()) .ticking) rfl
          refine ⟨[.work, .abort], s', by simp, ?_, gone⟩
          exact run_cons_some.mpr ⟨_, by simp [step, phase], ran⟩
      | fail e =>
          obtain ⟨s', ran, gone⟩ := at_ticker (s.finish env before replies (.err e) .ticking) rfl
          refine ⟨[.work, .abort], s', by simp, ?_, gone⟩
          exact run_cons_some.mpr ⟨_, by simp [step, phase], ran⟩
      | panic =>
          refine ⟨[.work], s.finish env before replies .panicked .panicked, by simp, ?_, id⟩
          simp [run, step, phase]
      | write update next ih =>
          obtain ⟨bs, s', own, ran, gone⟩ := ih
            { s with state := update s.state, phase := .collecting env before replies next } rfl
          refine ⟨.work :: bs, s', by simpa using own, ?_, gone⟩
          exact run_cons_some.mpr ⟨_, by simp [step, phase], ran⟩
      | await q next =>
          refine ⟨[.abort], { s with phase := .aborted }, by simp, ?_, id⟩
          simp [run, step, phase]

end CollectTask

namespace Axum

variable {F K : Type} {kind : K → CollectorKind}

/-- Neither time nor a reply is needed for it. -/
def AppAction.unaided : AppAction kind → Bool
  | .poll _ _ .work | .cancel .. => true
  | _ => false

/-- Nothing is spawned any more once the state is dropped. -/
theorem Server.Drained.closed {s s' : Server F} {a : ServerAction} (drained : s.Drained)
    (dropped : s.dropped = true) (h : s.step a = some s') :
    a.spawns = false ∧ s'.dropped = true := by
  cases step_effect h with
  | spawned i call action found source next =>
      have returned := (drained dropped).2 call (List.mem_of_getElem? found)
      simp [source, AddPhase.returned] at returned
  | began _ _ action _ next | registered _ _ action _ _ _ _ _ next
  | pushed _ _ action _ _ _ next | counted _ _ action _ _ _ next | shut action _ next
  | terminated _ _ action _ _ next =>
      subst action next
      exact ⟨rfl, dropped⟩
  | dropped action _ _ next =>
      subst action next
      exact ⟨rfl, rfl⟩

namespace Application

variable [DecidableEq K] {app app' : Application F kind}

/-! ## Gone for good -/

theorem step_frozen {a : AppAction kind} {t : Nat} {k : K} {s : (kind k).Task}
    (found : app.Runs t k s) (gone : ¬ s.Alive) (h : app.step a = some app') :
    ∃ now, app'.Runs t k { s with now } := by
  cases step_effect h with
  | began k state collector interval server action taken next
  | served b server action taken calls loops ended next =>
      subst next
      exact ⟨s.now, found⟩
  | spawned i server k state call action taken handed at_i next =>
      subst next
      exact ⟨s.now, Population.getElem?_join found⟩
  | waited delay action next =>
      subst next
      refine ⟨s.now + delay, ?_⟩
      change (app.tasks.map _)[t]? = _
      rw [List.getElem?_map, show app.tasks[t]? = some ⟨k, s⟩ from found]
      rfl
  | moved u k' b s₀ s₁ action at_u taken next =>
      subst next
      have acts : ∀ delay, b ≠ .wait delay := by
        rintro delay rfl
        rcases action with ⟨-, polls⟩ | ⟨-, same, -⟩ <;> contradiction
      refine ⟨s.now, ?_⟩
      change (app.tasks.set u ⟨k', s₁⟩)[t]? = some ⟨k, s⟩
      rw [Population.getElem?_replace at_u]
      split
      · next here =>
          subst here
          cases at_u.symm.trans found
          exact absurd (CollectTask.step_alive taken acts).1 gone
      · exact found

theorem run_frozen {as : List (AppAction kind)} {t : Nat} {k : K} {s : (kind k).Task}
    (found : app.Runs t k s) (gone : ¬ s.Alive) (h : run step app as = some app') :
    ∃ now, app'.Runs t k { s with now } := by
  refine run_invariant (I := fun app : Application F kind => ∃ now, app.Runs t k { s with now })
    ?_ ⟨s.now, found⟩ h
  intro app a app' before taken
  obtain ⟨now, found⟩ := before
  exact step_frozen (s := { s with now }) found gone taken

/-! ## Landing -/

/-- Another task, or another part of the application, is as before. -/
structure SameBut (app : Application F kind) (t : Nat) (app' : Application F kind) : Prop where
  server : app'.server = app.server
  others : ∀ u, u ≠ t → app'.tasks[u]? = app.tasks[u]?

/-- The own steps of an aborted task are steps of the application. -/
theorem run_own {t : Nat} {k : K} {s s' : (kind k).Task} {l : CollectLoop}
    {bs : List (kind k).Action} (own : ∀ b ∈ bs, b = .work ∨ b = .abort)
    (found : app.Runs t k s) (at_t : app.server.metrics.loops[t]? = some l) (asked : l.aborts ≠ 0)
    (h : run (CollectTask.step (kind k).collect) s bs = some s') :
    ∃ as app', (∀ a ∈ as, a.unaided = true) ∧ run step app as = some app' ∧ SameBut app t app' ∧
      app'.Runs t k s' := by
  induction bs generalizing app s with
  | nil =>
      cases h
      exact ⟨[], app, by simp, rfl, ⟨rfl, fun _ _ => rfl⟩, found⟩
  | cons b bs ih =>
      obtain ⟨s₁, taken, rest⟩ := run_cons_some.mp h
      obtain ⟨first, others⟩ := List.forall_mem_cons.mp own
      have inside := (List.getElem?_eq_some_iff.mp found).1
      have now : ({ app with tasks := app.tasks.set t ⟨k, s₁⟩ } : Application F kind).Runs t k s₁ :=
        List.getElem?_set_self inside
      obtain ⟨as, app', unaided, ran, same, there⟩ := ih others now at_t rest
      have moved := moveTask_eq_some.mpr ⟨s, s₁, found, taken, rfl⟩
      have further : SameBut app t app' := by
        refine ⟨same.server, ?_⟩
        intro u other
        exact (same.others u other).trans (List.getElem?_set_ne other.symm)
      rcases first with rfl | rfl
      · refine ⟨.poll t k .work :: as, app', by simpa [AppAction.unaided] using unaided, ?_, further,
          there⟩
        exact run_cons_some.mpr ⟨_, moved, ran⟩
      · refine ⟨.cancel t k :: as, app', by simpa [AppAction.unaided] using unaided, ?_, further,
          there⟩
        exact run_cons_some.mpr ⟨_, by simp [step, at_t, asked, moved], ran⟩

/-- What the aborts of the first loops come to: an aborted task is gone, any
    other task is as before. -/
structure Landed (app : Application F kind) (n : Nat) (app' : Application F kind) : Prop where
  server : app'.server = app.server
  gone : ∀ t k s (l : CollectLoop), t < n → app'.Runs t k s →
    app.server.metrics.loops[t]? = some l → l.aborts ≠ 0 → ¬ s.Alive
  kept : ∀ (t : Nat) (l : CollectLoop), app.server.metrics.loops[t]? = some l → l.aborts = 0 →
    app'.tasks[t]? = app.tasks[t]?
  later : ∀ t : Nat, n ≤ t → app'.tasks[t]? = app.tasks[t]?

omit [DecidableEq K] in
/-- There is nothing to do for loop `n`. -/
theorem Landed.skip {n : Nat} (landed : Landed app n app')
    (idle : ∀ k s (l : CollectLoop), app'.Runs n k s → app.server.metrics.loops[n]? = some l →
      l.aborts = 0) : Landed app (n + 1) app' := by
  refine ⟨landed.server, ?_, landed.kept, fun t later => landed.later t (by omega)⟩
  intro t k s l before there at_t asked
  by_cases last : t = n
  · subst last
    exact absurd (idle k s l there at_t) asked
  · exact landed.gone t k s l (by omega) there at_t asked

/-- One task after the other. -/
theorem lands (app : Application F kind) (n : Nat) :
    ∃ as app', (∀ a ∈ as, a.unaided = true) ∧ run step app as = some app' ∧ Landed app n app' := by
  induction n with
  | zero =>
      refine ⟨[], app, by simp, rfl, rfl, ?_, fun _ _ _ _ => rfl, fun _ _ => rfl⟩
      intro t k s l none
      cases none
  | succ n ih =>
      obtain ⟨as, app', unaided, ran, landed⟩ := ih
      by_cases idle : ∀ k s (l : CollectLoop), app'.Runs n k s →
          app.server.metrics.loops[n]? = some l → l.aborts = 0
      · exact ⟨as, app', unaided, ran, landed.skip idle⟩
      · push Not at idle
        obtain ⟨k, s, l, found, at_n, asked⟩ := idle
        obtain ⟨bs, s', own, ended, gone⟩ :=
          CollectTask.lands s
        obtain ⟨more, app'', also, further, same, there⟩ :=
          run_own own found (landed.server ▸ at_n) asked ended
        refine ⟨as ++ more, app'', ?_, run_append_some.mpr ⟨app', ran, further⟩,
          same.server.trans landed.server, ?_, ?_, ?_⟩
        · exact List.forall_mem_append.mpr ⟨unaided, also⟩
        · intro t k' s'' l' before here at_t requested
          by_cases last : t = n
          · subst last
            cases there.symm.trans here
            exact gone
          · rw [Runs, same.others t last] at here
            exact landed.gone t k' s'' l' (by omega) here at_t requested
        · intro t l' at_t none
          have other : t ≠ n := by
            rintro rfl
            cases at_n.symm.trans at_t
            exact asked none
          rw [same.others t other, landed.kept t l' at_t none]
        · intro t later
          rw [same.others t (by omega), landed.later t (by omega)]

/-! ## No task after Drop -/

theorem step_closed {a : AppAction kind} (drained : app.server.Drained)
    (dropped : app.server.dropped = true) (h : app.step a = some app') :
    app'.server.Drained ∧ app'.server.dropped = true ∧ app'.tasks.length = app.tasks.length := by
  cases step_effect h with
  | began k state collector interval server action taken next
  | served b server action taken calls loops ended next =>
      subst next
      exact ⟨drained.step taken, (drained.closed dropped taken).2, rfl⟩
  | spawned i server k state call action taken handed found next =>
      cases (drained.closed dropped taken).1
  | waited delay action next =>
      subst next
      exact ⟨drained, dropped, List.length_map _⟩
  | moved t k b s s' action found taken next =>
      subst next
      exact ⟨drained, dropped, List.length_set⟩

theorem run_closed {as : List (AppAction kind)} (drained : app.server.Drained)
    (dropped : app.server.dropped = true) (h : run step app as = some app') :
    app'.tasks.length = app.tasks.length := by
  have kept := run_invariant (I := fun app' : Application F kind => app'.server.Drained ∧
    app'.server.dropped = true ∧ app'.tasks.length = app.tasks.length) ?_
    ⟨drained, dropped, rfl⟩ h
  · exact kept.2.2
  · intro app₁ a app₂ before taken
    obtain ⟨drained, dropped, length⟩ := before
    have after := step_closed drained dropped taken
    exact ⟨after.1, after.2.1, after.2.2.trans length⟩

end Application

/-- How the loops of an application come to their end. -/
structure ShutsDown [DecidableEq K] (app : Application F kind) : Prop where
  /-- Every aborted task can be ended without a reply of its backend, and without
      a change to any other task. -/
  lands : ∃ as app', (∀ a ∈ as, a.unaided = true) ∧
    run Application.step app as = some app' ∧ Application.Landed app app.tasks.length app'
  /-- From then on it never writes, whatever happens. -/
  frozen : ∀ t k s, app.Runs t k s → ¬ s.Alive → ∀ as app',
    run Application.step app as = some app' → ∃ now, app'.Runs t k { s with now }
  /-- After Drop this holds of all tasks, and there will be no others. -/
  dropped : app.server.dropped = true → ∃ as app', (∀ a ∈ as, a.unaided = true) ∧
    run Application.step app as = some app' ∧ (∀ t k s, app'.Runs t k s → ¬ s.Alive) ∧
      ∀ bs app'', run Application.step app' bs = some app'' →
        app''.tasks.length = app.tasks.length

/-- In every reachable state. -/
theorem shutdown_completes [DecidableEq K] {registry : Prometheus.Registry} {http : HttpMetrics F}
    {as : List (AppAction kind)} {app : Application F kind}
    (h : run Application.step (Application.start registry http) as = some app) :
    ShutsDown app := by
  refine ⟨app.lands _, fun t k s found gone as app' later =>
    Application.run_frozen found gone later, ?_⟩
  intro dropped
  have served := Application.run_server h
  have supervised := Application.run_supervised h
  have drained : app.server.Drained := by
    refine run_invariant (I := Server.Drained) (fun _ _ _ drained taken => drained.step taken) ?_
      served
    intro absent
    cases absent
  obtain ⟨bs, app', unaided, ran, landed⟩ := app.lands app.tasks.length
  have length := Application.run_closed drained dropped ran
  refine ⟨bs, app', unaided, ran, ?_, ?_⟩
  · intro t k s found
    have inside := (List.getElem?_eq_some_iff.mp found).1
    rw [length] at inside
    obtain ⟨l, at_t⟩ : ∃ l, app.server.metrics.loops[t]? = some l :=
      ⟨_, List.getElem?_eq_getElem (supervised.tasks ▸ inside)⟩
    have asked := dropped_aborted served dropped l (List.mem_of_getElem? at_t)
    exact landed.gone t k s l inside found at_t (by omega)
  · intro cs app'' later
    have closed := Application.run_closed (by rwa [landed.server])
      (by rwa [landed.server]) later
    exact closed.trans length

/-- The state is dropped while a collection writes. -/
def droppedWhileCollecting : List (AppAction counting) :=
  [.begin () (0 : Nat) { name := "counting", register := registerAll [] } 15, .server (.register 0),
    .server (.spawn 0), .server (.push 0), .server (.count 0), .poll 0 () (.tick ()), .server .drop]

theorem shutdown_completes_dropped :
    ∃ (http : HttpMetrics Exact) (app : Application Exact counting),
      HttpMetrics.new "app" = .ok http ∧ ShutsDown app ∧ app.server.dropped = true ∧
        (app.tasks.any fun task => !task.2.phase.hasPanicked) = true := by
  obtain ⟨http, built⟩ : ∃ http : HttpMetrics Exact, HttpMetrics.new "app" = .ok http := ⟨_, rfl⟩
  obtain ⟨app, ran, dropped, task⟩ : ∃ app : Application Exact counting,
      run Application.step (Application.start ∅ http) droppedWhileCollecting = some app ∧
        app.server.dropped = true ∧
          (app.tasks.any fun task => !task.2.phase.hasPanicked) = true := ⟨_, rfl, rfl, rfl⟩
  exact ⟨http, app, built, shutdown_completes ran, dropped, task⟩

end Axum

end DrMetrix
