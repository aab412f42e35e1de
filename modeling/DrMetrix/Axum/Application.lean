import DrMetrix.Axum.ActiveCount
import DrMetrix.Core.Freshness

/-! # The application

The shared state together with the tasks of its loops. Calls of `add_collector`,
shutdowns and the polls of all tasks interleave, and one clock runs for all. A
shutdown requests the end of a task, which comes when the task stands at an
await.
-/

namespace DrMetrix

/-- What a task does when it is polled. -/
def TaskAction.polls {ι ρ : Type} : TaskAction ι ρ → Bool
  | .tick _ | .work | .reply _ => true
  | .wait _ | .abort => false

def TaskPhase.hasPanicked {ι σ κ ρ ε : Type} : TaskPhase ι σ κ ρ ε → Bool
  | .panicked => true
  | _ => false

namespace Axum

open Transition

def ServerAction.begins : ServerAction → Bool
  | .begin .. => true
  | _ => false

def ServerAction.stops : ServerAction → Bool
  | .shutdown | .drop => true
  | _ => false

/-- An implementation of the collector trait, as its loop sees it. -/
structure CollectorKind where
  Env : Type
  State : Type
  Request : Type
  Reply : Type
  collect : Env → Async State Request Reply MetricsError Unit

namespace CollectorKind

abbrev Task (k : CollectorKind) : Type :=
  CollectTask k.Env k.State k.Request k.Reply MetricsError

abbrev Action (k : CollectorKind) : Type := TaskAction k.Env k.Reply

def step (k : CollectorKind) : k.Task → k.Action → Option k.Task := CollectTask.step k.collect

end CollectorKind

structure Application (F : Type) {K : Type} (kind : K → CollectorKind) where
  server : Server F
  clock : Nat := 0
  /-- The collector of each call. -/
  given : List ((k : K) × (kind k).State) := []
  /-- The task of each loop. -/
  tasks : List ((k : K) × (kind k).Task) := []

inductive AppAction {K : Type} (kind : K → CollectorKind) where
  | begin (k : K) (state : (kind k).State) (collector : MetricsCollector) (interval : Nat)
  /-- Any other step of a call, of the state or of the runtime. -/
  | server (a : ServerAction)
  | wait (delay : Nat)
  | poll (loop : Nat) (k : K) (a : (kind k).Action)
  /-- An aborted task is dropped at its await. -/
  | cancel (loop : Nat) (k : K)

namespace Application

variable {F K : Type} {kind : K → CollectorKind}

/-- `tokio::spawn` starts the task of the new loop, and the runtime ends the loop
    of a task which has panicked. -/
def follow (app : Application F kind) (server : Server F) :
    ServerAction → Option (Application F kind)
  | .begin .. => none
  | .spawn i =>
      app.given[i]?.bind fun c => server.calls[i]?.map fun call =>
        { app with
          server
          tasks := app.tasks ++ [⟨c.1, CollectTask.spawn c.2 app.clock call.interval⟩] }
  | .terminate t =>
      if app.tasks[t]?.any fun task => task.2.phase.hasPanicked then some { app with server }
      else none
  | .register _ | .push _ | .count _ | .shutdown | .drop => some { app with server }

def passTime (app : Application F kind) (delay : Nat) : Application F kind :=
  { app with
    clock := app.clock + delay
    tasks := app.tasks.map fun task => ⟨task.1, { task.2 with now := task.2.now + delay }⟩ }

section
variable [DecidableEq K]

def moveTask (app : Application F kind) (t : Nat) (k : K) (a : (kind k).Action) :
    Option (Application F kind) :=
  app.tasks[t]?.bind fun task =>
    if same : task.1 = k then
      ((kind k).step (same ▸ task.2) a).map fun s => { app with tasks := app.tasks.set t ⟨k, s⟩ }
    else none

def step (app : Application F kind) : AppAction kind → Option (Application F kind)
  | .begin k state collector interval =>
      (app.server.step (.begin collector interval)).map fun server =>
        { app with server, given := app.given ++ [⟨k, state⟩] }
  | .server a => (app.server.step a).bind fun server => app.follow server a
  | .wait delay => some (app.passTime delay)
  | .poll t k a => if a.polls then app.moveTask t k a else none
  | .cancel t k =>
      if app.server.metrics.loops[t]?.any fun l => l.aborts != 0 then app.moveTask t k .abort
      else none

end

def start (registry : Prometheus.Registry) (http : HttpMetrics F) : Application F kind :=
  { server := Server.start registry http }

/-- The task of loop `t`. -/
def Runs (app : Application F kind) (t : Nat) (k : K) (s : (kind k).Task) : Prop :=
  app.tasks[t]? = some ⟨k, s⟩

/-! ## What a step can do -/

/-- Everything a step can do. -/
inductive AppEffect (app : Application F kind) (a : AppAction kind) (app' : Application F kind) :
    Prop where
  | began (k : K) (state : (kind k).State) (collector : MetricsCollector) (interval : Nat)
      (server : Server F) (action : a = .begin k state collector interval)
      (taken : app.server.step (.begin collector interval) = some server)
      (next : app' = { app with server, given := app.given ++ [⟨k, state⟩] })
  | spawned (i : Nat) (server : Server F) (k : K) (state : (kind k).State) (call : AddCall)
      (action : a = .server (.spawn i)) (taken : app.server.step (.spawn i) = some server)
      (handed : app.given[i]? = some ⟨k, state⟩) (found : server.calls[i]? = some call)
      (next : app' = { app with
        server, tasks := app.tasks ++ [⟨k, CollectTask.spawn state app.clock call.interval⟩] })
  | served (b : ServerAction) (server : Server F) (action : a = .server b)
      (taken : app.server.step b = some server) (calls : b.begins = false) (loops : b.spawns = false)
      (ended : ∀ t, b = .terminate t → ∃ k s, app.Runs t k s ∧ s.phase = .panicked)
      (next : app' = { app with server })
  | waited (delay : Nat) (action : a = .wait delay) (next : app' = app.passTime delay)
  | moved (t : Nat) (k : K) (b : (kind k).Action) (s s' : (kind k).Task)
      (action : a = .poll t k b ∧ b.polls = true ∨ a = .cancel t k ∧ b = .abort ∧
        ∃ l, app.server.metrics.loops[t]? = some l ∧ l.aborts ≠ 0)
      (found : app.Runs t k s)
      (taken : CollectTask.step (kind k).collect s b = some s')
      (next : app' = { app with tasks := app.tasks.set t ⟨k, s'⟩ })

variable [DecidableEq K] {app app' : Application F kind}

theorem moveTask_eq_some {t : Nat} {k : K} {a : (kind k).Action} :
    app.moveTask t k a = some app' ↔ ∃ s s', app.Runs t k s ∧
      CollectTask.step (kind k).collect s a = some s' ∧
        app' = { app with tasks := app.tasks.set t ⟨k, s'⟩ } := by
  simp only [moveTask, Option.bind_eq_some_iff]
  constructor
  · intro h
    obtain ⟨⟨k', s⟩, found, h⟩ := h
    split at h
    · next same =>
        obtain rfl : k' = k := same
        obtain ⟨s', taken, next⟩ := Option.map_eq_some_iff.mp h
        exact ⟨s, s', found, taken, next.symm⟩
    · cases h
  · intro h
    obtain ⟨s, s', found, taken, next⟩ := h
    refine ⟨⟨k, s⟩, found, ?_⟩
    rw [dif_pos rfl]
    exact Option.map_eq_some_iff.mpr ⟨s', taken, next.symm⟩

theorem step_effect {a : AppAction kind} (h : app.step a = some app') : AppEffect app a app' := by
  cases a with
  | begin k state collector interval =>
      obtain ⟨server, taken, next⟩ := Option.map_eq_some_iff.mp h
      exact .began k state collector interval server rfl taken next.symm
  | server b =>
      obtain ⟨server, taken, h⟩ := Option.bind_eq_some_iff.mp h
      cases b with
      | begin collector interval => cases h
      | spawn i =>
          obtain ⟨⟨k, state⟩, handed, h⟩ := Option.bind_eq_some_iff.mp h
          obtain ⟨call, found, next⟩ := Option.map_eq_some_iff.mp h
          exact .spawned i server k state call rfl taken handed found next.symm
      | terminate t =>
          simp only [follow, Option.ite_none_right_eq_some, Option.any_eq_true] at h
          obtain ⟨⟨⟨k, s⟩, found, panicked⟩, next⟩ := h
          refine .served (.terminate t) server rfl taken rfl rfl ?_ (Option.some.inj next).symm
          intro u same
          cases same
          refine ⟨k, s, found, ?_⟩
          cases phase : s.phase with
          | panicked => rfl
          | ticking | collecting | aborted => simp [TaskPhase.hasPanicked, phase] at panicked
      | register i | push i | count i | shutdown | drop =>
          exact .served _ server rfl taken rfl rfl (by simp) (Option.some.inj h).symm
  | wait delay => exact .waited delay rfl (Option.some.inj h).symm
  | poll t k b =>
      obtain ⟨polls, h⟩ := Option.ite_none_right_eq_some.mp h
      obtain ⟨s, s', found, taken, next⟩ := moveTask_eq_some.mp h
      exact .moved t k b s s' (.inl ⟨rfl, polls⟩) found taken next
  | cancel t k =>
      simp only [step, Option.ite_none_right_eq_some, Option.any_eq_true, bne_iff_ne] at h
      obtain ⟨asked, h⟩ := h
      obtain ⟨s, s', found, taken, next⟩ := moveTask_eq_some.mp h
      exact .moved t k .abort s s' (.inr ⟨rfl, rfl, asked⟩) found taken next

end Application

end Axum

end DrMetrix
