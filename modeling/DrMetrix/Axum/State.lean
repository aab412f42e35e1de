import DrMetrix.Lib.Transition
import DrMetrix.Lib.Population
import DrMetrix.Axum.HttpMetrics

/-! # Shared application state

`PrometheusMetrics` with the loops its collectors run in, first as sequential
operations, then as a system in which any number of `add_collector` and
`shutdown` calls interleave. A handle is the position of its loop.
-/

namespace DrMetrix.Axum

open Prometheus

/-- A background task of `spawn_collect_loop`. It runs until it is aborted, or
    until a panic ends it: a zero interval, or a panicking `collect`. -/
structure CollectLoop where
  collector : String
  interval : Nat
  aborts : Nat := 0
  ended : Bool := false

def CollectLoop.running (l : CollectLoop) : Bool := l.aborts == 0 && !l.ended

def CollectLoop.abort (l : CollectLoop) : CollectLoop := { l with aborts := l.aborts + 1 }

structure PrometheusMetrics (F : Type) where
  registry : Registry
  httpMetrics : HttpMetrics F
  handles : List (String × Nat) := []
  collectorCount : Nat := 0
  loops : List CollectLoop := []

namespace PrometheusMetrics

variable {F : Type}

/-- Start a loop; its handle is the number of loops before. -/
def spawnCollectLoop (p : PrometheusMetrics F) (collector : String) (interval : Nat) :
    PrometheusMetrics F :=
  { p with loops := p.loops ++ [{ collector, interval }] }

def pushHandle (p : PrometheusMetrics F) (name : String) (handle : Nat) : PrometheusMetrics F :=
  { p with handles := p.handles ++ [(name, handle)] }

def countCollector (p : PrometheusMetrics F) : PrometheusMetrics F :=
  { p with collectorCount := p.collectorCount + 1 }

def addCollector (p : PrometheusMetrics F) (c : MetricsCollector) (interval : Nat) :
    Except MetricsError Unit × PrometheusMetrics F :=
  match c.register p.registry with
  | (.error e, registry) => (.error e, { p with registry })
  | (.ok (), registry) =>
      let spawned := { p with registry }.spawnCollectLoop c.name interval
      (.ok (), (spawned.pushHandle c.name p.loops.length).countCollector)

def abortAll (handles : List (String × Nat)) (loops : List CollectLoop) : List CollectLoop :=
  handles.foldl (fun loops h => loops.modify h.2 CollectLoop.abort) loops

/-- Drain the handle list and abort each of its loops. -/
def shutdown (p : PrometheusMetrics F) : PrometheusMetrics F :=
  { p with handles := [], loops := abortAll p.handles p.loops }

end PrometheusMetrics

/-! ## Concurrent calls -/

/-- Where a call of `add_collector` stands. -/
inductive AddPhase where
  | registering
  | spawning
  | pushing (handle : Nat)
  | counting (handle : Nat)
  | added (handle : Nat)
  | failed (error : MetricsError)

structure AddCall where
  collector : MetricsCollector
  interval : Nat
  phase : AddPhase

structure Server (F : Type) where
  metrics : PrometheusMetrics F
  calls : List AddCall := []
  dropped : Bool := false

/-- One step of a call, of a shutdown under the lock, or of the runtime. -/
inductive ServerAction where
  | begin (collector : MetricsCollector) (interval : Nat)
  | register (call : Nat)
  | spawn (call : Nat)
  | push (call : Nat)
  | count (call : Nat)
  | shutdown
  /-- A running loop panics. -/
  | terminate (loop : Nat)
  /-- The owner drops the state; no borrow of it is left then. -/
  | drop

def AddPhase.returned : AddPhase → Bool
  | .added _ | .failed _ => true
  | _ => false

namespace Server

variable {F : Type}

/-- No call is in progress. -/
def Quiet (s : Server F) : Prop := ∀ call ∈ s.calls, call.phase.returned = true

instance (s : Server F) : Decidable s.Quiet :=
  inferInstanceAs (Decidable (∀ call ∈ s.calls, call.phase.returned = true))

def begin (s : Server F) (collector : MetricsCollector) (interval : Nat) : Server F :=
  { s with calls := s.calls ++ [{ collector, interval, phase := .registering }] }

def advance (s : Server F) (i : Nat) (call : AddCall) (phase : AddPhase)
    (metrics : PrometheusMetrics F) : Server F :=
  { s with metrics, calls := s.calls.set i { call with phase } }

def register (s : Server F) (i : Nat) (call : AddCall) : Option (Server F) :=
  match call.phase with
  | .registering =>
      match call.collector.register s.metrics.registry with
      | (.error e, registry) => some (s.advance i call (.failed e) { s.metrics with registry })
      | (.ok (), registry) => some (s.advance i call .spawning { s.metrics with registry })
  | _ => none

def spawn (s : Server F) (i : Nat) (call : AddCall) : Option (Server F) :=
  match call.phase with
  | .spawning =>
      some <| s.advance i call (.pushing s.metrics.loops.length)
        (s.metrics.spawnCollectLoop call.collector.name call.interval)
  | _ => none

def push (s : Server F) (i : Nat) (call : AddCall) : Option (Server F) :=
  match call.phase with
  | .pushing handle =>
      some <| s.advance i call (.counting handle) (s.metrics.pushHandle call.collector.name handle)
  | _ => none

def count (s : Server F) (i : Nat) (call : AddCall) : Option (Server F) :=
  match call.phase with
  | .counting handle => some (s.advance i call (.added handle) s.metrics.countCollector)
  | _ => none

def terminate (s : Server F) (t : Nat) (l : CollectLoop) : Option (Server F) :=
  if l.running then
    some { s with metrics.loops := s.metrics.loops.set t { l with ended := true } }
  else none

def step (s : Server F) : ServerAction → Option (Server F)
  | .begin collector interval => if s.dropped then none else some (s.begin collector interval)
  | .register i => s.calls[i]?.bind fun call => s.register i call
  | .spawn i => s.calls[i]?.bind fun call => s.spawn i call
  | .push i => s.calls[i]?.bind fun call => s.push i call
  | .count i => s.calls[i]?.bind fun call => s.count i call
  | .shutdown => if s.dropped then none else some { s with metrics := s.metrics.shutdown }
  | .terminate t => s.metrics.loops[t]?.bind fun l => s.terminate t l
  | .drop =>
      if s.dropped = false ∧ s.Quiet then
        some { s with metrics := s.metrics.shutdown, dropped := true }
      else none

/-- The state as `build` leaves it, and no call. -/
def start (registry : Registry) (httpMetrics : HttpMetrics F) : Server F :=
  { metrics := { registry, httpMetrics } }

/-- The steps of one call, uninterrupted, do what `add_collector` does. -/
theorem addCollector_steps (s : Server F) (c : MetricsCollector) (interval : Nat)
    (alive : s.dropped = false) :
    ∃ as phase, Transition.run step s (.begin c interval :: as) =
        some
          { s with
            metrics := (s.metrics.addCollector c interval).2
            calls := s.calls ++ [{ collector := c, interval, phase }] } ∧
      (phase = .added s.metrics.loops.length ↔
        (s.metrics.addCollector c interval).1 = .ok ()) := by
  have move : ∀ call other : AddCall,
      (s.calls ++ [call]).set s.calls.length other = s.calls ++ [other] := by
    intro call other
    rw [List.set_append_right _ _ (Nat.le_refl _), Nat.sub_self]
    rfl
  cases outcome : c.register s.metrics.registry with
  | mk result registry =>
      cases result with
      | error e =>
          refine ⟨[.register s.calls.length], .failed e, ?_, ?_⟩
          · simp [Transition.run, alive, step, begin, move, register, outcome, advance,
              PrometheusMetrics.addCollector]
          · simp [PrometheusMetrics.addCollector, outcome]
      | ok =>
          refine ⟨[.register s.calls.length, .spawn s.calls.length, .push s.calls.length,
            .count s.calls.length], .added s.metrics.loops.length, ?_, ?_⟩
          · simp [Transition.run, alive, step, begin, move, register, outcome, advance, spawn,
              push, count, PrometheusMetrics.addCollector, PrometheusMetrics.spawnCollectLoop,
              PrometheusMetrics.pushHandle, PrometheusMetrics.countCollector]
          · simp [PrometheusMetrics.addCollector, outcome]

end Server

end DrMetrix.Axum
