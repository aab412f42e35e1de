import DrMetrix.Lib.Transition
import DrMetrix.Lib.Population
import DrMetrix.Axum.HttpMetrics

/-! # The Tower layer

`HttpMetricsService` around inner services, as a step function over any number
of service instances and of boxed futures. A poll in which the inner future is
ready does not finish in one step: every metric update of the recording sequence
is a step of its own, so the updates of concurrent requests interleave freely.

The readiness flags are bookkeeping of Tower's contract. An instance is ready
from a `poll_ready` which answered `Ready(Ok)` until its next `call`, and a
clone starts not ready.
-/

namespace DrMetrix.Axum

open Prometheus

/-- What `call` reads of a request. -/
structure Request where
  method : String
  matchedPath : Option String
  uriPath : String
  deriving DecidableEq

structure StatusCode where
  code : Nat
  lower : 100 ≤ code
  upper : code < 1000
  deriving DecidableEq

/-- What the recording reads of a response: the status and the bytes of the
    first `Content-Length` value. -/
structure Response where
  status : StatusCode
  contentLength : Option (List UInt8)
  deriving DecidableEq

/-- The inner service's answer; an error is known by its display text. -/
abbrev CallResult := Except String Response

/-- The matched-path template if there is one, else the raw URI path. -/
def Request.pathLabel (req : Request) : String := req.matchedPath.getD req.uriPath

/-- `HeaderValue::to_str`: visible ASCII and tabs only. -/
def headerText (bytes : List UInt8) : Option Text :=
  if bytes.all fun b => 32 ≤ b && b < 127 || b == 9 then
    some (bytes.map fun b => Char.ofNat b.toNat)
  else none

/-- The `status` label: the response's code, or `500` for an inner error. -/
def statusLabel : CallResult → String
  | .ok response => toString response.status.code
  | .error _ => "500"

section
variable {F : Type} [Binary64 F]

/-- The size to observe, if the response announces one. -/
def contentSize : CallResult → Option F
  | .ok response => response.contentLength.bind fun bytes => (headerText bytes).bind Binary64.parse
  | .error _ => none

end

/-- The metric updates after the inner future is ready, in program order. -/
inductive Update where
  | inFlight
  | total
  | duration
  | size
  deriving DecidableEq

/-- Where the boxed future of a `call` stands. -/
inductive FutureState (F : Type) where
  /-- Returned by `call`, not polled yet: the inner service has not been called. -/
  | created
  /-- Suspended at the await of the inner future. -/
  | awaiting
  /-- A poll is executing and this update comes next. -/
  | recording (next : Update) (result : CallResult) (elapsed : F)
  | completed (result : CallResult)
  | panicked
  | dropped

/-- What the async block captured, and its state. -/
structure CallFuture (F : Type) where
  request : Request
  method : String
  path : String
  /-- `Instant::now()` at the call, in nanoseconds. -/
  start : Nat
  /-- The clone of the inner service. -/
  svc : Nat
  state : FutureState F

/-- An `HttpMetricsService`: its inner instance, and whether its caller holds a
    `Ready(Ok)` of it. -/
structure ServiceInstance where
  inner : Nat
  ready : Bool

/-- A call made on an inner instance, and whether that instance was ready. -/
structure InnerCall where
  svc : Nat
  ready : Bool

structure System (F : Type) where
  metrics : HttpMetrics F
  /-- The readiness of every inner instance. -/
  inner : List Bool := []
  services : List ServiceInstance := []
  futures : List (CallFuture F) := []
  innerCalls : List InnerCall := []

/-- The answer of an inner `poll_ready`. -/
inductive ReadyPoll where
  | pending
  | readyOk
  | readyErr
  deriving DecidableEq

/-- The answer of the inner future, or of calling the inner service. -/
inductive InnerPoll where
  | pending
  | ready (result : CallResult)
  | panic

inductive Action where
  /-- `HttpMetricsLayer::layer` around a new inner service. -/
  | layer
  /-- The derived `Clone` of a service instance. -/
  | clone (service : Nat)
  | pollReady (service : Nat) (answer : ReadyPoll)
  | call (service : Nat) (request : Request) (now : Nat)
  /-- The owner polls a live future. -/
  | poll (future : Nat) (now : Nat) (answer : InnerPoll)
  /-- The executing poll of a future makes its next metric update. -/
  | update (future : Nat)
  /-- The owner drops a live future. -/
  | drop (future : Nat)
  | scrape

namespace CallFuture

variable {F : Type}

def labels (f : CallFuture F) (result : CallResult) : LabelValues :=
  [f.method, f.path, statusLabel result]

def sizeLabels (f : CallFuture F) : LabelValues := [f.method, f.path]

end CallFuture

namespace HttpMetrics

variable {F : Type} [Binary64 F] [LabelKey]

/-- Execute one update of the recording sequence. -/
def record (m : HttpMetrics F) (f : CallFuture F) (result : CallResult) (elapsed : F) :
    Update → HttpMetrics F
  | .inFlight => { m with requestsInFlight := m.requestsInFlight.dec }
  | .total => { m with requestsTotal := m.requestsTotal.inc (f.labels result) }
  | .duration =>
      { m with
        requestDurationSeconds := m.requestDurationSeconds.observe (f.labels result) elapsed }
  | .size =>
      match contentSize result with
      | some len => { m with responseSizeBytes := m.responseSizeBytes.observe f.sizeLabels len }
      | none => m

end HttpMetrics

section
variable {F : Type} [Binary64 F] [LabelKey]

/-- The state after an update: the next one, or completion. -/
def FutureState.after (result : CallResult) (elapsed : F) : Update → FutureState F
  | .inFlight => .recording .total result elapsed
  | .total => .recording .duration result elapsed
  | .duration =>
      match (contentSize result : Option F) with
      | some _ => .recording .size result elapsed
      | none => .completed result
  | .size => .completed result

/-- What an answer of the inner future makes of a polled future. -/
def FutureState.resumed (start now : Nat) : InnerPoll → FutureState F
  | .pending => .awaiting
  | .ready result => .recording .inFlight result (Binary64.ofNanos (now - start))
  | .panic => .panicked

namespace System

def addService (s : System F) : System F :=
  { s with
    inner := s.inner ++ [false]
    services := s.services ++ [{ inner := s.inner.length, ready := false }] }

def pollReady (s : System F) (m : Nat) (svc : ServiceInstance) : ReadyPoll → System F
  | .readyOk =>
      { s with
        inner := s.inner.set svc.inner true
        services := s.services.set m { svc with ready := true } }
  | .pending | .readyErr => s

/-- `HttpMetricsService::call`: increment the gauge now, and move a clone of the
    inner service into the returned future. -/
def call (s : System F) (m : Nat) (svc : ServiceInstance) (req : Request) (now : Nat) : System F :=
  let future : CallFuture F :=
    { request := req
      method := req.method
      path := req.pathLabel
      start := now
      svc := s.inner.length
      state := .created }
  { s with
    metrics := { s.metrics with requestsInFlight := s.metrics.requestsInFlight.inc }
    inner := s.inner ++ [false]
    services := s.services.set m { svc with ready := false }
    futures := s.futures ++ [future] }

def setState (s : System F) (i : Nat) (f : CallFuture F) (state : FutureState F) : System F :=
  { s with futures := s.futures.set i { f with state } }

/-- `svc.call(req)`, the first thing the async block does. -/
def callInner (s : System F) (svc : Nat) : System F :=
  { s with
    innerCalls := s.innerCalls ++ [{ svc, ready := s.inner.getD svc false }]
    inner := s.inner.set svc false }

def poll (s : System F) (i : Nat) (f : CallFuture F) (now : Nat) (answer : InnerPoll) :
    Option (System F) :=
  match f.state with
  | .created => some ((s.callInner f.svc).setState i f (.resumed f.start now answer))
  | .awaiting => some (s.setState i f (.resumed f.start now answer))
  | _ => none

def update (s : System F) (i : Nat) (f : CallFuture F) : Option (System F) :=
  match f.state with
  | .recording next result elapsed =>
      some { s.setState i f (.after result elapsed next) with
        metrics := s.metrics.record f result elapsed next }
  | _ => none

def drop (s : System F) (i : Nat) (f : CallFuture F) : Option (System F) :=
  match f.state with
  | .created | .awaiting => some (s.setState i f .dropped)
  | _ => none

def step (s : System F) : Action → Option (System F)
  | .layer => some s.addService
  | .clone m => s.services[m]?.map fun _ => s.addService
  | .pollReady m answer => s.services[m]?.map fun svc => s.pollReady m svc answer
  | .call m req now => s.services[m]?.map fun svc => s.call m svc req now
  | .poll i now answer => s.futures[i]?.bind fun f => s.poll i f now answer
  | .update i => s.futures[i]?.bind fun f => s.update i f
  | .drop i => s.futures[i]?.bind fun f => s.drop i f
  | .scrape => some s

/-- Nothing wrapped, nothing called. -/
def start (metrics : HttpMetrics F) : System F := { metrics }

end System

end

end DrMetrix.Axum
