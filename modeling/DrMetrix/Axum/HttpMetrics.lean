import DrMetrix.Core.Subsystem

/-! # HTTP metrics

The four metric families which the middleware layer records.
-/

namespace DrMetrix.Axum

open Prometheus

structure HttpMetrics (F : Type) where
  requestsTotal : IntCounterVec
  requestDurationSeconds : HistogramVec F
  requestsInFlight : IntGauge
  responseSizeBytes : HistogramVec F

namespace HttpMetrics

variable {F : Type}

def new (ns : String) : Except MetricsError (HttpMetrics F) := do
  let requestsTotal ← metricVec "http" ns "requests_total" "Total HTTP requests"
    ["method", "path", "status"]
  let requestDurationSeconds ← metricVec "http" ns "request_duration_seconds"
    "HTTP request latency in seconds" ["method", "path", "status"]
  let requestsInFlight ← gauge "http" ns "requests_in_flight" "Currently in-flight HTTP requests"
  let responseSizeBytes ← metricVec "http" ns "response_size_bytes"
    "HTTP response body size in bytes" ["method", "path"]
  return { requestsTotal, requestDurationSeconds, requestsInFlight, responseSizeBytes }

def register (m : HttpMetrics F) : RegisterM Unit :=
  registerAll
    [m.requestsTotal.desc, m.requestDurationSeconds.desc, m.requestsInFlight.desc,
      m.responseSizeBytes.desc]

/-- The descriptors in the order of `register`. -/
def descs (m : HttpMetrics F) : List Desc :=
  [m.requestsTotal.desc, m.requestDurationSeconds.desc, m.requestsInFlight.desc,
    m.responseSizeBytes.desc]

theorem register_descs (m : HttpMetrics F) : m.register = registerAll m.descs := rfl

/-- The metric names in the order of `register`. -/
def names : List String :=
  ["requests_total", "request_duration_seconds", "requests_in_flight", "response_size_bytes"]

theorem new_identities {ns : String} {m : HttpMetrics F} (h : new ns = .ok m) :
    m.descs.map Desc.identity = names.map fun name => (qualifier "http" ns ++ name, []) := by
  simp only [new, bind_eq_ok, pure_eq_ok] at h
  obtain ⟨m1, h1, m2, h2, m3, h3, m4, h4, rfl⟩ := h
  have inSub : "http" ≠ "" := by decide
  simp only [descs, names, List.map_cons, List.map_nil, List.cons.injEq, and_true]
  exact ⟨(metricVec_ok inSub (by decide) h1).1, (metricVec_ok inSub (by decide) h2).1,
    (gauge_ok inSub (by decide) h3).1, (metricVec_ok inSub (by decide) h4).1⟩

end HttpMetrics

end DrMetrix.Axum
