import DrMetrix.Axum.State

/-! # Building the state

`build` registers the process collector, if it was asked for, and then the HTTP
metrics. The descriptors of `ProcessCollector::for_self` are a parameter.
-/

namespace DrMetrix.Axum

open Prometheus

structure PrometheusMetricsBuilder where
  ns : String
  processCollector : Bool := false

namespace PrometheusMetricsBuilder

variable {F : Type}

/-- A new registry with the process collector, if it is wanted. -/
def newRegistry (b : PrometheusMetricsBuilder) (forSelf : List Desc) :
    Except MetricsError Registry :=
  if b.processCollector then orPrometheus (Registry.registerCollector ∅ forSelf) else pure ∅

def build (b : PrometheusMetricsBuilder) (forSelf : List Desc) :
    Except MetricsError (PrometheusMetrics F) := do
  let registry ← b.newRegistry forSelf
  let httpMetrics ← HttpMetrics.new b.ns
  match httpMetrics.register registry with
  | (.ok (), registry) => return { registry, httpMetrics }
  | (.error e, _) => throw e

/-- The names which the documentation of `with_process_collector` lists. -/
def processNames : List String :=
  ["process_cpu_seconds_total", "process_open_fds", "process_max_fds",
    "process_virtual_memory_bytes", "process_virtual_memory_max_bytes",
    "process_resident_memory_bytes", "process_start_time_seconds", "process_threads"]

/-- What `build` leaves in the registry. -/
def registered (b : PrometheusMetricsBuilder) (forSelf : List Desc) (http : HttpMetrics F) :
    List Desc :=
  (if b.processCollector then forSelf else []) ++ http.descs

theorem newRegistry_members {b : PrometheusMetricsBuilder} {forSelf : List Desc} {r : Registry}
    (h : b.newRegistry forSelf = .ok r) :
    r.members = if b.processCollector then forSelf else [] := by
  unfold newRegistry at h
  by_cases wanted : b.processCollector = true
  · rw [if_pos wanted] at h ⊢
    have accepted := orPrometheus_ok.mp h
    unfold Registry.registerCollector at accepted
    split at accepted
    · next r' outcome =>
        obtain rfl := Except.ok.inj accepted
        have all := ConflictFree.acceptAll_all (congrArg Prod.snd outcome)
        rw [outcome] at all
        exact all
    · cases accepted
  · rw [if_neg wanted] at h ⊢
    obtain rfl := pure_eq_ok.mp h
    rfl

theorem build_ok {b : PrometheusMetricsBuilder} {forSelf : List Desc} {p : PrometheusMetrics F}
    (h : b.build forSelf = .ok p) :
    HttpMetrics.new b.ns = .ok p.httpMetrics ∧
      p.registry.members = b.registered forSelf p.httpMetrics := by
  unfold build at h
  obtain ⟨registry, started, h⟩ := bind_eq_ok.mp h
  obtain ⟨http, new, h⟩ := bind_eq_ok.mp h
  have before := newRegistry_members started
  have bulk := registerAll_acceptAll http.descs registry
  rw [← http.register_descs] at bulk
  split at h
  · next r' outcome =>
      obtain rfl := pure_eq_ok.mp h
      rw [outcome] at bulk
      refine ⟨new, ?_⟩
      have all := ConflictFree.acceptAll_all (bulk.2.mp rfl)
      rw [← bulk.1, before] at all
      exact all
  · cases h

end PrometheusMetricsBuilder

end DrMetrix.Axum
