import DrMetrix.Axum.State
import DrMetrix.Mongo.Metrics
import DrMetrix.Postgres.Metrics
import DrMetrix.Redis.Metrics

/-! # What a failed `add_collector` leaves behind

Registration stops at the first metric which conflicts with the registry and
keeps the metrics before it. Nothing is spawned or counted then, but the next
attempt meets the metrics which the failed one left.
-/

namespace DrMetrix.Axum

open Prometheus Postgres Redis Mongo

variable {F : Type}

/-- A collector of the workspace. -/
inductive Backend (F : Type) where
  | postgres (m : PostgresMetrics F)
  | redis (m : RedisMetrics F)
  | mongo (m : MongoMetrics F)

namespace Backend

def collector : Backend F → MetricsCollector
  | .postgres m => m.collector
  | .redis m => m.collector
  | .mongo m => m.collector

/-- The descriptors in the order of `register`. -/
def descs : Backend F → List Desc
  | .postgres m => m.descs
  | .redis m => m.descs
  | .mongo m => m.descs

/-- The constructor returned this collector. -/
def Built [Binary64 F] (config : CollectorConfig) : Backend F → Prop
  | .postgres m => PostgresMetrics.new config = .ok m
  | .redis m => RedisMetrics.new config = .ok m
  | .mongo m => MongoMetrics.new config = .ok m

theorem register_descs (b : Backend F) : b.collector.register = registerAll b.descs := by
  cases b <;> rfl

theorem descs_split (b : Backend F) : ∃ first rest, b.descs = first :: rest := by
  cases b <;> exact ⟨_, _, rfl⟩

theorem Built.independent [Binary64 F] {config : CollectorConfig} {b : Backend F}
    (built : b.Built config) : ConflictFree.Independent Desc.Conflicts b.descs := by
  cases b with
  | postgres m => exact PostgresMetrics.new_independent built
  | redis m => exact RedisMetrics.new_independent built
  | mongo m => exact MongoMetrics.new_independent built

end Backend

namespace PrometheusMetrics

/-- `registry.unregister` for each of the given metrics. -/
def unregisterAll (p : PrometheusMetrics F) (ds : List Desc) : PrometheusMetrics F :=
  { p with registry := ds.foldl Registry.unregister p.registry }

/-- The call succeeds exactly if every metric fits. -/
theorem addCollector_ok_iff (p : PrometheusMetrics F) (c : MetricsCollector) (interval : Nat)
    {ds : List Desc} (registers : c.register = registerAll ds)
    (independent : ConflictFree.Independent Desc.Conflicts ds) :
    (p.addCollector c interval).1 = .ok () ↔ ∀ d ∈ ds, p.registry.Fits d := by
  rw [← ConflictFree.acceptAll_complete p.registry independent,
    ← (registerAll_acceptAll ds p.registry).2, addCollector, registers]
  split <;> simp [*]

/-- A failed call adds the metrics before the first conflict to the registry
    and changes nothing else. -/
theorem addCollector_error (p : PrometheusMetrics F) (c : MetricsCollector) (interval : Nat)
    {ds : List Desc} (registers : c.register = registerAll ds) {e : MetricsError}
    (failed : (p.addCollector c interval).1 = .error e) :
    (p.addCollector c interval).2 = { p with registry := (p.registry.acceptAll ds).1 } := by
  rw [← (registerAll_acceptAll ds p.registry).1]
  rw [addCollector, registers] at failed ⊢
  split at failed
  · next outcome => simp [outcome]
  · cases failed

/-- If the call fails, it has changed nothing, and it succeeds once the metrics
    which stood in its way are unregistered. -/
def AtomicOnFailure (p : PrometheusMetrics F) (b : Backend F) (interval : Nat) : Prop :=
  ∀ e, (p.addCollector b.collector interval).1 = .error e →
    let after := (p.addCollector b.collector interval).2
    let cleared := after.unregisterAll (p.registry.blockers b.descs)
    after = p ∧ (cleared.addCollector b.collector interval).1 = .ok ()

variable [Binary64 F]

/-- The call is atomic exactly if the registry conflicts with none of the
    collector's metrics, or with the very first one. -/
theorem addCollector_atomic_iff {config : CollectorConfig} {b : Backend F}
    (built : b.Built config) (p : PrometheusMetrics F) (interval : Nat) :
    p.AtomicOnFailure b interval ↔
      (∀ d ∈ b.descs, p.registry.Fits d) ∨ ∃ d ∈ b.descs.head?, ¬ p.registry.Fits d := by
  have succeeds := fun q : PrometheusMetrics F =>
    q.addCollector_ok_iff b.collector interval b.register_descs built.independent
  obtain ⟨first, rest, split⟩ := b.descs_split
  have untouched : (p.registry.acceptAll b.descs).1 = p.registry ↔ ¬ p.registry.Fits first := by
    rw [split]
    exact ConflictFree.acceptAll_unchanged p.registry (split ▸ built.independent)
  have head : (∃ d ∈ b.descs.head?, ¬ p.registry.Fits d) ↔ ¬ p.registry.Fits first := by
    simp [split]
  rw [head]
  constructor
  · intro atomic
    cases result : (p.addCollector b.collector interval).1 with
    | ok => exact .inl ((succeeds p).mp result)
    | error e =>
        have same := (atomic e result).1
        rw [addCollector_error p b.collector interval b.register_descs result] at same
        exact .inr (untouched.mp (congrArg registry same))
  · rintro (fit | unfit) e failed
    · rw [(succeeds p).mpr fit] at failed
      cases failed
    · have same : (p.addCollector b.collector interval).2 = p := by
        rw [addCollector_error p b.collector interval b.register_descs failed, untouched.mpr unfit]
      refine ⟨same, ?_⟩
      rw [same, succeeds]
      intro d member
      exact ConflictFree.fits_evictAll_blockers p.registry member

/-- A gauge which the application registers itself. -/
def applicationGauge (fqName help : String) : Desc where
  fqName := fqName
  help := help
  constLabels := []
  variableLabels := []

/-- The state after `build`, when the application has registered its gauge. -/
def besideGauge (http : HttpMetrics Exact) (fqName help : String) : PrometheusMetrics Exact where
  registry :=
    ((do http.register; register (applicationGauge fqName help) : RegisterM Unit) ∅).2
  httpMetrics := http

/-- The application's gauge is described as the first metric of the collector is. -/
theorem addCollector_atomic_first :
    ∃ (http : HttpMetrics Exact) (m : RedisMetrics Exact), HttpMetrics.new "app" = .ok http ∧
      RedisMetrics.new {} = .ok m ∧
      let help := "Number of connected pool clients"
      m.poolConnections.desc = applicationGauge "redis_pool_connections" help ∧
        (besideGauge http "redis_pool_connections" help).AtomicOnFailure (.redis m) 15 := by
  obtain ⟨http, m, httpBuilt, built, first, same⟩ :
      ∃ (http : HttpMetrics Exact) (m : RedisMetrics Exact),
      HttpMetrics.new "app" = .ok http ∧ RedisMetrics.new {} = .ok m ∧
      let help := "Number of connected pool clients"
      ¬ (besideGauge http "redis_pool_connections" help).registry.Fits m.poolConnections.desc ∧
        m.poolConnections.desc = applicationGauge "redis_pool_connections" help := by
    refine ⟨_, _, rfl, rfl, ?_⟩
    decide +kernel
  have constructed : (Backend.redis m).Built {} := built
  refine ⟨http, m, httpBuilt, built, same, ?_⟩
  exact (addCollector_atomic_iff constructed _ 15).mpr (.inr ⟨_, rfl, first⟩)

/-- The second metric conflicts, and the first one stays registered. -/
theorem addCollector_atomic_fails :
    ∃ (http : HttpMetrics Exact) (m : RedisMetrics Exact), HttpMetrics.new "app" = .ok http ∧
      RedisMetrics.new {} = .ok m ∧
      let p := besideGauge http "redis_connected_clients" "Number of connected Redis clients"
      let failed := p.addCollector m.collector 15
      failed.1 = .error (.prometheus .alreadyReg) ∧
        failed.2.registry.members = p.registry.members ++ [m.poolConnections.desc] ∧
        ¬ p.AtomicOnFailure (.redis m) 15 := by
  obtain ⟨http, m, httpBuilt, built, refused, kept⟩ :
      ∃ (http : HttpMetrics Exact) (m : RedisMetrics Exact),
      HttpMetrics.new "app" = .ok http ∧ RedisMetrics.new {} = .ok m ∧
      let p := besideGauge http "redis_connected_clients" "Number of connected Redis clients"
      let failed := p.addCollector m.collector 15
      failed.1 = .error (.prometheus .alreadyReg) ∧
        failed.2.registry.members = p.registry.members ++ [m.poolConnections.desc] := by
    refine ⟨_, _, rfl, rfl, ?_⟩
    decide +kernel
  refine ⟨http, m, httpBuilt, built, refused, kept, ?_⟩
  intro atomic
  have same := (atomic _ refused).1
  rw [show (Backend.redis m).collector = m.collector from rfl] at same
  rw [same] at kept
  simp at kept

/-- After a failure which was not at the first metric, no attempt succeeds until
    the application also unregisters what the failed call registered. -/
theorem addCollector_retry_fails {config : CollectorConfig} {b : Backend F}
    (built : b.Built config) (p : PrometheusMetrics F) (interval : Nat) {e : MetricsError}
    (failed : (p.addCollector b.collector interval).1 = .error e)
    {first : Desc} (head : first ∈ b.descs.head?) (fits : p.registry.Fits first)
    (removed : List Desc) (others : first ∉ removed) :
    (((p.addCollector b.collector interval).2.unregisterAll removed).addCollector b.collector
      interval).1 ≠ .ok () := by
  intro succeeded
  have fit := (addCollector_ok_iff _ b.collector interval b.register_descs built.independent).mp
    succeeded first (List.mem_of_mem_head? head)
  have left : first ∈ (p.registry.acceptAll b.descs).1.members := by
    obtain ⟨first', rest, split⟩ := b.descs_split
    obtain rfl : first' = first := by simpa [split] using head
    rw [ConflictFree.acceptAll_members p.registry built.independent, split]
    simp [fits]
  rw [addCollector_error p b.collector interval b.register_descs failed] at fit
  refine fit first ?_ (Desc.Conflicts.refl first)
  exact (ConflictFree.mem_evictAll _ removed first).mpr ⟨left, others⟩

end PrometheusMetrics

end DrMetrix.Axum
