import DrMetrix.Axum.Builder
import DrMetrix.Collectors.Exporter
import DrMetrix.Lib.Qualified

/-! # Full names never collide

A namespace may end in anything, also in the name of a subsystem. It is told
from the rest of a full name because no metric has the name of a subsystem
inside. The process metrics count as a subsystem without a namespace. Names are
compared byte by byte.
-/

namespace DrMetrix

open Prometheus Axum Postgres Redis Mongo

variable {F : Type}

/-! ## Bytes -/

def bytes (s : String) : List UInt8 := s.toByteArray.data.toList

/-- The underscore. -/
def separator : UInt8 := 95

theorem bytes_append (s t : String) : bytes (s ++ t) = bytes s ++ bytes t := by
  simp [bytes]

theorem bytes_injective : bytes.Injective := by
  intro s t same
  exact String.toByteArray_inj.mp (ByteArray.ext (Array.toList_inj.mp same))

theorem bytes_eq_nil {s : String} : bytes s = [] ↔ s = "" :=
  bytes_injective.eq_iff' rfl

/-! ## All metrics -/

/-- The process metrics without their common beginning. -/
def processFields : List String :=
  ["cpu_seconds_total", "open_fds", "max_fds", "virtual_memory_bytes", "virtual_memory_max_bytes",
    "resident_memory_bytes", "start_time_seconds", "threads"]

theorem processNames_qualified :
    PrometheusMetricsBuilder.processNames = processFields.map (qualifier "process" "" ++ ·) := by
  decide

/-- The subsystems of the exporters with their metrics. -/
def kinds : List (String × List String) :=
  [("http", HttpMetrics.names), ("postgres", PostgresMetrics.names), ("redis", RedisMetrics.names),
    ("mongo", MongoMetrics.names)]

/-- Every metric with its subsystem. -/
def table : List (String × String) :=
  (("process", processFields) :: kinds).flatMap fun kind => kind.2.map (kind.1, ·)

def subsystems : List String := ["process", "http", "postgres", "redis", "mongo"]

def marker (subsystem : String) : List UInt8 := bytes (subsystem ++ "_")

theorem markers_prefixFree : Qualified.PrefixFree (subsystems.map marker) := by
  unfold Qualified.PrefixFree
  decide +kernel

/-- No metric has the name of a subsystem inside. -/
theorem table_clean : ∀ m ∈ table, m.1 ∈ subsystems ∧ ∀ inner ∈ subsystems.map marker,
    ¬ separator :: inner <:+: marker m.1 ++ bytes m.2 := by
  decide +kernel

theorem table_marked {m : String × String} (known : m ∈ table) :
    Qualified.Marked separator (subsystems.map marker) (marker m.1) (bytes m.2) where
  known := List.mem_map_of_mem (table_clean m known).1
  clean := (table_clean m known).2

theorem marker_injective : marker.Injective := by
  intro s t same
  exact (String.append_left_inj _).mp (bytes_injective same)

theorem bytes_fullName (sub ns name : String) :
    bytes (qualifier sub ns ++ name) =
      Qualified.join separator (bytes ns) (marker sub ++ bytes name) := by
  have underscore : bytes "_" = [separator] := rfl
  unfold qualifier Qualified.join marker
  by_cases empty : ns = ""
  · simp only [empty, bytes_eq_nil, if_true, bytes_append]
  · simp only [empty, bytes_eq_nil, if_false, bytes_append, underscore, List.append_assoc,
      List.cons_append, List.nil_append]

/-- A full name determines its namespace, its subsystem and its metric. -/
theorem fullName_inj {ns ns' : String} {m m' : String × String} (known : m ∈ table)
    (known' : m' ∈ table) (same : qualifier m.1 ns ++ m.2 = qualifier m'.1 ns' ++ m'.2) :
    ns = ns' ∧ m = m' := by
  have joined := congrArg bytes same
  rw [bytes_fullName, bytes_fullName] at joined
  obtain ⟨namespaces, subsystems, names⟩ :=
    (table_marked known).join_inj markers_prefixFree (table_marked known') joined
  exact ⟨bytes_injective namespaces,
    Prod.ext (marker_injective subsystems) (bytes_injective names)⟩

namespace Exporter

/-- Each kind of exporter has its own subsystem and distinct metric names. -/
theorem kind_mem (e : Exporter F) : (e.subsystem, e.names) ∈ kinds := by
  cases e with
  | http m => simp [kinds, subsystem, names]
  | collector b => cases b <;> simp [kinds, subsystem, names, Backend.subsystem, Backend.names]

theorem mem_table (e : Exporter F) {name : String} (member : name ∈ e.names) :
    (e.subsystem, name) ∈ table :=
  List.mem_flatMap.mpr ⟨_, List.mem_cons_of_mem _ e.kind_mem, List.mem_map_of_mem member⟩

theorem names_nodup (e : Exporter F) : e.names.Nodup := by
  have each : ∀ kind ∈ kinds, kind.2.Nodup := by decide
  exact each _ e.kind_mem

theorem subsystem_ne_process (e : Exporter F) : e.subsystem ≠ "process" := by
  have each : ∀ kind ∈ kinds, kind.1 ≠ "process" := by decide
  exact each _ e.kind_mem

theorem names_of_subsystem {e e' : Exporter F} (same : e.subsystem = e'.subsystem) :
    e.names = e'.names := by
  have distinct : (kinds.map Prod.fst).Nodup := by decide
  exact congrArg Prod.snd (List.inj_on_of_nodup_map distinct e.kind_mem e'.kind_mem same)

variable [Binary64 F]

theorem BuiltIn.mem_descs {ns : String} {e : Exporter F} (built : e.BuiltIn ns) {i : Nat} {d : Desc}
    (here : e.descs[i]? = some d) :
    ∃ name, e.names[i]? = some name ∧ d.fqName = qualifier e.subsystem ns ++ name := by
  have known : (e.descs.map Desc.fqName)[i]? = some d.fqName := by simp [here]
  rw [built.names_eq, List.getElem?_map] at known
  obtain ⟨name, found, same⟩ := Option.map_eq_some_iff.mp known
  exact ⟨name, found, same.symm⟩

/-- The full name of an exported metric determines the namespace, the subsystem
    and the field. -/
theorem BuiltIn.field_unique {ns ns' : String} {e e' : Exporter F} (built : e.BuiltIn ns)
    (built' : e'.BuiltIn ns') {i j : Nat} {d d' : Desc} (here : e.descs[i]? = some d)
    (there : e'.descs[j]? = some d') (same : d.fqName = d'.fqName) :
    ns = ns' ∧ e.subsystem = e'.subsystem ∧ i = j := by
  obtain ⟨name, at_i, full⟩ := built.mem_descs here
  obtain ⟨name', at_j, full'⟩ := built'.mem_descs there
  have known := e.mem_table (List.mem_of_getElem? at_i)
  have known' := e'.mem_table (List.mem_of_getElem? at_j)
  rw [full, full'] at same
  obtain ⟨namespaces, metrics⟩ := fullName_inj known known' same
  obtain ⟨subsystems, rfl⟩ := Prod.mk.inj metrics
  rw [← names_of_subsystem subsystems] at at_j
  obtain ⟨inside, -⟩ := List.getElem?_eq_some_iff.mp at_i
  exact ⟨namespaces, subsystems,
    (List.getElem?_inj inside e.names_nodup).mp (at_i.trans at_j.symm)⟩

theorem BuiltIn.ne_process {ns : String} {e : Exporter F} (built : e.BuiltIn ns) {d : Desc}
    (member : d ∈ e.descs) : d.fqName ∉ PrometheusMetricsBuilder.processNames := by
  intro process
  obtain ⟨i, here⟩ := List.getElem?_of_mem member
  obtain ⟨name, at_i, full⟩ := built.mem_descs here
  have known := e.mem_table (List.mem_of_getElem? at_i)
  rw [processNames_qualified, full] at process
  obtain ⟨field, listed, same⟩ := List.mem_map.mp process
  have processField : ("process", field) ∈ table :=
    List.mem_flatMap.mpr ⟨_, List.mem_cons_self, List.mem_map_of_mem listed⟩
  have metrics := (fullName_inj processField known same).2
  exact e.subsystem_ne_process (congrArg Prod.fst metrics).symm

/-- Exporters with different subsystems or namespaces have different names. -/
theorem names_nodup_of_distinct {es : List (String × Exporter F)}
    (built : ∀ e ∈ es, e.2.BuiltIn e.1)
    (distinct : (es.map fun e => (e.2.subsystem, e.1)).Nodup) :
    ((es.flatMap fun e => e.2.descs).map Desc.fqName).Nodup := by
  induction es with
  | nil => exact List.nodup_nil
  | cons e es ih =>
      obtain ⟨first, others⟩ := List.forall_mem_cons.mp built
      rw [List.map_cons, List.nodup_cons] at distinct
      obtain ⟨new, distinct⟩ := distinct
      rw [List.flatMap_cons, List.map_append, List.nodup_append]
      refine ⟨?_, ih others distinct, ?_⟩
      · rw [first.names_eq]
        exact qualified_nodup _ _ e.2.names_nodup
      · intro name mine name' theirs same
        obtain ⟨d, member, rfl⟩ := List.mem_map.mp mine
        obtain ⟨d', member', rfl⟩ := List.mem_map.mp theirs
        obtain ⟨other, listed, member'⟩ := List.mem_flatMap.mp member'
        obtain ⟨i, here⟩ := List.getElem?_of_mem member
        obtain ⟨j, there⟩ := List.getElem?_of_mem member'
        obtain ⟨namespaces, subsystems, -⟩ :=
          first.field_unique (others other listed) here there same
        apply new
        rw [namespaces, subsystems]
        exact List.mem_map.mpr ⟨other, listed, rfl⟩

end Exporter

/-- Full names tell all metrics apart, and so registration never fails. -/
structure NamesUnambiguous (F : Type) [Binary64 F] : Prop where
  field : ∀ (ns ns' : String) (e e' : Exporter F), e.BuiltIn ns → e'.BuiltIn ns' →
    ∀ (i j : Nat) (d d' : Desc), e.descs[i]? = some d → e'.descs[j]? = some d' →
      d.fqName = d'.fqName → ns = ns' ∧ e.subsystem = e'.subsystem ∧ i = j
  /-- With or without the process collector, which describes some of its
      documented metrics, in any order and of any length. -/
  registers : ∀ (builder : PrometheusMetricsBuilder) (forSelf : List Desc)
    (p : PrometheusMetrics F) (es : List (String × Exporter F)),
    (forSelf.map Desc.fqName).Nodup →
    (∀ name ∈ forSelf.map Desc.fqName, name ∈ PrometheusMetricsBuilder.processNames) →
    builder.build forSelf = .ok p → (∀ e ∈ es, e.2.BuiltIn e.1) →
    (("http", builder.ns) :: es.map fun e => (e.2.subsystem, e.1)).Nodup →
      let registered := Exporter.registerEach (es.map Prod.snd) p.registry
      registered.1 = .ok () ∧ registered.2.members =
        builder.registered forSelf p.httpMetrics ++ es.flatMap fun e => e.2.descs

theorem names_unambiguous [Binary64 F] : NamesUnambiguous F where
  field ns ns' e e' built built' i j d d' := built.field_unique built'
  registers builder forSelf p es separate documented build built distinct := by
    obtain ⟨http, members⟩ := PrometheusMetricsBuilder.build_ok build
    have flat : (es.map Prod.snd).flatMap Exporter.descs = es.flatMap fun e => e.2.descs := by
      rw [List.flatMap_map]
    have all : ∀ e ∈ (builder.ns, Exporter.http p.httpMetrics) :: es, e.2.BuiltIn e.1 :=
      List.forall_mem_cons.mpr ⟨http, built⟩
    have fresh := Exporter.names_nodup_of_distinct all distinct
    rw [← flat, ← members]
    apply Exporter.registerEach_distinct
    rw [members, flat, PrometheusMetricsBuilder.registered, List.append_assoc, List.map_append,
      List.nodup_append]
    refine ⟨?_, fresh, ?_⟩
    · split
      · exact separate
      · exact List.nodup_nil
    · intro name process name' exported same
      obtain ⟨d, member, rfl⟩ := List.mem_map.mp exported
      have process : name ∈ PrometheusMetricsBuilder.processNames := by
        split at process
        · exact documented name process
        · cases process
      obtain ⟨e, listed, member⟩ := List.mem_flatMap.mp (show d ∈
        ((builder.ns, Exporter.http p.httpMetrics) :: es).flatMap fun e => e.2.descs from member)
      exact (all e listed).ne_process member (same ▸ process)

/-- What the process collector describes on Linux. -/
def forSelf : List Desc :=
  ["process_cpu_seconds_total", "process_open_fds", "process_max_fds",
    "process_virtual_memory_bytes", "process_resident_memory_bytes",
    "process_start_time_seconds", "process_threads"].map fun fqName =>
      { fqName, help := "Process metric.", constLabels := [], variableLabels := [] }

/-- One namespace is the subsystem of the other collector. -/
theorem names_unambiguous_nested :
    ∃ (p : PrometheusMetrics Exact) (m n : PostgresMetrics Exact),
      PrometheusMetricsBuilder.build { ns := "app", processCollector := true } forSelf = .ok p ∧
      PostgresMetrics.new {} = .ok m ∧ PostgresMetrics.new { ns := "postgres" } = .ok n ∧
      (Exporter.registerEach [.collector (.postgres m), .collector (.postgres n)]
        p.registry).1 = .ok () := by
  have builds : (PrometheusMetricsBuilder.build { ns := "app", processCollector := true } forSelf :
      Except MetricsError (PrometheusMetrics Exact)).isOk = true := by decide +kernel
  obtain ⟨m, made⟩ : ∃ m : PostgresMetrics Exact, PostgresMetrics.new {} = .ok m := ⟨_, rfl⟩
  obtain ⟨n, made'⟩ : ∃ n : PostgresMetrics Exact, PostgresMetrics.new { ns := "postgres" } = .ok n :=
    ⟨_, rfl⟩
  cases build : (PrometheusMetricsBuilder.build { ns := "app", processCollector := true } forSelf :
      Except MetricsError (PrometheusMetrics Exact)) with
  | error e =>
      rw [build] at builds
      cases builds
  | ok p =>
      refine ⟨p, m, n, rfl, made, made', ?_⟩
      have built : ∀ e ∈ [("", Exporter.collector (.postgres m)),
          ("postgres", .collector (.postgres n))], e.2.BuiltIn e.1 := by
        simp only [List.forall_mem_cons, List.not_mem_nil, false_implies, implies_true, and_true]
        exact ⟨⟨_, rfl, made⟩, ⟨_, rfl, made'⟩⟩
      have distinct : (("http", "app") :: [("", Exporter.collector (.postgres m)),
          ("postgres", .collector (.postgres n))].map fun e => (e.2.subsystem, e.1)).Nodup := by
        simp [Exporter.subsystem, Backend.subsystem]
      exact (names_unambiguous.registers _ forSelf p _ (by decide) (by decide) build built
        distinct).1

end DrMetrix
