import DrMetrix.Axum.AddCollector

/-! # Everything that registers metrics

The HTTP metrics and the three collectors, each with the subsystem its names
carry, and calls of `register` in any order on one registry.
-/

namespace DrMetrix

open Prometheus Axum Postgres Redis Mongo

variable {F : Type}

inductive Exporter (F : Type) where
  | http (m : HttpMetrics F)
  | collector (b : Backend F)

def Axum.Backend.subsystem : Backend F → String
  | .postgres _ => "postgres"
  | .redis _ => "redis"
  | .mongo _ => "mongo"

def Axum.Backend.names : Backend F → List String
  | .postgres _ => PostgresMetrics.names
  | .redis _ => RedisMetrics.names
  | .mongo _ => MongoMetrics.names

theorem Axum.Backend.Built.identities [Binary64 F] {config : CollectorConfig} {b : Backend F}
    (built : b.Built config) : b.descs.map Desc.identity =
      b.names.map fun name => (qualifier b.subsystem config.ns ++ name, []) := by
  cases b with
  | postgres m => exact PostgresMetrics.new_identities built
  | redis m => exact RedisMetrics.new_identities built
  | mongo m => exact MongoMetrics.new_identities built

namespace Exporter

def subsystem : Exporter F → String
  | .http _ => "http"
  | .collector b => b.subsystem

def names : Exporter F → List String
  | .http _ => HttpMetrics.names
  | .collector b => b.names

/-- The descriptors in the order of `register`. -/
def descs : Exporter F → List Desc
  | .http m => m.descs
  | .collector b => b.descs

def register : Exporter F → RegisterM Unit
  | .http m => m.register
  | .collector b => b.collector.register

/-- The constructor returned it for a configuration with this namespace. -/
def BuiltIn [Binary64 F] (ns : String) : Exporter F → Prop
  | .http m => HttpMetrics.new ns = .ok m
  | .collector b => ∃ config : CollectorConfig, config.ns = ns ∧ b.Built config

theorem register_descs (e : Exporter F) : e.register = registerAll e.descs := by
  cases e with
  | http m => rfl
  | collector b => exact b.register_descs

theorem BuiltIn.names_eq [Binary64 F] {ns : String} {e : Exporter F} (built : e.BuiltIn ns) :
    e.descs.map Desc.fqName = e.names.map (qualifier e.subsystem ns ++ ·) := by
  cases e with
  | http m => exact names_of_identities (HttpMetrics.new_identities built)
  | collector b =>
      obtain ⟨config, rfl, constructed⟩ := built
      exact names_of_identities constructed.identities

/-- One `register` call after the other, up to the first which fails. -/
def registerEach : List (Exporter F) → RegisterM Unit
  | [] => pure ()
  | e :: es => do
      e.register
      registerEach es

theorem registerEach_descs (es : List (Exporter F)) :
    registerEach es = registerAll (es.flatMap descs) := by
  induction es with
  | nil => rfl
  | cons e es ih => rw [registerEach, ih, register_descs, List.flatMap_cons, registerAll_append]

/-- What is registered together is without a conflict. -/
theorem registerEach_ok {es : List (Exporter F)} {r : Registry}
    (registered : (registerEach es r).1 = .ok ()) :
    ConflictFree.Independent Desc.Conflicts (r.members ++ es.flatMap descs) := by
  rw [registerEach_descs, (registerAll_acceptAll _ r).2] at registered
  rw [← ConflictFree.acceptAll_all registered]
  exact (r.acceptAll _).1.compatible

/-- Distinct full names always find their place beside the registered ones. -/
theorem registerEach_distinct {es : List (Exporter F)} {r : Registry}
    (distinct : ((r.members ++ es.flatMap descs).map Desc.fqName).Nodup) :
    (registerEach es r).1 = .ok () ∧
      (registerEach es r).2.members = r.members ++ es.flatMap descs := by
  rw [List.map_append, List.nodup_append] at distinct
  obtain ⟨-, fresh, apart⟩ := distinct
  have all : (r.acceptAll (es.flatMap descs)).2 = true := by
    rw [ConflictFree.acceptAll_complete r (Registry.independent_of_names fresh)]
    intro d new held old conflict
    exact apart _ (List.mem_map_of_mem old) _ (List.mem_map_of_mem new) conflict.fqName_eq
  rw [registerEach_descs]
  refine ⟨(registerAll_acceptAll _ r).2.mpr all, ?_⟩
  rw [(registerAll_acceptAll _ r).1, ConflictFree.acceptAll_all all]

end Exporter

end DrMetrix
