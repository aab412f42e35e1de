import DrMetrix.Collectors.Exporter

/-! # Do constant labels reach the metrics?

No constructor hands the configured labels to a metric. The default is to have
none, and then nothing is missing.
-/

namespace DrMetrix

open Prometheus Axum Postgres Redis Mongo

variable {F : Type} [Binary64 F]

/-- Every registered metric carries the configured labels. -/
def Labelled (config : CollectorConfig) (b : Backend F) : Prop :=
  ∀ d ∈ b.descs, d.constLabels.Perm config.constLabels

/-- The same label names in the same namespace, with another value of a label. -/
structure Relabelled (config config' : CollectorConfig) : Prop where
  ns : config'.ns = config.ns
  names : (config'.constLabels.map Prod.fst).Perm (config.constLabels.map Prod.fst)
  differs : ∃ name v v', (name, v) ∈ config.constLabels ∧ (name, v') ∈ config'.constLabels ∧ v ≠ v'

/-- Two databases of one application share a registry if a label tells them
    apart. -/
def Coexists (config : CollectorConfig) (b : Backend F) : Prop :=
  ∀ (config' : CollectorConfig) (b' : Backend F), Relabelled config config' → b'.Built config' →
    b'.subsystem = b.subsystem →
      (Exporter.registerEach [.collector b, .collector b'] ∅).1 = .ok ()

theorem Axum.Backend.Built.unlabelled {config : CollectorConfig} {b : Backend F}
    (built : b.Built config) {d : Desc} (member : d ∈ b.descs) : d.constLabels = [] := by
  have known : d.identity ∈ b.descs.map Desc.identity := List.mem_map_of_mem member
  rw [built.identities] at known
  obtain ⟨name, -, identity⟩ := List.mem_map.mp known
  exact (congrArg Prod.snd identity).symm

/-- The constructors read nothing but the namespace. -/
theorem Axum.Backend.Built.relabel {config config' : CollectorConfig} {b : Backend F}
    (built : b.Built config) (ns : config'.ns = config.ns) : b.Built config' := by
  cases b with
  | postgres m =>
      have same : (PostgresMetrics.new config' : Except _ (PostgresMetrics F)) =
          PostgresMetrics.new config := by
        simp only [PostgresMetrics.new, ns]
      exact same.trans built
  | redis m =>
      have same : (RedisMetrics.new config' : Except _ (RedisMetrics F)) =
          RedisMetrics.new config := by
        simp only [RedisMetrics.new, ns]
      exact same.trans built
  | mongo m =>
      have same : (MongoMetrics.new config' : Except _ (MongoMetrics F)) =
          MongoMetrics.new config := by
        simp only [MongoMetrics.new, ns]
      exact same.trans built

omit [Binary64 F] in
/-- A collector cannot be registered beside itself. -/
theorem registerEach_twice (b : Backend F) :
    (Exporter.registerEach [.collector b, .collector b] ∅).1 ≠ .ok () := by
  intro registered
  obtain ⟨first, rest, split⟩ := b.descs_split
  have independent := Exporter.registerEach_ok registered
  simp only [List.flatMap_cons, List.flatMap_nil, List.append_nil, Exporter.descs, split,
    List.cons_append] at independent
  have again : first ∈ rest ++ first :: rest := by simp
  have apart := List.rel_of_pairwise_cons independent again
  exact apart (Desc.Conflicts.refl first)

/-- The labels of a configuration arrive, and tell collectors apart, exactly if
    there are none. -/
theorem constLabels_reach_iff {config : CollectorConfig} {b : Backend F} (built : b.Built config) :
    (Labelled config b ↔ config.constLabels = []) ∧
      (Coexists config b ↔ config.constLabels = []) := by
  refine ⟨⟨?_, ?_⟩, ⟨?_, ?_⟩⟩
  · intro labelled
    obtain ⟨first, rest, split⟩ := b.descs_split
    have member : first ∈ b.descs := by simp [split]
    have carried := labelled first member
    rw [built.unlabelled member] at carried
    exact carried.nil_eq.symm
  · intro none d member
    rw [built.unlabelled member, none]
  · intro coexists
    by_contra some
    obtain ⟨⟨name, v⟩, rest, labels⟩ := List.exists_cons_of_ne_nil some
    let config' := { config with constLabels := (name, v ++ "'") :: rest }
    have relabelled : Relabelled config config' := by
      refine ⟨rfl, ?_, name, v, v ++ "'", ?_, ?_, ?_⟩
      · rw [labels]
        rfl
      · simp [labels]
      · simp [config']
      · intro same
        have lengths := congrArg String.length same
        simp at lengths
    exact registerEach_twice b (coexists config' b relabelled (built.relabel rfl) rfl)
  · rintro none config' b' ⟨-, -, name, v, v', labelled, -⟩
    rw [none] at labelled
    cases labelled

theorem constLabels_reach_default :
    ∃ m : RedisMetrics Exact, RedisMetrics.new {} = .ok m ∧
      Labelled {} (.redis m) ∧ Coexists {} (.redis m) := by
  obtain ⟨m, built⟩ : ∃ m : RedisMetrics Exact, RedisMetrics.new {} = .ok m := ⟨_, rfl⟩
  have constructed : (Backend.redis m).Built {} := built
  exact ⟨m, built, (constLabels_reach_iff constructed).1.mpr rfl,
    (constLabels_reach_iff constructed).2.mpr rfl⟩

def inEnvironment (env : String) : CollectorConfig := { ns := "app", constLabels := [("env", env)] }

/-- The second of two databases of one application is refused. -/
theorem constLabels_reach_fails :
    ∃ m n : PostgresMetrics Exact, PostgresMetrics.new (inEnvironment "prod") = .ok m ∧
      PostgresMetrics.new (inEnvironment "staging") = .ok n ∧
      Relabelled (inEnvironment "prod") (inEnvironment "staging") ∧
      m.poolActive.desc.constLabels = [] ∧ ¬ Labelled (inEnvironment "prod") (.postgres m) ∧
      (Exporter.registerEach [.collector (.postgres m), .collector (.postgres n)] ∅).1 =
        .error (.prometheus .alreadyReg) := by
  obtain ⟨m, n, built, built', bare, refused⟩ : ∃ m n : PostgresMetrics Exact,
      PostgresMetrics.new (inEnvironment "prod") = .ok m ∧
      PostgresMetrics.new (inEnvironment "staging") = .ok n ∧
      m.poolActive.desc.constLabels = [] ∧
      (Exporter.registerEach [.collector (.postgres m), .collector (.postgres n)] ∅).1 =
        .error (.prometheus .alreadyReg) := by
    refine ⟨_, _, rfl, rfl, rfl, ?_⟩
    decide +kernel
  refine ⟨m, n, built, built', ?_, bare, ?_, refused⟩
  · exact ⟨rfl, .refl _, "env", "prod", "staging", by simp [inEnvironment], by simp [inEnvironment],
      by decide⟩
  · intro labelled
    have carried := labelled m.poolActive.desc (by simp [Backend.descs, PostgresMetrics.descs])
    rw [bare] at carried
    cases carried.nil_eq

end DrMetrix
