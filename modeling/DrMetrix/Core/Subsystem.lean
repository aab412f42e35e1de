import DrMetrix.Core.Collector
import DrMetrix.Prometheus.Metric

/-! # Metrics of a subsystem

The constructors of the backends build their metrics through local macros which
differ in the subsystem only. They are functions of the subsystem here. Within
one subsystem and namespace the full name determines the metric name.
-/

namespace DrMetrix

open Prometheus

/-- The subsystem always, and the namespace only when there is one. -/
def subsystemOpts (sub ns name help : String) : Opts :=
  let opts := (Opts.new name help).withSubsystem sub
  if ns = "" then opts else opts.withNamespace ns

def gauge (sub ns name help : String) : Except MetricsError IntGauge :=
  orPrometheus (IntGauge.withOpts (subsystemOpts sub ns name help))

def fgauge {F : Type} [Binary64 F] (sub ns name help : String) : Except MetricsError (Gauge F) :=
  orPrometheus (Gauge.withOpts (subsystemOpts sub ns name help))

/-- `gauge_vec!`, `histogram_vec!` and the counter family, by the type of child. -/
def metricVec {V : Type} (sub ns name help : String) (labels : List String) :
    Except MetricsError (MetricVec V) :=
  orPrometheus (MetricVec.new (subsystemOpts sub ns name help) labels)

/-- `DEFAULT_QUERY_BUCKETS`, in seconds. -/
def defaultQueryBuckets {F : Type} [Binary64 F] : List F :=
  ["0.0001", "0.0005", "0.001", "0.005", "0.01", "0.025", "0.05", "0.1", "0.25", "0.5", "1.0", "2.5",
    "5.0", "10.0"].map literal

/-- What stands before the metric name in a full name. -/
def qualifier (sub ns : String) : String :=
  if ns = "" then sub ++ "_" else ns ++ "_" ++ sub ++ "_"

theorem fqName_subsystemOpts {sub name : String} (ns help : String) (inSub : sub ≠ "")
    (named : name ≠ "") : (subsystemOpts sub ns name help).fqName = qualifier sub ns ++ name := by
  by_cases empty : ns = ""
  · simp [subsystemOpts, Opts.fqName, Opts.new, Opts.withSubsystem, qualifier, empty, inSub, named]
  · simp [subsystemOpts, Opts.fqName, Opts.new, Opts.withSubsystem, Opts.withNamespace, qualifier,
      empty, inSub, named]

/-- Distinct names of one subsystem have distinct full names. -/
theorem qualified_nodup (sub ns : String) {names : List String} (distinct : names.Nodup) :
    (names.map (qualifier sub ns ++ ·)).Nodup := by
  apply distinct.map
  intro a b same
  exact (String.append_right_inj _).mp same

theorem constLabels_subsystemOpts (sub ns name help : String) :
    (subsystemOpts sub ns name help).constLabels = [] := by
  unfold subsystemOpts
  split <;> rfl

/-- A metric is known by its qualified name and has no constant labels. -/
theorem subsystem_describe {sub ns name help : String} {labels : List String} {d : Desc}
    (inSub : sub ≠ "") (named : name ≠ "")
    (described : ((subsystemOpts sub ns name help).withVariableLabels labels).describe = .ok d) :
    d.identity = (qualifier sub ns ++ name, []) := by
  obtain ⟨fqName, -, constLabels, -⟩ := Opts.describe_ok described
  rw [Desc.identity, fqName, constLabels]
  exact congrArg₂ Prod.mk (fqName_subsystemOpts ns help inSub named)
    (constLabels_subsystemOpts sub ns name help)

theorem subsystem_describe_plain {sub ns name help : String} {d : Desc} (inSub : sub ≠ "")
    (named : name ≠ "") (described : (subsystemOpts sub ns name help).describe = .ok d) :
    d.identity = (qualifier sub ns ++ name, []) := by
  have plain : (subsystemOpts sub ns name help).withVariableLabels [] =
      subsystemOpts sub ns name help := by
    unfold subsystemOpts
    split <;> rfl
  rw [← plain] at described
  exact subsystem_describe inSub named described

theorem gauge_ok {sub ns name help : String} {g : IntGauge} (inSub : sub ≠ "") (named : name ≠ "")
    (h : gauge sub ns name help = .ok g) :
    g.desc.identity = (qualifier sub ns ++ name, []) ∧ g.value = 0 := by
  obtain ⟨described, start⟩ := IntGauge.withOpts_ok (orPrometheus_ok.mp h)
  exact ⟨subsystem_describe_plain inSub named described, start⟩

theorem fgauge_ok {F : Type} [Binary64 F] {sub ns name help : String} {g : Gauge F}
    (inSub : sub ≠ "") (named : name ≠ "") (h : fgauge sub ns name help = .ok g) :
    g.desc.identity = (qualifier sub ns ++ name, []) ∧ g.value = Binary64.zero := by
  obtain ⟨described, start⟩ := Gauge.withOpts_ok (orPrometheus_ok.mp h)
  exact ⟨subsystem_describe_plain inSub named described, start⟩

theorem metricVec_ok {V : Type} {sub ns name help : String} {labels : List String}
    {v : MetricVec V} (inSub : sub ≠ "") (named : name ≠ "")
    (h : metricVec sub ns name help labels = .ok v) :
    v.desc.identity = (qualifier sub ns ++ name, []) ∧ v.children = ∅ := by
  obtain ⟨described, start⟩ := MetricVec.new_ok (orPrometheus_ok.mp h)
  exact ⟨subsystem_describe inSub named described, start⟩

/-- The full names of metrics with the given identities. -/
theorem names_of_identities {ds : List Desc} {names : List String} {q : String}
    (identities : ds.map Desc.identity = names.map fun name => (q ++ name, [])) :
    ds.map Desc.fqName = names.map (q ++ ·) := by
  have firsts := congrArg (List.map Prod.fst) identities
  simpa only [List.map_map, Function.comp_def, Desc.identity] using firsts

end DrMetrix
