import DrMetrix.Lib.Binary64
import DrMetrix.Lib.Family
import DrMetrix.Prometheus.Desc

/-! # Gauges, counters and histograms

A metric is its descriptor together with the current value of its shared cell,
or of one cell per child of a vector. How a vector tells its children apart is
the crate's business and a parameter here. Integer cells are unbounded; in a run
of the layer those which it steps by `inc` and `dec` lie between zero and the
number of its calls (`HttpMetrics.run_bounded`).
-/

namespace DrMetrix.Prometheus

abbrev LabelValues := List String

/-- The key by which a vector looks up the child of a tuple of label values. With one
    label it tells the values apart. -/
class LabelKey where
  Key : Type
  decEq : DecidableEq Key
  key : LabelValues → Key
  single : ∀ {a b : String}, key [a] = key [b] → a = b

namespace LabelKey

/-- Tuples which are their own keys. -/
@[reducible] def tuples : LabelKey where
  Key := LabelValues
  decEq := inferInstance
  key labels := labels
  single same := List.singleton_inj.mp same

variable [LabelKey]

instance : DecidableEq (Key) := decEq

/-- All tuples of one vector have the same length. -/
def name (labels : LabelValues) : Nat × Key := (labels.length, key labels)

/-- What the crate documents of a vector: one child for each combination of label values. -/
def OneChildEach : Prop := ∀ a b : LabelValues, a.length = b.length → key a = key b → a = b

/-- No other tuple finds the child of this one. -/
abbrev Alone (labels : LabelValues) : Prop := Family.Alone name labels

theorem OneChildEach.alone (each : OneChildEach) (labels : LabelValues) :
    Alone labels := by
  intro other named
  obtain ⟨length, same⟩ := Prod.mk.inj named
  exact each other labels length same

theorem alone_single (a : String) : Alone [a] := by
  intro other named
  obtain ⟨length, same⟩ := Prod.mk.inj named
  obtain ⟨b, rfl⟩ := List.length_eq_one_iff.mp length
  rw [single same]

end LabelKey

theorem LabelKey.tuples_each : @LabelKey.OneChildEach LabelKey.tuples := fun _ _ _ same => same

structure IntGauge where
  desc : Desc
  value : Int := 0

namespace IntGauge

def withOpts (opts : Opts) : Except Error IntGauge := do
  let desc ← opts.describe
  return { desc }

def set (g : IntGauge) (v : Int64) : IntGauge := { g with value := v.toInt }

def inc (g : IntGauge) : IntGauge := { g with value := g.value + 1 }

def dec (g : IntGauge) : IntGauge := { g with value := g.value - 1 }

@[simp] theorem set_value (g : IntGauge) (v : Int64) : (g.set v).value = v.toInt := rfl
@[simp] theorem inc_value (g : IntGauge) : g.inc.value = g.value + 1 := rfl

theorem withOpts_ok {opts : Opts} {g : IntGauge} (h : withOpts opts = .ok g) :
    opts.describe = .ok g.desc ∧ g.value = 0 := by
  unfold withOpts at h
  cases described : opts.describe with
  | error e => rw [described] at h; cases h
  | ok d => rw [described] at h; cases h; exact ⟨rfl, rfl⟩

end IntGauge

/-- A float gauge. -/
structure Gauge (F : Type) where
  desc : Desc
  value : F

namespace Gauge

variable {F : Type}

def withOpts [Binary64 F] (opts : Opts) : Except Error (Gauge F) := do
  let desc ← opts.describe
  return { desc, value := Binary64.zero }

def set (g : Gauge F) (v : F) : Gauge F := { g with value := v }

theorem withOpts_ok [Binary64 F] {opts : Opts} {g : Gauge F} (h : withOpts opts = .ok g) :
    opts.describe = .ok g.desc ∧ g.value = Binary64.zero := by
  unfold withOpts at h
  cases described : opts.describe with
  | error e => rw [described] at h; cases h
  | ok d => rw [described] at h; cases h; exact ⟨rfl, rfl⟩

end Gauge

/-- A family of cells; `with_label_values` finds the cell of a tuple of label values by
    its key, and creates it under this tuple on first use. -/
structure MetricVec (V : Type) where
  desc : Desc
  children : Family LabelValues V := ∅

namespace MetricVec

variable {V : Type}

def new (opts : Opts) (labelNames : List String) : Except Error (MetricVec V) := do
  let desc ← (opts.withVariableLabels labelNames).describe
  return { desc }

theorem new_ok {opts : Opts} {labelNames : List String} {v : MetricVec V}
    (h : new opts labelNames = .ok v) :
    (opts.withVariableLabels labelNames).describe = .ok v.desc ∧ v.children = ∅ := by
  unfold new at h
  cases described : (opts.withVariableLabels labelNames).describe with
  | error e => rw [described] at h; cases h
  | ok d => rw [described] at h; cases h; exact ⟨rfl, rfl⟩

end MetricVec

abbrev IntGaugeVec := MetricVec Int

namespace IntGaugeVec

variable [LabelKey]

/-- `with_label_values(labels).set(v)`. -/
def set (g : IntGaugeVec) (labels : LabelValues) (v : Int64) : IntGaugeVec :=
  { g with children := g.children.set LabelKey.name labels v.toInt }

/-- The exported value; a series which is absent reads as 0. -/
def read (g : IntGaugeVec) (labels : LabelValues) : Int := g.children.read 0 labels

def series (g : IntGaugeVec) (labels : LabelValues) : Option Int := g.children.get? labels

/-- One `set` per row, in order. -/
def setRows {ρ : Type} (labels : ρ → LabelValues) (value : ρ → Int64) (g : IntGaugeVec)
    (rows : List ρ) : IntGaugeVec :=
  rows.foldl (fun g row => g.set (labels row) (value row)) g

theorem children_setRows {ρ : Type} (labels : ρ → LabelValues) (value : ρ → Int64)
    (g : IntGaugeVec) (rows : List ρ) :
    (g.setRows labels value rows).children =
      g.children.setAll LabelKey.name labels (fun row => (value row).toInt) rows :=
  (List.foldl_hom MetricVec.children fun _ _ => rfl).symm

theorem series_setRows {ρ : Type} {k : LabelValues} (alone : LabelKey.Alone k)
    (labels : ρ → LabelValues) (value : ρ → Int64) (g : IntGaugeVec) (rows : List ρ) :
    (g.setRows labels value rows).series k =
      match Family.latest labels k rows with
      | some row => some (value row).toInt
      | none => g.series k := by
  rw [series, children_setRows]
  exact Family.get?_setAll alone labels (fun row => (value row).toInt) g.children rows

/-- With distinct labels every row is shown. -/
theorem series_setRows_of_nodup {ρ : Type} {labels : ρ → LabelValues} (value : ρ → Int64)
    (g : IntGaugeVec) {rows : List ρ} (distinct : (rows.map labels).Nodup) {row : ρ}
    (member : row ∈ rows) (alone : LabelKey.Alone (labels row)) :
    (g.setRows labels value rows).series (labels row) = some (value row).toInt := by
  rw [series_setRows alone, Family.latest_of_nodup distinct member]

end IntGaugeVec

abbrev IntCounterVec := MetricVec Nat

namespace IntCounterVec

variable [LabelKey]

/-- `with_label_values(labels).inc()`. -/
def inc (c : IntCounterVec) (labels : LabelValues) : IntCounterVec :=
  { c with children := c.children.modify LabelKey.name 0 labels (· + 1) }

def value (c : IntCounterVec) (labels : LabelValues) : Nat := c.children.read 0 labels

theorem value_inc {other : LabelValues} (alone : LabelKey.Alone other)
    (c : IntCounterVec) (labels : LabelValues) :
    (c.inc labels).value other = c.value other + (labels == other).toNat := by
  have cell := Family.read_modify alone 0 c.children labels (· + 1)
  by_cases same : labels = other
  · subst same
    simpa [value, inc] using cell
  · have apart : (labels == other) = false := beq_eq_false_iff_ne.mpr same
    simpa [value, inc, same, apart] using cell

/-- Whichever child is found, none gains more than one. -/
theorem value_inc_le (c : IntCounterVec) (labels other : LabelValues) :
    (c.inc labels).value other ≤ c.value other + 1 := by
  rcases Family.read_modify_cases LabelKey.name 0 c.children labels other (· + 1) with more | same
  · exact more.le
  · exact same.trans_le (Nat.le_succ _)

theorem keys_inc (c : IntCounterVec) (labels : LabelValues) :
    ∀ other ∈ (c.inc labels).children.keys, other = labels ∨ other ∈ c.children.keys :=
  Family.keys_modify LabelKey.name 0 c.children labels (· + 1)

theorem mem_keys_inc {other : LabelValues} (alone : LabelKey.Alone other)
    (c : IntCounterVec) (labels : LabelValues) :
    other ∈ (c.inc labels).children.keys ↔ other = labels ∨ other ∈ c.children.keys :=
  Family.mem_keys_modify alone 0 c.children labels (· + 1)

end IntCounterVec

/-- A histogram without its buckets: the sample count and the sample sum. -/
structure Histogram (F : Type) where
  sampleCount : Nat
  sampleSum : F

abbrev HistogramVec (F : Type) := MetricVec (Histogram F)

namespace HistogramVec

variable {F : Type} [Binary64 F]

def fresh : Histogram F := { sampleCount := 0, sampleSum := Binary64.zero }

def sampleCount (h : HistogramVec F) (labels : LabelValues) : Nat :=
  (h.children.read fresh labels).sampleCount

def sampleSum (h : HistogramVec F) (labels : LabelValues) : F :=
  (h.children.read fresh labels).sampleSum

variable [LabelKey]

/-- `with_label_values(labels).observe(v)`. -/
def observe (h : HistogramVec F) (labels : LabelValues) (v : F) : HistogramVec F :=
  { h with
    children := h.children.modify LabelKey.name fresh labels fun child =>
      { sampleCount := child.sampleCount + 1, sampleSum := Binary64.add child.sampleSum v } }

section
variable {other : LabelValues} (alone : LabelKey.Alone other) (h : HistogramVec F)
  (labels : LabelValues) (v : F)
include alone

theorem sampleCount_observe :
    (h.observe labels v).sampleCount other = h.sampleCount other + (labels == other).toNat := by
  have cell := congrArg Histogram.sampleCount <|
    Family.read_modify alone fresh h.children labels fun child =>
      { sampleCount := child.sampleCount + 1, sampleSum := Binary64.add child.sampleSum v }
  by_cases same : labels = other
  · subst same
    simpa [sampleCount, observe] using cell
  · have apart : (labels == other) = false := beq_eq_false_iff_ne.mpr same
    simpa [sampleCount, observe, same, apart] using cell

theorem sampleSum_observe : (h.observe labels v).sampleSum other =
    if labels = other then Binary64.add (h.sampleSum other) v else h.sampleSum other := by
  have cell := congrArg Histogram.sampleSum <|
    Family.read_modify alone fresh h.children labels fun child =>
      { sampleCount := child.sampleCount + 1, sampleSum := Binary64.add child.sampleSum v }
  by_cases same : labels = other
  · subst same
    simpa [sampleSum, observe] using cell
  · simpa [sampleSum, observe, same] using cell

theorem mem_keys_observe :
    other ∈ (h.observe labels v).children.keys ↔ other = labels ∨ other ∈ h.children.keys :=
  Family.mem_keys_modify alone fresh h.children labels _

end

theorem keys_observe (h : HistogramVec F) (labels : LabelValues) (v : F) :
    ∀ other ∈ (h.observe labels v).children.keys, other = labels ∨ other ∈ h.children.keys :=
  Family.keys_modify LabelKey.name fresh h.children labels _

end HistogramVec

end DrMetrix.Prometheus
