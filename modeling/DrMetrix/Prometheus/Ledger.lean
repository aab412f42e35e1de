import DrMetrix.Lib.Buckets
import DrMetrix.Lib.Ledger
import DrMetrix.Prometheus.Metric

/-! # Histograms and what was observed

A histogram family is determined by the log of its observations. What it exports
for one tuple of labels (the count, the exact sum and the cumulative buckets)
depends on the observed values only, and not on their order.
-/

namespace DrMetrix.Prometheus

/-- Observations in the order in which they were made. -/
abbrev Log (F : Type) := List (LabelValues × F)

/-- The values observed under one tuple of labels. -/
def Log.under {F : Type} (log : Log F) (labels : LabelValues) : List F :=
  (log.filter fun x => x.1 == labels).map Prod.snd

section
variable {F : Type} {log other : Log F} {labels : LabelValues}

theorem Log.under_perm (same : log.Perm other) (labels : LabelValues) :
    (log.under labels).Perm (other.under labels) :=
  (same.filter _).map _

theorem Log.under_concat (log : Log F) (x : LabelValues × F) (labels : LabelValues) :
    Log.under (log ++ [x]) labels = log.under labels ++ if x.1 = labels then [x.2] else [] := by
  by_cases mine : x.1 = labels <;> simp [Log.under, List.filter_append, mine]

end

namespace HistogramVec

variable {F : Type} [Binary64 F] [LabelKey] {labels : LabelValues}

def observeAll (h : HistogramVec F) (log : Log F) : HistogramVec F :=
  log.foldl (fun h x => h.observe x.1 x.2) h

theorem observeAll_concat (h : HistogramVec F) (log : Log F) (x : LabelValues × F) :
    h.observeAll (log ++ [x]) = (h.observeAll log).observe x.1 x.2 := by
  simp only [observeAll, List.foldl_append, List.foldl_cons, List.foldl_nil]

theorem sampleCount_observeAll (alone : LabelKey.Alone labels) (h : HistogramVec F)
    (log : Log F) : (h.observeAll log).sampleCount labels =
      h.sampleCount labels + (log.under labels).length := by
  induction log using List.reverseRecOn with
  | nil => rfl
  | append_singleton log x ih =>
      rw [observeAll_concat, sampleCount_observe alone, ih, Log.under_concat, List.length_append,
        Nat.add_assoc]
      by_cases mine : x.1 = labels <;> simp [mine]

theorem sampleSum_observeAll (alone : LabelKey.Alone labels) (h : HistogramVec F)
    (log : Log F) : (h.observeAll log).sampleSum labels =
      (log.under labels).foldl Binary64.add (h.sampleSum labels) := by
  induction log using List.reverseRecOn with
  | nil => rfl
  | append_singleton log x ih =>
      rw [observeAll_concat, sampleSum_observe alone, Log.under_concat, List.foldl_append]
      by_cases mine : x.1 = labels
      · subst mine
        simp only [if_true, ih, List.foldl_cons, List.foldl_nil]
      · simp only [mine, if_false, ih, List.foldl_nil]

theorem mem_keys_observeAll (alone : LabelKey.Alone labels) (h : HistogramVec F)
    (log : Log F) : labels ∈ (h.observeAll log).children.keys ↔
      labels ∈ log.map Prod.fst ∨ labels ∈ h.children.keys := by
  induction log using List.reverseRecOn with
  | nil => simp [observeAll]
  | append_singleton log x ih =>
      rw [observeAll_concat, mem_keys_observe alone, ih]
      simp only [List.map_append, List.map_cons, List.map_nil, List.mem_append, List.mem_singleton]
      grind

end HistogramVec

/-! ## Buckets -/

/-- The bucket counts of a histogram family. -/
structure BucketVec (F : Type) where
  bounds : List F
  children : Family LabelValues (List Nat) := ∅

namespace BucketVec

variable {F : Type}

def zeros (b : BucketVec F) : List Nat := b.bounds.map fun _ => 0

/-- The exported bucket values, without the last one of all samples. -/
def cumulative (b : BucketVec F) (labels : LabelValues) : List Nat :=
  Buckets.cumulate 0 (b.children.read b.zeros labels)

variable [Compared F] [LabelKey] {labels : LabelValues}

def observe (b : BucketVec F) (labels : LabelValues) (v : F) : BucketVec F :=
  { b with
    children := b.children.modify LabelKey.name b.zeros labels fun counts =>
      Buckets.place Compared.le b.bounds v counts }

def observeAll (b : BucketVec F) (log : Log F) : BucketVec F :=
  log.foldl (fun b x => b.observe x.1 x.2) b

theorem observeAll_concat (b : BucketVec F) (log : Log F) (x : LabelValues × F) :
    b.observeAll (log ++ [x]) = (b.observeAll log).observe x.1 x.2 := by
  simp only [observeAll, List.foldl_append, List.foldl_cons, List.foldl_nil]

theorem bounds_observeAll (b : BucketVec F) (log : Log F) : (b.observeAll log).bounds = b.bounds := by
  induction log using List.reverseRecOn with
  | nil => rfl
  | append_singleton log x ih =>
      rw [observeAll_concat]
      exact ih

theorem read_observeAll (alone : LabelKey.Alone labels) {b : BucketVec F}
    (fresh : b.children = ∅) (log : Log F) : (b.observeAll log).children.read b.zeros labels =
      Buckets.placeAll Compared.le b.bounds (log.under labels) := by
  induction log using List.reverseRecOn with
  | nil => simp [observeAll, fresh, Family.read, Buckets.placeAll, Log.under, zeros]
  | append_singleton log x ih =>
      have same : (b.observeAll log).zeros = b.zeros := by
        rw [zeros, bounds_observeAll, zeros]
      rw [observeAll_concat, observe, same, bounds_observeAll, Family.read_modify alone,
        Log.under_concat]
      by_cases mine : x.1 = labels
      · subst mine
        simp only [if_true, ih, Buckets.placeAll, List.foldl_append, List.foldl_cons, List.foldl_nil]
      · simp only [mine, if_false, ih, List.append_nil]

/-- The exported value of a bucket counts the observations up to its bound. -/
theorem cumulative_observeAll (alone : LabelKey.Alone labels) {b : BucketVec F}
    (fresh : b.children = ∅) (rising : Buckets.Rising Compared.le b.bounds) (log : Log F) :
    (b.observeAll log).cumulative labels =
      b.bounds.map fun bound => (log.under labels).countP fun v => Compared.le v bound := by
  have same : (b.observeAll log).zeros = b.zeros := by
    rw [zeros, bounds_observeAll, zeros]
  rw [cumulative, same, read_observeAll alone fresh, Buckets.cumulate_placeAll rising]

theorem rising_observeAll (alone : LabelKey.Alone labels) {b : BucketVec F}
    (fresh : b.children = ∅) (rising : Buckets.Rising Compared.le b.bounds) (log : Log F) :
    ((b.observeAll log).cumulative labels).Pairwise (· ≤ ·) := by
  rw [cumulative_observeAll alone fresh rising, ← Buckets.cumulate_placeAll rising]
  exact Buckets.cumulate_placeAll_rising rising _

end BucketVec

/-! ## Records -/

/-- A family and its buckets have recorded exactly these entries, in some order. -/
def Recorded {F : Type} [Compared F] [LabelKey] (start : HistogramVec F) (empty : BucketVec F)
    (h : HistogramVec F) (b : BucketVec F) (entries : Log F) : Prop :=
  ∃ log, log.Perm entries ∧ h = start.observeAll log ∧ b = empty.observeAll log

section
variable {F : Type} [Compared F]

/-- What a family exports for a tuple of labels, against the recorded values. -/
structure Exports (h : HistogramVec F) (b : BucketVec F) (entries : Log F) (labels : LabelValues) :
    Prop where
  count : h.sampleCount labels = (entries.under labels).length
  /-- Floats are added in the order of the updates. -/
  sum : ∃ order : List F, order.Perm (entries.under labels) ∧
    h.sampleSum labels = order.foldl Binary64.add Binary64.zero
  buckets : b.cumulative labels =
    b.bounds.map fun bound => (entries.under labels).countP fun v => Compared.le v bound
  /-- The buckets rise up to the count of the last one, which has no bound. -/
  rising : (b.cumulative labels ++ [h.sampleCount labels]).Pairwise (· ≤ ·)
  created : labels ∈ h.children.keys ↔ labels ∈ entries.map Prod.fst

variable [LabelKey] {start h : HistogramVec F} {empty b : BucketVec F} {entries more : Log F}

theorem Recorded.nil (start : HistogramVec F) (empty : BucketVec F) :
    Recorded start empty start empty [] := ⟨[], .refl [], rfl, rfl⟩

theorem Recorded.perm (recorded : Recorded start empty h b entries) (same : more.Perm entries) :
    Recorded start empty h b more := by
  obtain ⟨log, order, rest⟩ := recorded
  exact ⟨log, order.trans same.symm, rest⟩

theorem Recorded.bounds (recorded : Recorded start empty h b entries) : b.bounds = empty.bounds := by
  obtain ⟨log, -, -, rfl⟩ := recorded
  exact BucketVec.bounds_observeAll empty log

theorem Recorded.observe (recorded : Recorded start empty h b entries) {labels : LabelValues} {v : F}
    (entered : more.Perm (entries ++ [(labels, v)])) :
    Recorded start empty (h.observe labels v) (b.observe labels v) more := by
  obtain ⟨log, order, rfl, rfl⟩ := recorded
  refine ⟨log ++ [(labels, v)], (order.append_right _).trans entered.symm, ?_, ?_⟩
  · exact (HistogramVec.observeAll_concat start log (labels, v)).symm
  · exact (BucketVec.observeAll_concat empty log (labels, v)).symm

theorem Recorded.exports (recorded : Recorded start empty h b entries)
    (fresh : start.children = ∅) (unused : empty.children = ∅)
    (rising : Buckets.Rising Compared.le empty.bounds) {labels : LabelValues}
    (alone : LabelKey.Alone labels) : Exports h b entries labels := by
  obtain ⟨log, order, rfl, rfl⟩ := recorded
  have same := Log.under_perm order labels
  have zero : start.children.read HistogramVec.fresh labels = (HistogramVec.fresh : Histogram F) := by
    rw [fresh, Family.read, Family.get?_empty, Option.getD_none]
  have count : (start.observeAll log).sampleCount labels = (log.under labels).length := by
    rw [HistogramVec.sampleCount_observeAll alone, HistogramVec.sampleCount, zero]
    exact Nat.zero_add _
  constructor
  · rw [count, same.length_eq]
  · refine ⟨log.under labels, same, ?_⟩
    rw [HistogramVec.sampleSum_observeAll alone, HistogramVec.sampleSum, zero]
    rfl
  · rw [BucketVec.cumulative_observeAll alone unused rising, BucketVec.bounds_observeAll]
    apply List.map_congr_left
    intro bound _
    exact same.countP_eq _
  · rw [List.pairwise_append]
    refine ⟨BucketVec.rising_observeAll alone unused rising log, List.pairwise_singleton _ _, ?_⟩
    intro n member m last
    rw [BucketVec.cumulative_observeAll alone unused rising] at member
    obtain ⟨bound, -, rfl⟩ := List.mem_map.mp member
    rw [List.mem_singleton.mp last, count]
    exact List.countP_le_length
  · rw [HistogramVec.mem_keys_observeAll alone, fresh, (order.map Prod.fst).mem_iff]
    simp

end

/-- Without rounding the order is of no importance. -/
theorem Exports.exact_sum {h : HistogramVec Exact} {b : BucketVec Exact} {entries : Log Exact}
    {labels : LabelValues} (exports : Exports h b entries labels) :
    h.sampleSum labels = (entries.under labels).sum := by
  obtain ⟨order, same, sum⟩ := exports.sum
  rw [sum, ← same.sum_eq, List.sum_eq_foldl]
  rfl

/-- The two families expose the same for a tuple of labels. -/
def HistogramAgrees {F : Type} [Compared F] (h : HistogramVec F) (b : BucketVec F)
    (h' : HistogramVec F) (b' : BucketVec F) (labels : LabelValues) : Prop :=
  h.sampleCount labels = h'.sampleCount labels ∧ h.sampleSum labels = h'.sampleSum labels ∧
    b.cumulative labels = b'.cumulative labels ∧
    (labels ∈ h.children.keys ↔ labels ∈ h'.children.keys)

theorem Recorded.agree [LabelKey] {start h h' : HistogramVec Exact} {empty b b' : BucketVec Exact}
    {entries other : Log Exact} (recorded : Recorded start empty h b entries)
    (recorded' : Recorded start empty h' b' other) (fresh : start.children = ∅)
    (unused : empty.children = ∅) (rising : Buckets.Rising Compared.le empty.bounds)
    (same : entries.Perm other) {labels : LabelValues} (alone : LabelKey.Alone labels) :
    HistogramAgrees h b h' b' labels := by
  have exports := recorded.exports fresh unused rising alone
  have exports' := recorded'.exports fresh unused rising alone
  have values := Log.under_perm same labels
  refine ⟨?_, ?_, ?_, ?_⟩
  · rw [exports.count, exports'.count, values.length_eq]
  · rw [exports.exact_sum, exports'.exact_sum, values.sum_eq]
  · rw [exports.buckets, exports'.buckets, recorded.bounds, recorded'.bounds]
    exact List.map_congr_left fun bound _ => values.countP_eq _
  · rw [exports.created, exports'.created, (same.map Prod.fst).mem_iff]

/-- Bounds which the histogram's constructor accepts, each below the next one. -/
theorem rising_of_increasing {F : Type} [Compared F] {bounds : List F}
    (increasing : bounds.Pairwise fun bound later => Compared.le bound later = true) :
    Buckets.Rising Compared.le bounds :=
  increasing.imp fun below v fits => Compared.le_trans v _ _ fits below

end DrMetrix.Prometheus
