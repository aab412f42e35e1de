import DrMetrix.Axum.Latency
import DrMetrix.Prometheus.Ledger

/-! # What the two request histograms expose

The layer once more, with the bucket counts of its histograms. The ledger of a
state has one entry for each request which is past the update, made of the
run's own instants, and the histograms expose that ledger.
-/

namespace DrMetrix.Axum

open Prometheus

variable {F : Type}

/-- The bucket counts beside the counts and sums of `HttpMetrics`. -/
structure HttpBuckets (F : Type) where
  requestDurationSeconds : BucketVec F
  responseSizeBytes : BucketVec F

structure Exposed (F : Type) where
  system : System F
  buckets : HttpBuckets F

/-- The duration of a recorded request by the instants of the run. -/
def durationEntry [Binary64 F] (as : List Action) (x : CallFuture F × Nat) :
    Option (LabelValues × F) :=
  if x.1.state.passedDuration then
    some (x.1.triple, Binary64.ofNanos ((latency as x.2).getD 0))
  else none

def durationEntries [Binary64 F] (as : List Action) (futures : List (CallFuture F)) : Log F :=
  futures.zipIdx.filterMap (durationEntry as)

/-! ## Durations -/

theorem FutureState.result?_of_passedDuration {state : FutureState F}
    (h : state.passedDuration = true) : state.result?.isSome := by
  cases state with
  | recording next result elapsed => rfl
  | completed result => rfl
  | created | awaiting | panicked | dropped => cases h

section
variable [Compared F]

/-- The entries of a state do not change with what happens later. -/
theorem durationEntries_append {as : List Action} {s : System F} (timed : Timed as s)
    (bs : List Action) :
    durationEntries (as ++ bs) s.futures = durationEntries as s.futures := by
  apply List.filterMap_congr
  intro ⟨f, i⟩ member
  have found : s.futures[i]? = some f := List.mem_zipIdx_iff_getElem?.mp member
  unfold durationEntry
  split
  · next passed =>
      obtain ⟨nanos, measured, -⟩ :=
        timed.known i f found (FutureState.result?_of_passedDuration passed)
      simp only [measured, latency_append measured]
  · rfl

theorem durationEntry_none (as : List Action) (i : Nat) {f : CallFuture F}
    (before : f.state.passedDuration = false) : durationEntry as (f, i) = none := by
  simp only [durationEntry, before, Bool.false_eq_true, if_false]

theorem durationEntries_joined (as : List Action) {futures : List (CallFuture F)} {f : CallFuture F}
    (fresh : f.state.passedDuration = false) :
    durationEntries as (futures ++ [f]) = durationEntries as futures := by
  rw [durationEntries, List.zipIdx_append, List.filterMap_append, List.zipIdx_singleton,
    List.filterMap_cons_none (durationEntry_none as _ fresh), List.filterMap_nil, List.append_nil,
    durationEntries]

theorem durationEntries_entered {as : List Action} {futures : List (CallFuture F)} {i : Nat}
    {f g : CallFuture F} (found : futures[i]? = some f) (before : f.state.passedDuration = false) :
    (durationEntries as (futures.set i g)).Perm
      (durationEntries as futures ++ (durationEntry as (g, i)).toList) := by
  rw [durationEntries, Population.zipIdx_replace]
  exact Population.filterMap_entered (Population.getElem?_zipIdx_of found)
    (durationEntry_none as i before)

theorem durationEntries_kept {as : List Action} {futures : List (CallFuture F)} {i : Nat}
    {f g : CallFuture F} (found : futures[i]? = some f)
    (same : durationEntry as (g, i) = durationEntry as (f, i)) :
    durationEntries as (futures.set i g) = durationEntries as futures := by
  rw [durationEntries, Population.zipIdx_replace]
  exact Population.filterMap_replace_same _ (Population.getElem?_zipIdx_of found) same

/-- The entry of a future at the position after an update. -/
theorem durationEntry_after (as : List Action) (f : CallFuture F) (i : Nat) (result : CallResult)
    (elapsed : F) (next : Update) :
    durationEntry as ({ f with state := .after result elapsed next }, i) =
      if next = .duration ∨ next = .size then
        some (f.labels result, Binary64.ofNanos ((latency as i).getD 0))
      else none := by
  obtain ⟨-, -, passed, -, answer⟩ := FutureState.after_positions result elapsed next
  simp only [durationEntry, passed, CallFuture.triple, answer, CallFuture.labels, Bool.or_eq_true,
    decide_eq_true_eq]

variable [LabelKey]

namespace HttpBuckets

/-- The bounds which `HttpMetrics::new` passes. -/
def new : HttpBuckets F where
  requestDurationSeconds := { bounds := defaultQueryBuckets }
  responseSizeBytes :=
    { bounds := ["100.0", "1000.0", "10000.0", "100000.0", "1000000.0", "10000000.0"].map literal }

def record (b : HttpBuckets F) (f : CallFuture F) (result : CallResult) (elapsed : F) :
    Update → HttpBuckets F
  | .inFlight | .total => b
  | .duration =>
      { b with requestDurationSeconds := b.requestDurationSeconds.observe (f.labels result) elapsed }
  | .size =>
      match contentSize result with
      | some len => { b with responseSizeBytes := b.responseSizeBytes.observe f.sizeLabels len }
      | none => b

/-- The buckets after an action which is taken in the given state. -/
def after (b : HttpBuckets F) (s : System F) : Action → HttpBuckets F
  | .update i =>
      match s.futures[i]? with
      | some f =>
          match f.state with
          | .recording next result elapsed => b.record f result elapsed next
          | _ => b
      | none => b
  | _ => b

end HttpBuckets

namespace Exposed

def step (s : Exposed F) (a : Action) : Option (Exposed F) :=
  (s.system.step a).map fun system => { system, buckets := s.buckets.after s.system a }

def start (m : HttpMetrics F) : Exposed F := { system := .start m, buckets := .new }

/-- Buckets enable and disable nothing. -/
theorem run_system {s t : Exposed F} {as : List Action} (h : Transition.run step s as = some t) :
    Transition.run System.step s.system as = some t.system := by
  induction as generalizing s with
  | nil =>
      cases h
      rfl
  | cons a as ih =>
      obtain ⟨s', first, rest⟩ := Transition.run_cons_some.mp h
      obtain ⟨system, taken, rfl⟩ := Option.map_eq_some_iff.mp first
      exact Transition.run_cons_some.mpr ⟨system, taken, ih rest⟩

end Exposed

/-! ## The ledger -/

/-- Both histograms against the requests of the run. -/
structure Ledger (m : HttpMetrics F) (as : List Action) (t : Exposed F) : Prop where
  durations : Recorded m.requestDurationSeconds HttpBuckets.new.requestDurationSeconds
    t.system.metrics.requestDurationSeconds t.buckets.requestDurationSeconds
    (durationEntries as t.system.futures)
  sizes : Recorded m.responseSizeBytes HttpBuckets.new.responseSizeBytes
    t.system.metrics.responseSizeBytes t.buckets.responseSizeBytes (sizeEntries t.system.futures)

/-- A step which observes nothing and leaves every entry as it was. -/
theorem Ledger.kept {m : HttpMetrics F} {as bs : List Action} {t t' : Exposed F}
    (ledger : Ledger m as t)
    (durations : t'.system.metrics.requestDurationSeconds = t.system.metrics.requestDurationSeconds)
    (sizes : t'.system.metrics.responseSizeBytes = t.system.metrics.responseSizeBytes)
    (buckets : t'.buckets = t.buckets)
    (known : durationEntries bs t'.system.futures = durationEntries as t.system.futures)
    (announced : sizeEntries t'.system.futures = sizeEntries t.system.futures) :
    Ledger m bs t' := by
  obtain ⟨recorded, recordedSizes⟩ := ledger
  constructor
  · rw [durations, buckets, known]
    exact recorded
  · rw [sizes, buckets, announced]
    exact recordedSizes

/-- An update observes the duration which the instants of the run make. -/
theorem Ledger.recorded {m : HttpMetrics F} {as bs : List Action} {t : Exposed F} {i : Nat}
    {f : CallFuture F} {next : Update} {result : CallResult} {elapsed : F} {system : System F}
    (ledger : Ledger m as t) (grown : durationEntries bs t.system.futures =
      durationEntries as t.system.futures)
    (measured : elapsed = Binary64.ofNanos ((latency bs i).getD 0))
    (found : t.system.futures[i]? = some f) (source : f.state = .recording next result elapsed)
    (futures : system.futures =
      t.system.futures.set i { f with state := .after result elapsed next })
    (metrics : system.metrics = t.system.metrics.record f result elapsed next) :
    Ledger m bs { system, buckets := t.buckets.record f result elapsed next } := by
  obtain ⟨-, -, passed, -, -⟩ := FutureState.recording_positions next result elapsed
  have unsized : f.sizeEntry = none := by
    simp only [CallFuture.sizeEntry, source]
  have durationAfter := durationEntry_after bs f i result elapsed next
  have sizeAfter := sizeEntry_after f result elapsed next
  have sizesKept : next ≠ .size → sizeEntries system.futures = sizeEntries t.system.futures := by
    intro other
    rw [futures]
    apply Population.filterMap_replace_same _ found
    rw [sizeAfter, if_neg other, unsized]
  obtain ⟨recorded, recordedSizes⟩ := ledger
  cases next with
  | inFlight | total =>
      apply Ledger.kept ⟨recorded, recordedSizes⟩
      · rw [metrics, HttpMetrics.record]
      · rw [metrics, HttpMetrics.record]
      · rfl
      · rw [futures, durationEntries_kept found, grown]
        rw [durationAfter]
        simp [durationEntry, source, passed]
      · exact sizesKept (by simp)
  | duration =>
      constructor
      · rw [metrics]
        apply recorded.observe
        rw [← grown, futures]
        apply (durationEntries_entered found (by rw [source, passed]; rfl)).trans
        rw [durationAfter, if_pos (.inl rfl), ← measured]
        exact .refl _
      · rw [metrics, sizesKept (by simp)]
        exact recordedSizes
  | size =>
      constructor
      · have same : durationEntries bs system.futures = durationEntries as t.system.futures := by
          rw [futures, durationEntries_kept found, grown]
          rw [durationAfter]
          simp [durationEntry, source, passed, CallFuture.triple, FutureState.result?]
        rw [metrics, same]
        cases size : (contentSize result : Option F) with
        | none => simpa only [HttpMetrics.record, HttpBuckets.record, size] using recorded
        | some len => simpa only [HttpMetrics.record, HttpBuckets.record, size] using recorded
      · have entered := Population.filterMap_entered
          (y := { f with state := .after result elapsed .size }) found unsized
        rw [sizeAfter, if_pos rfl, ← futures] at entered
        rw [metrics]
        cases size : (contentSize result : Option F) with
        | none =>
            simp only [size, Option.map_none, Option.toList_none, List.append_nil] at entered
            simp only [HttpMetrics.record, HttpBuckets.record, size]
            exact recordedSizes.perm entered
        | some len =>
            simp only [size, Option.map_some, Option.toList_some] at entered
            simp only [HttpMetrics.record, HttpBuckets.record, size]
            exact recordedSizes.observe entered

theorem Ledger.step {m : HttpMetrics F} {as : List Action} {t t' : Exposed F} {a : Action}
    (ledger : Ledger m as t) (timed : Timed as t.system) (h : t.step a = some t') :
    Ledger m (as ++ [a]) t' := by
  obtain ⟨system, taken, rfl⟩ := Option.map_eq_some_iff.mp h
  have grown := durationEntries_append timed [a]
  cases System.step_effect taken with
  | idle action futures metrics =>
      have untouched : t.buckets.after t.system a = t.buckets := by
        cases a with
        | update => cases action
        | _ => rfl
      rw [untouched]
      apply ledger.kept
      · rw [metrics]
      · rw [metrics]
      · rfl
      · rw [futures, grown]
      · rw [futures]
  | called k f now action fresh captured futures metrics =>
      subst action
      have unrecorded : f.state.passedDuration = false := by
        rw [fresh]
        rfl
      have untouched : t.buckets.after t.system (.call k f.request now) = t.buckets := rfl
      rw [untouched]
      apply ledger.kept
      · rw [metrics]
      · rw [metrics]
      · rfl
      · rw [futures, durationEntries_joined _ unrecorded, grown]
      · rw [futures, sizeEntries, List.filterMap_append]
        simp only [List.filterMap_cons, sizeEntry_none unrecorded, List.filterMap_nil,
          List.append_nil]
        rfl
  | moved i f state found source target futures metrics =>
      have untouched : t.buckets.after t.system a = t.buckets := by
        rcases target with ⟨rfl, -⟩ | ⟨now, answer, rfl, -⟩ <;> rfl
      have before : f.state.passedDuration = false := (FutureState.Unrecorded.source source).2.2.1
      have unrecorded : state.passedDuration = false := by
        rcases target with ⟨-, rfl⟩ | ⟨now, answer, -, rfl⟩
        · rfl
        · exact (FutureState.Unrecorded.resumed f.start now answer).2.2.1
      rw [untouched]
      apply ledger.kept
      · rw [metrics]
      · rw [metrics]
      · rfl
      · rw [futures, durationEntries_kept found, grown]
        rw [durationEntry_none _ _ before, durationEntry_none _ _ unrecorded]
      · rw [futures]
        apply Population.filterMap_replace_same _ found
        rw [sizeEntry_none before, sizeEntry_none unrecorded]
  | recorded i f next result elapsed action found source futures metrics =>
      subst action
      obtain ⟨nanos, known, same⟩ := timed.known i f found (by rw [source]; rfl)
      have measured : elapsed = Binary64.ofNanos ((latency (as ++ [.update i]) i).getD 0) := by
        rw [latency_append known, Option.getD_some]
        exact same elapsed (by rw [source]; rfl)
      have observed : t.buckets.after t.system (.update i) =
          t.buckets.record f result elapsed next := by
        simp only [HttpBuckets.after, found, source]
      rw [observed]
      exact ledger.recorded grown measured found source futures metrics

theorem Ledger.run {m : HttpMetrics F} {as : List Action} {t : Exposed F}
    (h : Transition.run Exposed.step (Exposed.start m) as = some t) : Ledger m as t := by
  have both : Timed as t.system ∧ Ledger m as t := by
    apply Transition.run_history _ _ h
    · intro as t a t' ⟨timed, ledger⟩ taken
      obtain ⟨system, first, rfl⟩ := Option.map_eq_some_iff.mp taken
      exact ⟨timed.step first, ledger.step timed taken⟩
    · have initial : Transition.run System.step (System.start m) [] = some (.start m) := rfl
      exact ⟨Timed.run initial, .nil _ _, .nil _ _⟩
  exact both.2

/-! ## Exported values -/

/-- The constructor of a histogram refuses bounds which do not increase. -/
def Accepted (bounds : List F) : Prop :=
  bounds.Pairwise fun bound later => Compared.le bound later = true

end

/-- The bounds of this crate increase. -/
theorem exact_durationBounds :
    Accepted (HttpBuckets.new (F := Exact)).requestDurationSeconds.bounds := by
  unfold Accepted
  decide +kernel

theorem exact_sizeBounds : Accepted (HttpBuckets.new (F := Exact)).responseSizeBytes.bounds := by
  unfold Accepted
  decide +kernel

end DrMetrix.Axum
