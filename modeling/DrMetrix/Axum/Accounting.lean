import DrMetrix.Axum.Layer

/-! # Accounting of the layer's metrics

What one step can do to the futures and the metrics, and the account which every
step balances: each exported number equals the number of futures which stand
where that number was last updated on their behalf.
-/

namespace DrMetrix.Axum

open Prometheus

variable {F : Type}

namespace FutureState

/-- Neither completed, nor panicked, nor dropped. -/
def live : FutureState F → Bool
  | .created | .awaiting | .recording .. => true
  | _ => false

/-- A poll of this future is executing. -/
def polling : FutureState F → Bool
  | .recording .. => true
  | _ => false

/-- Ended without running the recording sequence. -/
def abandoned : FutureState F → Bool
  | .panicked | .dropped => true
  | _ => false

/-- The gauge was incremented and not decremented. -/
def holdsGauge : FutureState F → Bool
  | .created | .awaiting | .recording .inFlight .. | .panicked | .dropped => true
  | _ => false

/-- Past the update of `requests_total`. -/
def passedTotal : FutureState F → Bool
  | .recording .duration .. | .recording .size .. | .completed _ => true
  | _ => false

/-- Past the update of `request_duration_seconds`. -/
def passedDuration : FutureState F → Bool
  | .recording .size .. | .completed _ => true
  | _ => false

/-- Between those two updates. -/
def between : FutureState F → Bool
  | .recording .duration .. => true
  | _ => false

def result? : FutureState F → Option CallResult
  | .recording _ result _ | .completed result => some result
  | _ => none

variable [Binary64 F]

/-- Past the update of `response_size_bytes`, for a response which has a size. -/
def passedSize : FutureState F → Bool
  | .completed result => (contentSize result : Option F).isSome
  | _ => false

end FutureState

namespace CallFuture

/-- The label triple under which the future is recorded. -/
def triple (f : CallFuture F) : LabelValues :=
  match f.state.result? with
  | some result => f.labels result
  | none => []

end CallFuture

/-- The families as `HttpMetrics::new` makes them: no series and a zero gauge. -/
def HttpMetrics.Fresh (m : HttpMetrics F) : Prop :=
  m.requestsTotal.children = ∅ ∧ m.requestDurationSeconds.children = ∅ ∧
    m.requestsInFlight.value = 0 ∧ m.responseSizeBytes.children = ∅

theorem HttpMetrics.new_fresh {ns : String} {m : HttpMetrics F} (h : HttpMetrics.new ns = .ok m) :
    m.Fresh := by
  simp only [HttpMetrics.new, bind_eq_ok, pure_eq_ok] at h
  obtain ⟨total, newTotal, duration, newDuration, gauge, newGauge, size, newSize, rfl⟩ := h
  have inSub : "http" ≠ "" := by decide
  exact ⟨(metricVec_ok inSub (by decide) newTotal).2, (metricVec_ok inSub (by decide) newDuration).2,
    (gauge_ok inSub (by decide) newGauge).2, (metricVec_ok inSub (by decide) newSize).2⟩

variable [Binary64 F]

/-- Not recorded in any family yet, and still counted by the gauge. -/
def FutureState.Unrecorded (state : FutureState F) : Prop :=
  state.holdsGauge = true ∧ state.passedTotal = false ∧ state.passedDuration = false ∧
    state.passedSize = false

theorem FutureState.Unrecorded.source {state : FutureState F}
    (h : state = .created ∨ state = .awaiting) : state.Unrecorded := by
  rcases h with rfl | rfl <;> exact ⟨rfl, rfl, rfl, rfl⟩

theorem FutureState.Unrecorded.resumed (start now : Nat) (answer : InnerPoll) :
    (FutureState.resumed start now answer : FutureState F).Unrecorded := by
  cases answer <;> exact ⟨rfl, rfl, rfl, rfl⟩

/-- The position after an update, seen by each family. -/
theorem FutureState.after_positions (result : CallResult) (elapsed : F) (next : Update) :
    let state : FutureState F := .after result elapsed next
    state.holdsGauge = false ∧
      state.passedTotal = !decide (next = .inFlight) ∧
      state.passedDuration = (decide (next = .duration) || decide (next = .size)) ∧
      state.passedSize = (decide (next = .size) && (contentSize result : Option F).isSome) ∧
      state.result? = some result := by
  cases next with
  | inFlight => exact ⟨rfl, rfl, rfl, rfl, rfl⟩
  | total => exact ⟨rfl, rfl, rfl, rfl, rfl⟩
  | size => exact ⟨rfl, rfl, rfl, rfl, rfl⟩
  | duration =>
      cases size : (contentSize result : Option F) with
      | none => simp [after, size, holdsGauge, passedTotal, passedDuration, passedSize, result?]
      | some len => simp [after, size, holdsGauge, passedTotal, passedDuration, passedSize, result?]

theorem FutureState.recording_positions (next : Update) (result : CallResult) (elapsed : F) :
    let state : FutureState F := .recording next result elapsed
    state.holdsGauge = decide (next = .inFlight) ∧
      state.passedTotal = (decide (next = .duration) || decide (next = .size)) ∧
      state.passedDuration = decide (next = .size) ∧
      state.passedSize = false ∧
      state.result? = some result := by
  cases next <;> exact ⟨rfl, rfl, rfl, rfl, rfl⟩

variable [LabelKey]

/-! ## What a step does -/

/-- The action makes or moves a future. -/
def Action.onFuture : Action → Bool
  | .call .. | .poll .. | .update _ | .drop _ => true
  | _ => false

/-- Everything a step can do to the futures and the metrics. -/
inductive Effect (s : System F) (a : Action) (s' : System F) : Prop where
  | idle (action : a.onFuture = false) (futures : s'.futures = s.futures)
      (metrics : s'.metrics = s.metrics)
  | called (m : Nat) (f : CallFuture F) (now : Nat) (action : a = .call m f.request now)
      (fresh : f.state = .created)
      (captured : f.method = f.request.method ∧ f.path = f.request.pathLabel)
      (futures : s'.futures = s.futures ++ [f])
      (metrics : s'.metrics =
        { s.metrics with requestsInFlight := s.metrics.requestsInFlight.inc })
  | moved (i : Nat) (f : CallFuture F) (state : FutureState F) (found : s.futures[i]? = some f)
      (source : f.state = .created ∨ f.state = .awaiting)
      (target : a = .drop i ∧ state = .dropped ∨
        ∃ now answer, a = .poll i now answer ∧ state = .resumed f.start now answer)
      (futures : s'.futures = s.futures.set i { f with state })
      (metrics : s'.metrics = s.metrics)
  | recorded (i : Nat) (f : CallFuture F) (next : Update) (result : CallResult) (elapsed : F)
      (action : a = .update i) (found : s.futures[i]? = some f)
      (source : f.state = .recording next result elapsed)
      (futures : s'.futures = s.futures.set i { f with state := .after result elapsed next })
      (metrics : s'.metrics = s.metrics.record f result elapsed next)

theorem System.step_effect {s s' : System F} {a : Action} (h : s.step a = some s') :
    Effect s a s' := by
  cases a with
  | layer =>
      cases h
      exact .idle rfl rfl rfl
  | scrape =>
      cases h
      exact .idle rfl rfl rfl
  | clone m =>
      obtain ⟨svc, -, rfl⟩ := Option.map_eq_some_iff.mp h
      exact .idle rfl rfl rfl
  | pollReady m answer =>
      obtain ⟨svc, -, rfl⟩ := Option.map_eq_some_iff.mp h
      cases answer <;> exact .idle rfl rfl rfl
  | call m req now =>
      obtain ⟨svc, -, rfl⟩ := Option.map_eq_some_iff.mp h
      exact .called m _ now rfl rfl ⟨rfl, rfl⟩ rfl rfl
  | poll i now answer =>
      obtain ⟨f, found, polled⟩ := Option.bind_eq_some_iff.mp h
      unfold System.poll at polled
      split at polled
      · next created =>
          cases polled
          exact .moved i f _ found (.inl created) (.inr ⟨now, answer, rfl, rfl⟩) rfl rfl
      · next awaiting =>
          cases polled
          exact .moved i f _ found (.inr awaiting) (.inr ⟨now, answer, rfl, rfl⟩) rfl rfl
      · cases polled
  | update i =>
      obtain ⟨f, found, updated⟩ := Option.bind_eq_some_iff.mp h
      unfold System.update at updated
      split at updated
      · next next result elapsed source =>
          cases updated
          exact .recorded i f next result elapsed rfl found source rfl rfl
      · cases updated
  | drop i =>
      obtain ⟨f, found, dropped⟩ := Option.bind_eq_some_iff.mp h
      unfold System.drop at dropped
      split at dropped
      · next created =>
          cases dropped
          exact .moved i f .dropped found (.inl created) (.inl ⟨rfl, rfl⟩) rfl rfl
      · next awaiting =>
          cases dropped
          exact .moved i f .dropped found (.inr awaiting) (.inl ⟨rfl, rfl⟩) rfl rfl
      · cases dropped

/-! ## The account -/

/-- Every exported number against the positions of the futures; of the series, those
    whose tuple of labels does not share its child. -/
structure Accounts (s : System F) : Prop where
  inFlight : s.metrics.requestsInFlight.value = s.futures.countP fun f => f.state.holdsGauge
  total : ∀ k, LabelKey.Alone k → s.metrics.requestsTotal.value k =
    s.futures.countP fun f => f.state.passedTotal && f.triple == k
  duration : ∀ k, LabelKey.Alone k → s.metrics.requestDurationSeconds.sampleCount k =
    s.futures.countP fun f => f.state.passedDuration && f.triple == k
  size : ∀ k, LabelKey.Alone k → s.metrics.responseSizeBytes.sampleCount k =
    s.futures.countP fun f => f.state.passedSize && f.sizeLabels == k
  created : ∀ f ∈ s.futures, f.state.passedTotal = true → LabelKey.Alone f.triple →
    f.triple ∈ s.metrics.requestsTotal.children.keys
  captured : ∀ f ∈ s.futures, f.method = f.request.method ∧ f.path = f.request.pathLabel

theorem Accounts.called {s s' : System F} {f : CallFuture F} (acc : Accounts s)
    (fresh : f.state = .created)
    (captured : f.method = f.request.method ∧ f.path = f.request.pathLabel)
    (futures : s'.futures = s.futures ++ [f])
    (metrics : s'.metrics =
      { s.metrics with requestsInFlight := s.metrics.requestsInFlight.inc }) : Accounts s' := by
  obtain ⟨holds, noTotal, noDuration, noSize⟩ :=
    FutureState.Unrecorded.source (.inl fresh)
  refine ⟨?_, ?_, ?_, ?_, ?_, ?_⟩
  · simp only [metrics, futures, IntGauge.inc_value, acc.inFlight, Population.countP_join, holds,
      Bool.toNat_true, Nat.cast_add, Nat.cast_one]
  · intro k alone
    simp only [metrics, futures, acc.total k alone, Population.countP_join, noTotal, Bool.false_and,
      Bool.toNat_false, Nat.add_zero]
  · intro k alone
    simp only [metrics, futures, acc.duration k alone, Population.countP_join, noDuration,
      Bool.false_and, Bool.toNat_false, Nat.add_zero]
  · intro k alone
    simp only [metrics, futures, acc.size k alone, Population.countP_join, noSize, Bool.false_and,
      Bool.toNat_false, Nat.add_zero]
  · rw [futures, metrics]
    apply Population.forall_join acc.created
    intro passed
    rw [noTotal] at passed
    cases passed
  · rw [futures]
    exact Population.forall_join acc.captured captured

theorem Accounts.moved {s s' : System F} {i : Nat} {f : CallFuture F} {state : FutureState F}
    (acc : Accounts s) (found : s.futures[i]? = some f) (source : f.state.Unrecorded)
    (target : state.Unrecorded) (futures : s'.futures = s.futures.set i { f with state })
    (metrics : s'.metrics = s.metrics) : Accounts s' := by
  obtain ⟨holds, noTotal, noDuration, noSize⟩ := source
  obtain ⟨holds', noTotal', noDuration', noSize'⟩ := target
  refine ⟨?_, ?_, ?_, ?_, ?_, ?_⟩
  · rw [metrics, futures, acc.inFlight, Population.countP_replace_same _ found]
    simp only [holds, holds']
  · intro k alone
    rw [metrics, futures, acc.total k alone, Population.countP_replace_same _ found]
    simp only [noTotal, noTotal', Bool.false_and]
  · intro k alone
    rw [metrics, futures, acc.duration k alone, Population.countP_replace_same _ found]
    simp only [noDuration, noDuration', Bool.false_and]
  · intro k alone
    rw [metrics, futures, acc.size k alone, Population.countP_replace_same _ found]
    simp only [noSize, noSize', Bool.false_and]
  · rw [futures, metrics]
    apply Population.forall_replace acc.created
    intro passed
    simp only [noTotal'] at passed
    cases passed
  · rw [futures]
    exact Population.forall_replace acc.captured (acc.captured f (List.mem_of_getElem? found))

/-- One update of the recording sequence, against the families it does not touch. -/
theorem HttpMetrics.record_frame (m : HttpMetrics F) (f : CallFuture F) (result : CallResult)
    (elapsed : F) (next : Update) :
    (m.record f result elapsed next).requestsInFlight.value =
        m.requestsInFlight.value - (decide (next = .inFlight)).toNat ∧
      (∀ k, LabelKey.Alone k → (m.record f result elapsed next).requestsTotal.value k =
        m.requestsTotal.value k + (decide (next = .total) && f.labels result == k).toNat) ∧
      (∀ k, LabelKey.Alone k →
        (m.record f result elapsed next).requestDurationSeconds.sampleCount k =
          m.requestDurationSeconds.sampleCount k +
            (decide (next = .duration) && f.labels result == k).toNat) ∧
      (∀ k, LabelKey.Alone k → (m.record f result elapsed next).responseSizeBytes.sampleCount k =
        m.responseSizeBytes.sampleCount k + (decide (next = .size) &&
          (contentSize result : Option F).isSome && f.sizeLabels == k).toNat) := by
  cases next with
  | inFlight => exact ⟨rfl, fun _ _ => rfl, fun _ _ => rfl, fun _ _ => rfl⟩
  | total =>
      exact ⟨(sub_zero _).symm, fun _ alone => IntCounterVec.value_inc alone _ _,
        fun _ _ => rfl, fun _ _ => rfl⟩
  | duration =>
      exact ⟨(sub_zero _).symm, fun _ _ => rfl,
        fun _ alone => HistogramVec.sampleCount_observe alone _ _ elapsed, fun _ _ => rfl⟩
  | size =>
      cases size : (contentSize result : Option F) with
      | none =>
          simp only [HttpMetrics.record, size]
          exact ⟨(sub_zero _).symm, fun _ _ => rfl, fun _ _ => rfl, fun _ _ => rfl⟩
      | some len =>
          simp only [HttpMetrics.record, size]
          exact ⟨(sub_zero _).symm, fun _ _ => rfl, fun _ _ => rfl,
            fun _ alone => HistogramVec.sampleCount_observe alone _ _ len⟩

theorem HttpMetrics.mem_keys_record {k : LabelValues} (alone : LabelKey.Alone k)
    (m : HttpMetrics F) (f : CallFuture F) (result : CallResult) (elapsed : F) (next : Update) :
    k ∈ (m.record f result elapsed next).requestsTotal.children.keys ↔
      (next = .total ∧ k = f.labels result) ∨ k ∈ m.requestsTotal.children.keys := by
  cases next with
  | inFlight => simp [HttpMetrics.record]
  | total => simpa [HttpMetrics.record] using IntCounterVec.mem_keys_inc alone _ _
  | duration => simp [HttpMetrics.record]
  | size =>
      cases size : (contentSize result : Option F) <;> simp [HttpMetrics.record, size]

theorem Accounts.recorded {s s' : System F} {i : Nat} {f : CallFuture F} {next : Update}
    {result : CallResult} {elapsed : F} (acc : Accounts s) (found : s.futures[i]? = some f)
    (source : f.state = .recording next result elapsed)
    (futures : s'.futures = s.futures.set i { f with state := .after result elapsed next })
    (metrics : s'.metrics = s.metrics.record f result elapsed next) : Accounts s' := by
  obtain ⟨holds, total, duration, size, result?⟩ :=
    FutureState.recording_positions next result elapsed
  obtain ⟨holds', total', duration', size', result?'⟩ :=
    FutureState.after_positions result elapsed next
  obtain ⟨gauge, counter, histogram, sizes⟩ :=
    s.metrics.record_frame f result elapsed next
  let moved : CallFuture F := { f with state := .after result elapsed next }
  have triple : f.triple = f.labels result := by simp only [CallFuture.triple, source, result?]
  have triple' : moved.triple = f.labels result := by
    simp only [CallFuture.triple, moved, result?', CallFuture.labels]
  refine ⟨?_, ?_, ?_, ?_, ?_, ?_⟩
  · have balance := Population.countP_replace (fun f => f.state.holdsGauge) found moved
    simp only [source, moved, holds, holds', Bool.toNat_false, Nat.add_zero] at balance
    rw [metrics, futures, gauge, acc.inFlight]
    omega
  · intro k alone
    have balance :=
      Population.countP_replace (fun f => f.state.passedTotal && f.triple == k) found moved
    rw [metrics, futures, counter k alone, acc.total k alone]
    simp only [source, triple, triple', total] at balance
    simp only [moved, total'] at balance
    cases next <;> simp at balance ⊢ <;> omega
  · intro k alone
    have balance :=
      Population.countP_replace (fun f => f.state.passedDuration && f.triple == k) found moved
    rw [metrics, futures, histogram k alone, acc.duration k alone]
    simp only [source, triple, triple', duration] at balance
    simp only [moved, duration'] at balance
    cases next <;> simp at balance ⊢ <;> omega
  · intro k alone
    have balance :=
      Population.countP_replace (fun f => f.state.passedSize && f.sizeLabels == k) found moved
    rw [metrics, futures, sizes k alone, acc.size k alone]
    simp only [source, size, Bool.false_and, Bool.toNat_false, Nat.add_zero] at balance
    simp only [moved, size', CallFuture.sizeLabels] at balance
    exact balance.symm
  · have kept : ∀ g ∈ s.futures, g.state.passedTotal = true → LabelKey.Alone g.triple →
        g.triple ∈ s'.metrics.requestsTotal.children.keys := by
      intro g member passed alone
      rw [metrics]
      exact (HttpMetrics.mem_keys_record alone s.metrics f result elapsed next).mpr
        (.inr (acc.created g member passed alone))
    rw [futures]
    apply Population.forall_replace kept
    intro passed alone
    change LabelKey.Alone moved.triple at alone
    change moved.triple ∈ _
    rw [triple'] at alone ⊢
    rw [metrics, HttpMetrics.mem_keys_record alone]
    by_cases now : next = .total
    · exact .inl ⟨now, rfl⟩
    · have before : f.state.passedTotal = true := by
        rw [source, total]
        rw [total'] at passed
        cases next <;> simp at now passed ⊢
      rw [← triple] at alone ⊢
      exact .inr (acc.created f (List.mem_of_getElem? found) before alone)
  · rw [futures]
    exact Population.forall_replace acc.captured (acc.captured f (List.mem_of_getElem? found))

theorem Accounts.step {s s' : System F} {a : Action} (acc : Accounts s)
    (h : s.step a = some s') : Accounts s' := by
  cases System.step_effect h with
  | idle action futures metrics =>
      cases acc
      constructor <;> simp only [futures, metrics] <;> assumption
  | called m f now action fresh captured futures metrics =>
      exact acc.called fresh captured futures metrics
  | moved i f state found source target futures metrics =>
      have unrecorded : state.Unrecorded := by
        rcases target with ⟨-, rfl⟩ | ⟨now, answer, -, rfl⟩
        · exact ⟨rfl, rfl, rfl, rfl⟩
        · exact .resumed f.start now answer
      exact acc.moved found (.source source) unrecorded futures metrics
  | recorded i f next result elapsed action found source futures metrics =>
      exact acc.recorded found source futures metrics

theorem Accounts.start {m : HttpMetrics F} (fresh : m.Fresh) : Accounts (System.start m) := by
  obtain ⟨total, duration, gauge, size⟩ := fresh
  refine ⟨gauge, ?_, ?_, ?_, ?_, ?_⟩
  · intro k _
    simp [System.start, IntCounterVec.value, total, Family.read]
  · intro k _
    simp [System.start, HistogramVec.sampleCount, duration, Family.read, HistogramVec.fresh]
  · intro k _
    simp [System.start, HistogramVec.sampleCount, size, Family.read, HistogramVec.fresh]
  · intro f member
    cases member
  · intro f member
    cases member

/-- The account balances in every reachable state. -/
theorem Accounts.run {m : HttpMetrics F} {as : List Action} {s : System F} (fresh : m.Fresh)
    (h : Transition.run System.step (System.start m) as = some s) : Accounts s :=
  Transition.run_invariant (fun _ _ _ acc => acc.step) (.start fresh) h

end DrMetrix.Axum
