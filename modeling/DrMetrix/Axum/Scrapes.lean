import DrMetrix.Axum.Exposition

/-! # Scrapes

What two scrapes have to do with each other: a later one of the same process
shows nothing less, and two processes which served the same requests show the
same, whatever the order in which their updates ran.
-/

namespace DrMetrix.Axum

open Prometheus

variable {F : Type}

/-! ## A recorded future later on -/

/-- Where a future stands later: it keeps what is recorded of it. -/
structure Keeps [Binary64 F] (f g : CallFuture F) : Prop where
  total : f.state.passedTotal = true → g.state.passedTotal = true ∧ g.triple = f.triple
  duration : f.state.passedDuration = true → g.state.passedDuration = true
  size : ∀ e, f.sizeEntry = some e → g.sizeEntry = some e

section
variable [Binary64 F] {f g h : CallFuture F}

theorem Keeps.refl (f : CallFuture F) : Keeps f f := ⟨fun passed => ⟨passed, rfl⟩, id, fun _ => id⟩

theorem Keeps.trans (first : Keeps f g) (second : Keeps g h) : Keeps f h where
  total passed := by
    obtain ⟨passed', same⟩ := first.total passed
    obtain ⟨passed'', same'⟩ := second.total passed'
    exact ⟨passed'', same'.trans same⟩
  duration passed := second.duration (first.duration passed)
  size e known := second.size e (first.size e known)

/-- Nothing is recorded of a future before its poll is done. -/
theorem Keeps.unrecorded (pending : f.state = .created ∨ f.state = .awaiting) : Keeps f g := by
  obtain ⟨-, noTotal, noDuration, -⟩ := FutureState.Unrecorded.source pending
  constructor
  · intro passed
    cases noTotal.symm.trans passed
  · intro passed
    cases noDuration.symm.trans passed
  · intro e known
    cases (sizeEntry_none noDuration).symm.trans known

theorem Keeps.recorded {next : Update} {result : CallResult} {elapsed : F}
    (source : f.state = .recording next result elapsed) :
    Keeps f { f with state := .after result elapsed next } := by
  obtain ⟨-, total, duration, -, answer⟩ := FutureState.recording_positions next result elapsed
  obtain ⟨-, total', duration', -, answer'⟩ := FutureState.after_positions result elapsed next
  constructor
  · intro passed
    simp only [source, total] at passed
    refine ⟨?_, ?_⟩
    · rw [total']
      cases next <;> simp at passed ⊢
    · simp only [CallFuture.triple, source, answer, answer', CallFuture.labels]
  · intro passed
    simp only [source, duration] at passed
    rw [duration', passed, Bool.or_true]
  · intro e known
    simp [CallFuture.sizeEntry, source] at known

end

/-! ## The requests counted -/

def CallFuture.totalEntry (f : CallFuture F) : Option LabelValues :=
  if f.state.passedTotal then some f.triple else none

def totalEntries (futures : List (CallFuture F)) : List LabelValues :=
  futures.filterMap CallFuture.totalEntry

theorem Accounts.total_count [Binary64 F] [LabelKey] {s : System F} (acc : Accounts s)
    {k : LabelValues} (alone : LabelKey.Alone k) :
    s.metrics.requestsTotal.value k = (totalEntries s.futures).count k := by
  rw [acc.total k alone, totalEntries, List.count, List.countP_filterMap]
  apply List.countP_congr
  intro f _
  unfold CallFuture.totalEntry
  split <;> simp_all

variable [Compared F]

/-- What a served request leaves behind: method, path, answer and latency. -/
def outcome (as : List Action) (x : CallFuture F × Nat) :
    Option (String × String × CallResult × Nat) :=
  match x.1.state with
  | .completed result => some (x.1.method, x.1.path, result, (latency as x.2).getD 0)
  | _ => none

def outcomes (as : List Action) (futures : List (CallFuture F)) :
    List (String × String × CallResult × Nat) :=
  futures.zipIdx.filterMap (outcome as)

/-- No poll is executing. -/
def System.Settled (s : System F) : Prop := ∀ f ∈ s.futures, f.state.polling = false

omit [Compared F] in
theorem System.Settled.outcome_cases {s : System F} (settled : s.Settled) (as : List Action)
    {x : CallFuture F × Nat} (member : x ∈ s.futures.zipIdx) :
    (∃ result, x.1.state = .completed result) ∨
      x.1.state.passedTotal = false ∧ x.1.state.passedDuration = false ∧ outcome as x = none := by
  have quiet := settled x.1 (List.fst_mem_of_mem_zipIdx member)
  unfold outcome
  revert quiet
  cases x.1.state with
  | completed result => exact fun _ => .inl ⟨result, rfl⟩
  | recording => nofun
  | created | awaiting | panicked | dropped => exact fun _ => .inr ⟨rfl, rfl, rfl⟩

/-- Once no poll is executing, the outcomes determine all ledgers. -/
theorem System.Settled.ledgers {s : System F} (settled : s.Settled) (as : List Action) :
    totalEntries s.futures =
        (outcomes as s.futures).map (fun o => [o.1, o.2.1, statusLabel o.2.2.1]) ∧
      durationEntries as s.futures = (outcomes as s.futures).map (fun o =>
        ([o.1, o.2.1, statusLabel o.2.2.1], Binary64.ofNanos o.2.2.2)) ∧
      sizeEntries s.futures = (outcomes as s.futures).filterMap (fun o =>
        (contentSize o.2.2.1).map fun len => ([o.1, o.2.1], len)) := by
  have plain : ∀ {β : Type} (entry : CallFuture F → Option β),
      s.futures.filterMap entry = s.futures.zipIdx.filterMap fun x => entry x.1 := by
    intro β entry
    conv_lhs => rw [← List.zipIdx_map_fst 0 s.futures, List.filterMap_map]
    rfl
  refine ⟨?_, ?_, ?_⟩
  · rw [totalEntries, plain, outcomes, List.map_filterMap]
    apply List.filterMap_congr
    intro x member
    rcases settled.outcome_cases as member with ⟨result, done⟩ | ⟨noTotal, -, nothing⟩
    · simp [outcome, CallFuture.totalEntry, done, FutureState.passedTotal, CallFuture.triple,
        FutureState.result?, CallFuture.labels]
    · simp [CallFuture.totalEntry, noTotal, nothing]
  · rw [durationEntries, outcomes, List.map_filterMap]
    apply List.filterMap_congr
    intro x member
    rcases settled.outcome_cases as member with ⟨result, done⟩ | ⟨-, noDuration, nothing⟩
    · simp [outcome, durationEntry, done, FutureState.passedDuration, CallFuture.triple,
        FutureState.result?, CallFuture.labels]
    · simp [durationEntry, noDuration, nothing]
  · rw [sizeEntries, plain, outcomes, List.filterMap_filterMap]
    apply List.filterMap_congr
    intro x member
    rcases settled.outcome_cases as member with ⟨result, done⟩ | ⟨-, noDuration, nothing⟩
    · simp [outcome, CallFuture.sizeEntry, done, CallFuture.sizeLabels]
    · simp [sizeEntry_none noDuration, nothing]

/-- Two processes which served the same requests with the same answers and
    latencies expose the same, whatever the order of all updates, and whatever
    else was called, abandoned or is still waiting; float rounding apart. -/
theorem exposition_independent_of_order [LabelKey] (each : LabelKey.OneChildEach) {ns : String}
    {m : HttpMetrics Exact} (built : HttpMetrics.new ns = .ok m) {as bs : List Action}
    {s t : Exposed Exact}
    (h : Transition.run Exposed.step (Exposed.start m) as = some s)
    (h' : Transition.run Exposed.step (Exposed.start m) bs = some t)
    (settled : s.system.Settled) (settled' : t.system.Settled)
    (same : (outcomes as s.system.futures).Perm (outcomes bs t.system.futures))
    (labels : LabelValues) :
    s.system.metrics.requestsTotal.value labels = t.system.metrics.requestsTotal.value labels ∧
      HistogramAgrees s.system.metrics.requestDurationSeconds s.buckets.requestDurationSeconds
        t.system.metrics.requestDurationSeconds t.buckets.requestDurationSeconds labels ∧
      HistogramAgrees s.system.metrics.responseSizeBytes s.buckets.responseSizeBytes
        t.system.metrics.responseSizeBytes t.buckets.responseSizeBytes labels := by
  have fresh := HttpMetrics.new_fresh built
  have ⟨_, noDurations, _, noSizes⟩ := fresh
  obtain ⟨totals, durations, sizes⟩ := settled.ledgers as
  obtain ⟨totals', durations', sizes'⟩ := settled'.ledgers bs
  have ledger := Ledger.run h
  have ledger' := Ledger.run h'
  have alone := each.alone labels
  refine ⟨?_, ?_, ?_⟩
  · rw [(Accounts.run fresh (Exposed.run_system h)).total_count alone,
      (Accounts.run fresh (Exposed.run_system h')).total_count alone, totals, totals']
    exact (same.map _).count_eq labels
  · apply ledger.durations.agree ledger'.durations noDurations rfl
      (rising_of_increasing exact_durationBounds) _ alone
    rw [durations, durations']
    exact same.map _
  · apply ledger.sizes.agree ledger'.sizes noSizes rfl (rising_of_increasing exact_sizeBounds) _
      alone
    rw [sizes, sizes']
    exact same.filterMap _

/-- A call with its answer, one after the other. -/
def oneByOne : List Action :=
  [.layer, .call 0 ⟨"GET", none, "/a"⟩ 0, .poll 0 5 (.ready (.error "a")), .update 0, .update 0,
    .update 0, .call 0 ⟨"PUT", none, "/b"⟩ 10, .poll 1 17 (.ready (.error "b")), .update 1, .update 1,
    .update 1]

/-- The same two requests the other way round, with crossing updates, and a third
    one which is dropped. -/
def crossing : List Action :=
  [.layer, .call 0 ⟨"PUT", none, "/b"⟩ 0, .call 0 ⟨"GET", none, "/a"⟩ 2,
    .call 0 ⟨"GET", none, "/a"⟩ 2, .poll 1 7 (.ready (.error "a")), .update 1,
    .poll 0 7 (.ready (.error "b")), .update 0, .update 0, .update 1, .drop 2, .update 1, .update 0]

attribute [local instance] LabelKey.tuples in
theorem exposition_independent_of_order_crossing :
    ∃ (m : HttpMetrics Exact) (s t : Exposed Exact), HttpMetrics.new "" = .ok m ∧
      Transition.run Exposed.step (Exposed.start m) oneByOne = some s ∧
      Transition.run Exposed.step (Exposed.start m) crossing = some t ∧
      HistogramAgrees s.system.metrics.requestDurationSeconds s.buckets.requestDurationSeconds
        t.system.metrics.requestDurationSeconds t.buckets.requestDurationSeconds
        ["GET", "/a", "500"] := by
  obtain ⟨m, built⟩ : ∃ m : HttpMetrics Exact, HttpMetrics.new "" = .ok m := ⟨_, rfl⟩
  obtain ⟨s, ran, settled, served⟩ : ∃ s : Exposed Exact,
      Transition.run Exposed.step (Exposed.start m) oneByOne = some s ∧
        s.system.futures.map (fun f => f.state.polling) = [false, false] ∧
        outcomes oneByOne s.system.futures =
          [("GET", "/a", .error "a", 5), ("PUT", "/b", .error "b", 7)] := ⟨_, rfl, rfl, rfl⟩
  obtain ⟨t, ran', settled', served'⟩ : ∃ t : Exposed Exact,
      Transition.run Exposed.step (Exposed.start m) crossing = some t ∧
        t.system.futures.map (fun f => f.state.polling) = [false, false, false] ∧
        outcomes crossing t.system.futures =
          [("PUT", "/b", .error "b", 7), ("GET", "/a", .error "a", 5)] := ⟨_, rfl, rfl, rfl⟩
  have quiet : s.system.Settled := by
    intro f member
    have inside := List.mem_map_of_mem (f := fun f => f.state.polling) member
    rw [settled] at inside
    simpa using inside
  have quiet' : t.system.Settled := by
    intro f member
    have inside := List.mem_map_of_mem (f := fun f => f.state.polling) member
    rw [settled'] at inside
    simpa using inside
  have same : (outcomes oneByOne s.system.futures).Perm (outcomes crossing t.system.futures) := by
    rw [served, served']
    exact .swap _ _ []
  exact ⟨m, s, t, built, ran, ran', (exposition_independent_of_order LabelKey.tuples_each built ran ran'
    quiet quiet' same ["GET", "/a", "500"]).2.1⟩

end DrMetrix.Axum
