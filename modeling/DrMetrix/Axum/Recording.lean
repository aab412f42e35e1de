import DrMetrix.Axum.Accounting
import DrMetrix.Prometheus.Ledger

/-! # Conservation of recorded requests

The account says where every recorded number comes from. What is added here is
the provenance of the futures, that they are the calls of the run in order and
that a recorded result is an answer which the inner service gave to that call.
-/

namespace DrMetrix.Axum

open Prometheus

variable {F : Type}

/-- The request which a `call` was made with. -/
def Action.request? : Action → Option Request
  | .call _ request _ => some request
  | _ => none

theorem History.answered_replace {as bs : List Action} {s : System F} {i : Nat} {f g : CallFuture F}
    (answered : ∀ i f result, s.futures[i]? = some f → f.state.result? = some result →
      ∃ now, .poll i now (.ready result) ∈ as)
    (found : s.futures[i]? = some f)
    (moved : ∀ result, g.state.result? = some result →
      f.state.result? = some result ∨ ∃ now, .poll i now (.ready result) ∈ bs) :
    ∀ j h result, (s.futures.set i g)[j]? = some h → h.state.result? = some result →
      ∃ now, .poll j now (.ready result) ∈ as ++ bs := by
  intro j h result at_j known
  rw [Population.getElem?_replace found] at at_j
  split at at_j
  · next here =>
      subst here
      cases at_j
      rcases moved result known with before | ⟨now, given⟩
      · obtain ⟨now, given⟩ := answered i f result found before
        exact ⟨now, List.mem_append_left bs given⟩
      · exact ⟨now, List.mem_append_right as given⟩
  · obtain ⟨now, given⟩ := answered j h result at_j known
    exact ⟨now, List.mem_append_left bs given⟩

theorem FutureState.passedTotal_split (state : FutureState F) :
    state.passedTotal.toNat = state.passedDuration.toNat + state.between.toNat := by
  cases state with
  | recording next result elapsed => cases next <;> rfl
  | _ => rfl

theorem FutureState.result?_of_passedTotal {state : FutureState F} (h : state.passedTotal = true) :
    ∃ result, state.result? = some result := by
  cases state with
  | recording next result elapsed => exact ⟨result, rfl⟩
  | completed result => exact ⟨result, rfl⟩
  | created | awaiting | panicked | dropped => cases h

section
variable [Binary64 F]

theorem FutureState.result?_resumed {start now : Nat} {answer : InnerPoll} {result : CallResult}
    (h : (FutureState.resumed start now answer : FutureState F).result? = some result) :
    answer = .ready result := by
  cases answer with
  | pending => cases h
  | panic => cases h
  | ready given =>
      cases h
      rfl

variable [LabelKey]

/-- What the futures of a state owe to the actions which led to it. -/
structure History (as : List Action) (s : System F) : Prop where
  calls : s.futures.map (fun f => f.request) = as.filterMap Action.request?
  answered : ∀ i f result, s.futures[i]? = some f → f.state.result? = some result →
    ∃ now, .poll i now (.ready result) ∈ as

theorem History.step {as : List Action} {s s' : System F} {a : Action} (history : History as s)
    (h : s.step a = some s') : History (as ++ [a]) s' := by
  obtain ⟨calls, answered⟩ := history
  have earlier : ∀ j g result, s.futures[j]? = some g → g.state.result? = some result →
      ∃ now, .poll j now (.ready result) ∈ as ++ [a] := by
    intro j g result at_j known
    obtain ⟨now, given⟩ := answered j g result at_j known
    exact ⟨now, List.mem_append_left [a] given⟩
  cases System.step_effect h with
  | idle action futures _ =>
      have noCall : a.request? = none := by
        cases a with
        | call => cases action
        | _ => rfl
      refine ⟨?_, ?_⟩
      · rw [futures, calls, List.filterMap_append, List.filterMap_cons_none noCall,
          List.filterMap_nil, List.append_nil]
      · rw [futures]
        exact earlier
  | called m f now action fresh _ futures _ =>
      refine ⟨?_, ?_⟩
      · rw [futures, action, List.map_append, calls, List.filterMap_append]
        rfl
      · intro j g result at_j known
        rw [futures] at at_j
        by_cases old : j < s.futures.length
        · rw [List.getElem?_append_left old] at at_j
          exact earlier j g result at_j known
        · rw [List.getElem?_append_right (by omega)] at at_j
          obtain rfl := List.mem_singleton.mp (List.mem_of_getElem? at_j)
          rw [fresh] at known
          cases known
  | moved i f state found source target futures _ =>
      have noCall : a.request? = none := by
        rcases target with ⟨rfl, -⟩ | ⟨now, answer, rfl, -⟩ <;> rfl
      refine ⟨?_, ?_⟩
      · rw [futures, Population.map_replace (fun f => f.request) found { f with state } rfl, calls,
          List.filterMap_append, List.filterMap_cons_none noCall, List.filterMap_nil,
          List.append_nil]
      · rw [futures]
        apply History.answered_replace answered found
        intro result known
        rcases target with ⟨-, rfl⟩ | ⟨now, answer, rfl, rfl⟩
        · cases known
        · obtain rfl := FutureState.result?_resumed known
          exact .inr ⟨now, List.mem_singleton_self _⟩
  | recorded i f next result elapsed action found source futures _ =>
      refine ⟨?_, ?_⟩
      · rw [futures, Population.map_replace (fun f => f.request) found _ (by rfl), calls, action,
          List.filterMap_append]
        exact (List.append_nil _).symm
      · rw [futures]
        apply History.answered_replace answered found
        intro other known
        obtain ⟨-, -, -, -, same⟩ := FutureState.after_positions result elapsed next
        obtain rfl : result = other := Option.some.inj (same.symm.trans known)
        rw [source]
        exact .inl rfl

theorem History.run {m : HttpMetrics F} {as : List Action} {s : System F}
    (h : Transition.run System.step (System.start m) as = some s) : History as s := by
  apply Transition.run_history (fun _ _ _ _ history taken => History.step history taken) _ h
  refine ⟨rfl, ?_⟩
  intro i f result none
  cases none

theorem HttpMetrics.total_record_le (m : HttpMetrics F) (f : CallFuture F) (result : CallResult)
    (elapsed : F) (next : Update) (k : LabelValues) :
    (m.record f result elapsed next).requestsTotal.value k ≤
      m.requestsTotal.value k + (decide (next = .total)).toNat := by
  cases next with
  | inFlight => exact Nat.le_refl _
  | total => exact IntCounterVec.value_inc_le _ _ k
  | duration => exact Nat.le_refl _
  | size => cases size : (contentSize result : Option F) <;> simp [HttpMetrics.record, size]

/-- No series is ahead of the futures, whichever tuples share a child. -/
def System.Covered (s : System F) : Prop :=
  ∀ k, s.metrics.requestsTotal.value k ≤ s.futures.countP fun f => f.state.passedTotal

theorem System.Covered.step {s s' : System F} {a : Action} (covered : s.Covered)
    (h : s.step a = some s') : s'.Covered := by
  intro k
  have before := covered k
  cases System.step_effect h with
  | idle action futures metrics =>
      rw [futures, metrics]
      exact before
  | called m f now action fresh _ futures metrics =>
      rw [futures, metrics, Population.countP_join, fresh]
      exact before
  | moved i f state found source target futures metrics =>
      have unrecorded : state.Unrecorded := by
        rcases target with ⟨-, rfl⟩ | ⟨now, answer, -, rfl⟩
        · exact ⟨rfl, rfl, rfl, rfl⟩
        · exact .resumed f.start now answer
      rw [futures, metrics, Population.countP_replace_same _ found]
      · exact before
      · rw [unrecorded.2.1, (FutureState.Unrecorded.source source).2.1]
  | recorded i f next result elapsed action found source futures metrics =>
      have counted := s.metrics.total_record_le f result elapsed next k
      have balance := Population.countP_replace (fun f => f.state.passedTotal) found
        { f with state := .after result elapsed next }
      have now := (FutureState.recording_positions next result elapsed).2.1
      have next' := (FutureState.after_positions result elapsed next).2.1
      simp only [source, now, next'] at balance
      rw [futures, metrics]
      cases next <;> simp at balance counted <;> omega

/-- The gauge and every counter stay between zero and the number of calls, and so
    inside 64 bits as long as that number is. -/
theorem HttpMetrics.run_bounded {m : HttpMetrics F} {as : List Action} {s : System F}
    (fresh : m.Fresh) (h : Transition.run System.step (System.start m) as = some s) :
    let calls := (as.filterMap Action.request?).length
    0 ≤ s.metrics.requestsInFlight.value ∧ s.metrics.requestsInFlight.value ≤ calls ∧
      ∀ k, s.metrics.requestsTotal.value k ≤ calls := by
  have calls : s.futures.length = (as.filterMap Action.request?).length := by
    rw [← (History.run h).calls, List.length_map]
  have nothing : (System.start m).Covered := by
    intro k
    simp [System.start, IntCounterVec.value, fresh.1, Family.read]
  have covered : s.Covered :=
    Transition.run_invariant (fun _ _ _ before => System.Covered.step before) nothing h
  simp only [← calls, (Accounts.run fresh h).inFlight]
  refine ⟨Int.natCast_nonneg _, Int.ofNat_le.mpr List.countP_le_length, ?_⟩
  intro k
  exact (covered k).trans List.countP_le_length

/-- What the exported families say about the calls of a run. -/
structure Conserved (as : List Action) (s : System F) : Prop where
  /-- The counter is ahead of the histogram by the requests between the two. -/
  ahead : ∀ k, s.metrics.requestsTotal.value k = s.metrics.requestDurationSeconds.sampleCount k +
    s.futures.countP fun f => f.state.between && f.triple == k
  agree : ∀ k, s.metrics.requestsTotal.value k = s.metrics.requestDurationSeconds.sampleCount k ↔
    ∀ f ∈ s.futures, f.state.between = true → f.triple ≠ k
  /-- The sum over all triples counts every recorded call once. -/
  total : s.metrics.requestsTotal.children.total id = s.futures.countP fun f => f.state.passedTotal
  once : ∀ k, s.metrics.requestsTotal.value k =
    s.futures.countP fun f => f.state.passedTotal && f.triple == k
  calls : s.futures.map (fun f => f.request) = as.filterMap Action.request?
  labels : ∀ i f, s.futures[i]? = some f → f.state.passedTotal = true →
    ∃ now result, .poll i now (.ready result) ∈ as ∧
      f.triple = [f.request.method, f.request.pathLabel, statusLabel result]
  durations : ∀ k, s.metrics.requestDurationSeconds.sampleCount k =
    s.futures.countP fun f => f.state.passedDuration && f.triple == k
  sizes : ∀ k, s.metrics.responseSizeBytes.sampleCount k =
    s.futures.countP fun f => f.state.passedSize && f.sizeLabels == k
  /-- Dropped and panicked requests are in none of these counts. -/
  abandoned : ∀ f ∈ s.futures, f.state.abandoned = true →
    f.state.passedTotal = false ∧ f.state.passedDuration = false ∧ f.state.passedSize = false

theorem requests_conserved {ns : String} {m : HttpMetrics F} {as : List Action} {s : System F}
    (each : LabelKey.OneChildEach) (built : HttpMetrics.new ns = .ok m)
    (h : Transition.run System.step (System.start m) as = some s) : Conserved as s := by
  have acc := Accounts.run (HttpMetrics.new_fresh built) h
  have history := History.run h
  have ahead : ∀ k, s.metrics.requestsTotal.value k =
      s.metrics.requestDurationSeconds.sampleCount k +
        s.futures.countP fun f => f.state.between && f.triple == k := by
    intro k
    rw [acc.total k (each.alone k), acc.duration k (each.alone k)]
    apply Population.countP_split
    intro f _
    have split := f.state.passedTotal_split
    cases f.triple == k
    · simp only [Bool.and_false, Bool.toNat_false]
    · simpa only [Bool.and_true] using split
  refine
    { ahead, agree := ?agree, total := ?total, once := fun k => acc.total k (each.alone k),
      calls := history.calls, labels := ?labels,
      durations := fun k => acc.duration k (each.alone k),
      sizes := fun k => acc.size k (each.alone k), abandoned := ?abandoned }
  case agree =>
    intro k
    rw [ahead, Nat.add_eq_left, List.countP_eq_zero]
    simp only [Bool.and_eq_true, beq_iff_eq, not_and, ne_eq]
  case total =>
    apply Family.total_eq_countP id 0 _ CallFuture.triple _ _ _
      fun f member passed => acc.created f member passed (each.alone _)
    intro k
    refine (acc.total k (each.alone k)).trans (List.countP_congr fun f _ => ?_)
    simp only [Bool.and_eq_true, beq_iff_eq]
  case labels =>
    intro i f found passed
    obtain ⟨result, known⟩ := FutureState.result?_of_passedTotal passed
    obtain ⟨now, given⟩ := history.answered i f result found known
    obtain ⟨method, path⟩ := acc.captured f (List.mem_of_getElem? found)
    refine ⟨now, result, given, ?_⟩
    simp only [CallFuture.triple, known, CallFuture.labels, method, path]
  case abandoned =>
    intro f _ ended
    cases state : f.state with
    | panicked | dropped => exact ⟨rfl, rfl, rfl⟩
    | created | awaiting | recording | completed =>
        rw [state] at ended
        cases ended

end

/-! ## Sizes -/

section
variable [Binary64 F]

/-- The size of a recorded response, if it has one. -/
def CallFuture.sizeEntry (f : CallFuture F) : Option (LabelValues × F) :=
  match f.state with
  | .completed result => (contentSize result).map fun len => (f.sizeLabels, len)
  | _ => none

def sizeEntries (futures : List (CallFuture F)) : Log F :=
  futures.filterMap CallFuture.sizeEntry

theorem sizeEntry_none {f : CallFuture F} (before : f.state.passedDuration = false) :
    f.sizeEntry = none := by
  unfold CallFuture.sizeEntry
  split
  · next result completed =>
      rw [completed] at before
      cases before
  · rfl

theorem sizeEntry_after (f : CallFuture F) (result : CallResult) (elapsed : F) (next : Update) :
    ({ f with state := .after result elapsed next } : CallFuture F).sizeEntry =
      if next = .size then (contentSize result).map fun len => (f.sizeLabels, len) else none := by
  cases next with
  | inFlight | total => rfl
  | size => rfl
  | duration =>
      cases size : (contentSize result : Option F) <;>
        simp [CallFuture.sizeEntry, FutureState.after, size]

variable [LabelKey]

/-- A step leaves the sizes alone, or observes the size of one more response. -/
theorem System.step_sizes {s s' : System F} {a : Action} (h : s.step a = some s') :
    (s'.metrics.responseSizeBytes = s.metrics.responseSizeBytes ∧
        (sizeEntries s'.futures).Perm (sizeEntries s.futures)) ∨
      ∃ (i : Nat) (f : CallFuture F) (result : CallResult) (len : F), s.futures[i]? = some f ∧
        f.state.result? = some result ∧ contentSize result = some len ∧
        s'.metrics.responseSizeBytes = s.metrics.responseSizeBytes.observe f.sizeLabels len ∧
        (sizeEntries s'.futures).Perm (sizeEntries s.futures ++ [(f.sizeLabels, len)]) := by
  cases System.step_effect h with
  | idle _ futures metrics =>
      rw [futures, metrics]
      exact .inl ⟨rfl, .refl _⟩
  | called _ f _ _ fresh _ futures metrics =>
      have unsized : f.sizeEntry = none := by
        apply sizeEntry_none
        rw [fresh]
        rfl
      rw [futures, metrics, sizeEntries, List.filterMap_append, List.filterMap_cons_none unsized,
        List.filterMap_nil, List.append_nil]
      exact .inl ⟨rfl, .refl _⟩
  | moved i f state found source target futures metrics =>
      have before := (FutureState.Unrecorded.source source).2.2.1
      have after : state.passedDuration = false := by
        rcases target with ⟨-, rfl⟩ | ⟨now, answer, -, rfl⟩
        · rfl
        · exact (FutureState.Unrecorded.resumed f.start now answer).2.2.1
      have same : ({ f with state } : CallFuture F).sizeEntry = f.sizeEntry := by
        rw [sizeEntry_none before, sizeEntry_none after]
      rw [futures, metrics, sizeEntries, Population.filterMap_replace_same _ found same]
      exact .inl ⟨rfl, .refl _⟩
  | recorded i f next result elapsed _ found source futures metrics =>
      have unsized : f.sizeEntry = none := by
        simp only [CallFuture.sizeEntry, source]
      have entered := Population.filterMap_entered
        (y := { f with state := .after result elapsed next }) found unsized
      rw [sizeEntry_after, ← futures] at entered
      cases next with
      | inFlight | total | duration =>
          refine .inl ⟨by rw [metrics, HttpMetrics.record], ?_⟩
          simpa [sizeEntries] using entered
      | size =>
          rw [if_pos rfl] at entered
          cases size : (contentSize result : Option F) with
          | none =>
              rw [size] at entered
              refine .inl ⟨by simp only [metrics, HttpMetrics.record, size], ?_⟩
              simpa [sizeEntries] using entered
          | some len =>
              rw [size] at entered
              have answered : f.state.result? = some result := by
                rw [source]
                rfl
              refine .inr ⟨i, f, result, len, found, answered, size, ?_, entered⟩
              simp only [metrics, HttpMetrics.record, size]

end

/-- Two interleaved requests, one of them between its two updates. -/
def interleaved : List Action :=
  [.layer, .call 0 ⟨"GET", some "/item/{id}", "/item/1"⟩ 0, .clone 0,
    .call 1 ⟨"PUT", none, "/raw"⟩ 1, .poll 1 3 (.ready (.error "refused")),
    .poll 0 4 (.ready (.ok ⟨⟨204, by decide, by decide⟩, none⟩)), .update 1, .update 0, .update 1,
    .scrape, .update 0, .update 0]

attribute [local instance] LabelKey.tuples in
theorem requests_conserved_interleaved :
    ∃ (m : HttpMetrics Exact) (s : System Exact), HttpMetrics.new "app" = .ok m ∧
      Transition.run System.step (System.start m) interleaved = some s ∧ Conserved interleaved s := by
  have built : HttpMetrics.new "app" = .ok (_ : HttpMetrics Exact) := rfl
  exact ⟨_, _, built, rfl, requests_conserved LabelKey.tuples_each built rfl⟩

end DrMetrix.Axum
