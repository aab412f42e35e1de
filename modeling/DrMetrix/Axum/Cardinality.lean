import DrMetrix.Axum.Recording
import Mathlib.Data.Finset.Prod
import Mathlib.Order.Interval.Finset.Nat

/-! # The number of series

A series is created on first use and never removed. Its labels are the method,
the path label and the status of one request of the run, so the families grow
with the methods and the raw paths which the peers choose, and with nothing else.
-/

namespace DrMetrix.Axum

open Prometheus

variable {F : Type}

/-- A matched path is one of the route templates. -/
def Request.Routed (templates : Finset String) (req : Request) : Prop :=
  ∀ path, req.matchedPath = some path → path ∈ templates

/-- The labels under which a request is recorded. -/
def Request.labels (req : Request) (result : CallResult) : LabelValues :=
  [req.method, req.pathLabel, statusLabel result]

def Request.sizeLabels (req : Request) : LabelValues := [req.method, req.pathLabel]

/-- The requests of a run, in order. -/
def requests (as : List Action) : List Request := as.filterMap Action.request?

/-- The different methods of a run. -/
def methods (as : List Action) : Finset String :=
  ((requests as).map fun req => req.method).toFinset

/-- The different URI paths of the requests which no route matched. -/
def rawPaths (as : List Action) : Finset String :=
  (((requests as).filter fun req => req.matchedPath.isNone).map fun req => req.uriPath).toFinset

/-- What the path label of a run can be. -/
def pathLabels (templates : Finset String) (as : List Action) : Finset String :=
  templates ∪ rawPaths as

/-- The status labels. -/
def statuses : Finset String := (Finset.Ico 100 1000).image fun code => toString code

/-! ## Where the labels come from -/

theorem requests_append (as bs : List Action) :
    requests (as ++ bs) = requests as ++ requests bs :=
  List.filterMap_append

/-- Every key carries the labels of a request of the run. -/
def Originates (as : List Action) (labels : Request → LabelValues → Prop)
    (keys : List LabelValues) : Prop :=
  ∀ k ∈ keys, ∃ req ∈ requests as, labels req k

def Request.Triple (req : Request) (k : LabelValues) : Prop := ∃ result, k = req.labels result

def Request.Pair (req : Request) (k : LabelValues) : Prop := k = req.sizeLabels

/-- Every series originates from a request of the run. -/
structure Originated (as : List Action) (s : System F) : Prop where
  total : Originates as Request.Triple s.metrics.requestsTotal.children.keys
  duration : Originates as Request.Triple s.metrics.requestDurationSeconds.children.keys
  size : Originates as Request.Pair s.metrics.responseSizeBytes.children.keys

theorem Originates.append {as : List Action} {labels : Request → LabelValues → Prop}
    {keys : List LabelValues} (origin : Originates as labels keys) (bs : List Action) :
    Originates (as ++ bs) labels keys := by
  intro k created
  obtain ⟨req, called, carried⟩ := origin k created
  refine ⟨req, ?_, carried⟩
  rw [requests_append]
  exact List.mem_append_left _ called

theorem Originates.extend {as : List Action} {labels : Request → LabelValues → Prop}
    {keys keys' : List LabelValues} {req : Request} {new : LabelValues}
    (origin : Originates as labels keys) (called : req ∈ requests as) (carried : labels req new)
    (created : ∀ k ∈ keys', k = new ∨ k ∈ keys) : Originates as labels keys' := by
  intro k member
  rcases created k member with rfl | old
  · exact ⟨req, called, carried⟩
  · exact origin k old

theorem Originated.append {as : List Action} {s : System F} (origin : Originated as s)
    (bs : List Action) : Originated (as ++ bs) s :=
  ⟨origin.total.append bs, origin.duration.append bs, origin.size.append bs⟩

theorem Originated.same {as : List Action} {s s' : System F} (origin : Originated as s)
    (total : s'.metrics.requestsTotal = s.metrics.requestsTotal)
    (duration : s'.metrics.requestDurationSeconds = s.metrics.requestDurationSeconds)
    (size : s'.metrics.responseSizeBytes = s.metrics.responseSizeBytes) : Originated as s' := by
  obtain ⟨byTotal, byDuration, bySize⟩ := origin
  constructor
  · rwa [total]
  · rwa [duration]
  · rwa [size]

theorem Originated.start {m : HttpMetrics F} (fresh : m.Fresh) :
    Originated [] (System.start m) := by
  obtain ⟨total, duration, -, size⟩ := fresh
  constructor <;> simp [System.start, Originates, total, duration, size]

section
variable [Binary64 F] [LabelKey]

/-- An update creates no series but the ones of its future. -/
theorem HttpMetrics.record_keys (m : HttpMetrics F) (f : CallFuture F) (result : CallResult)
    (elapsed : F) (next : Update) (k : LabelValues) :
    (k ∈ (m.record f result elapsed next).requestsTotal.children.keys →
        k = f.labels result ∨ k ∈ m.requestsTotal.children.keys) ∧
      (k ∈ (m.record f result elapsed next).requestDurationSeconds.children.keys →
        k = f.labels result ∨ k ∈ m.requestDurationSeconds.children.keys) ∧
      (k ∈ (m.record f result elapsed next).responseSizeBytes.children.keys →
        k = f.sizeLabels ∨ k ∈ m.responseSizeBytes.children.keys) := by
  cases next with
  | inFlight => exact ⟨.inr, .inr, .inr⟩
  | total => exact ⟨IntCounterVec.keys_inc _ _ k, .inr, .inr⟩
  | duration => exact ⟨.inr, HistogramVec.keys_observe _ _ elapsed k, .inr⟩
  | size =>
      cases size : (contentSize result : Option F) with
      | none =>
          simp only [HttpMetrics.record, size]
          exact ⟨.inr, .inr, .inr⟩
      | some len =>
          simp only [HttpMetrics.record, size]
          exact ⟨.inr, .inr, HistogramVec.keys_observe _ _ len k⟩

theorem Originated.recorded {as : List Action} {s s' : System F} {f : CallFuture F}
    {result : CallResult} {elapsed : F} {next : Update} (origin : Originated as s)
    (called : f.request ∈ requests as)
    (captured : f.method = f.request.method ∧ f.path = f.request.pathLabel)
    (metrics : s'.metrics = s.metrics.record f result elapsed next) : Originated as s' := by
  obtain ⟨method, path⟩ := captured
  have triple : f.request.Triple (f.labels result) := by
    refine ⟨result, ?_⟩
    simp only [CallFuture.labels, Request.labels, method, path]
  have pair : f.request.Pair f.sizeLabels := by
    simp only [Request.Pair, CallFuture.sizeLabels, Request.sizeLabels, method, path]
  have created := s.metrics.record_keys f result elapsed next
  rw [← metrics] at created
  exact ⟨origin.total.extend called triple fun k => (created k).1,
    origin.duration.extend called triple fun k => (created k).2.1,
    origin.size.extend called pair fun k => (created k).2.2⟩

theorem Originated.step {as : List Action} {s s' : System F} {a : Action} (acc : Accounts s)
    (history : History as s) (origin : Originated as s) (h : s.step a = some s') :
    Originated (as ++ [a]) s' := by
  have before : Originated (as ++ [a]) s := origin.append [a]
  cases System.step_effect h with
  | idle _ _ metrics => exact before.same (by rw [metrics]) (by rw [metrics]) (by rw [metrics])
  | called _ _ _ _ _ _ _ metrics =>
      exact before.same (by rw [metrics]) (by rw [metrics]) (by rw [metrics])
  | moved _ _ _ _ _ _ _ metrics =>
      exact before.same (by rw [metrics]) (by rw [metrics]) (by rw [metrics])
  | recorded i f next result elapsed action found source futures metrics =>
      have member : f ∈ s.futures := List.mem_of_getElem? found
      have called : f.request ∈ requests as := by
        rw [requests, ← history.calls]
        exact List.mem_map_of_mem member
      apply Originated.recorded before _ (acc.captured f member) metrics
      rw [requests_append]
      exact List.mem_append_left _ called

theorem Originated.run {m : HttpMetrics F} {as : List Action} {s : System F} (fresh : m.Fresh)
    (h : Transition.run System.step (System.start m) as = some s) : Originated as s := by
  have each : ∀ (as : List Action) (s : System F) (a : Action) (s' : System F),
      Accounts s ∧ History as s ∧ Originated as s → s.step a = some s' →
        Accounts s' ∧ History (as ++ [a]) s' ∧ Originated (as ++ [a]) s' := by
    rintro as s a s' ⟨acc, history, origin⟩ taken
    exact ⟨acc.step taken, history.step taken, origin.step acc history taken⟩
  have start : Accounts (System.start m) ∧ History [] (System.start m) ∧
      Originated [] (System.start m) :=
    ⟨.start fresh, History.run rfl, .start fresh⟩
  exact (Transition.run_history each start h).2.2

end

/-! ## How many there are -/

theorem card_statuses : statuses.card ≤ 900 := by
  have range : (Finset.Ico 100 1000).card = 900 := Nat.card_Ico 100 1000
  exact range ▸ Finset.card_image_le

theorem statusLabel_mem (result : CallResult) : statusLabel result ∈ statuses := by
  cases result with
  | ok response =>
      have inside : response.status.code ∈ Finset.Ico 100 1000 :=
        Finset.mem_Ico.mpr ⟨response.status.lower, response.status.upper⟩
      exact Finset.mem_image_of_mem _ inside
  | error e =>
      have inside : 500 ∈ Finset.Ico 100 1000 := by simp
      exact Finset.mem_image_of_mem (fun code : Nat => toString code) inside

theorem method_mem {as : List Action} {req : Request} (called : req ∈ requests as) :
    req.method ∈ methods as :=
  List.mem_toFinset.mpr (List.mem_map_of_mem called)

/-- The path label is a template, or the raw path of an unmatched request. -/
theorem pathLabel_mem {templates : Finset String} {as : List Action} {req : Request}
    (called : req ∈ requests as) (routed : req.Routed templates) :
    req.pathLabel ∈ pathLabels templates as := by
  cases path : req.matchedPath with
  | some path' =>
      have template : path' ∈ templates := routed path' path
      simp [Request.pathLabel, path, pathLabels, template]
  | none =>
      have raw : req.uriPath ∈ rawPaths as := by
        apply List.mem_toFinset.mpr
        apply List.mem_map_of_mem
        simp [called, path]
      simp [Request.pathLabel, path, pathLabels, raw]

theorem card_pathLabels (templates : Finset String) (as : List Action) :
    (pathLabels templates as).card ≤ templates.card + (rawPaths as).card :=
  Finset.card_union_le templates (rawPaths as)

/-- The tuples of a method, a path label and a status. -/
def triples (templates : Finset String) (as : List Action) : Finset LabelValues :=
  ((methods as ×ˢ pathLabels templates as) ×ˢ statuses).image fun t => [t.1.1, t.1.2, t.2]

/-- The tuples of a method and a path label. -/
def pairs (templates : Finset String) (as : List Action) : Finset LabelValues :=
  (methods as ×ˢ pathLabels templates as).image fun t => [t.1, t.2]

theorem card_pairs (templates : Finset String) (as : List Action) :
    (pairs templates as).card ≤ (methods as).card * (templates.card + (rawPaths as).card) := by
  calc (pairs templates as).card
      ≤ (methods as ×ˢ pathLabels templates as).card := Finset.card_image_le
    _ = (methods as).card * (pathLabels templates as).card := Finset.card_product _ _
    _ ≤ (methods as).card * (templates.card + (rawPaths as).card) :=
        Nat.mul_le_mul_left _ (card_pathLabels templates as)

theorem card_triples (templates : Finset String) (as : List Action) :
    (triples templates as).card ≤
      (methods as).card * (templates.card + (rawPaths as).card) * 900 := by
  calc (triples templates as).card
      ≤ ((methods as ×ˢ pathLabels templates as) ×ˢ statuses).card := Finset.card_image_le
    _ = (methods as).card * (pathLabels templates as).card * statuses.card := by
        rw [Finset.card_product, Finset.card_product]
    _ ≤ (methods as).card * (templates.card + (rawPaths as).card) * 900 :=
        Nat.mul_le_mul (Nat.mul_le_mul_left _ (card_pathLabels templates as)) card_statuses

theorem labels_mem_triples {templates : Finset String} {as : List Action} {req : Request}
    (called : req ∈ requests as) (routed : req.Routed templates) (result : CallResult) :
    req.labels result ∈ triples templates as := by
  apply Finset.mem_image.mpr
  refine ⟨((req.method, req.pathLabel), statusLabel result), ?_, rfl⟩
  simp [method_mem called, pathLabel_mem called routed, statusLabel_mem result]

theorem sizeLabels_mem_pairs {templates : Finset String} {as : List Action} {req : Request}
    (called : req ∈ requests as) (routed : req.Routed templates) :
    req.sizeLabels ∈ pairs templates as := by
  apply Finset.mem_image.mpr
  refine ⟨(req.method, req.pathLabel), ?_, rfl⟩
  simp [method_mem called, pathLabel_mem called routed]

/-- However long the run, the series are bounded by the templates, the methods
    and the raw paths of unmatched requests. -/
theorem series_bounded [Binary64 F] [LabelKey] {ns : String} {m : HttpMetrics F}
    {as : List Action} {s : System F}
    {templates : Finset String} (built : HttpMetrics.new ns = .ok m)
    (h : Transition.run System.step (System.start m) as = some s)
    (routed : ∀ req ∈ requests as, req.Routed templates) :
    s.metrics.requestsTotal.children.keys.length ≤
        (methods as).card * (templates.card + (rawPaths as).card) * 900 ∧
      s.metrics.requestDurationSeconds.children.keys.length ≤
        (methods as).card * (templates.card + (rawPaths as).card) * 900 ∧
      s.metrics.responseSizeBytes.children.keys.length ≤
        (methods as).card * (templates.card + (rawPaths as).card) := by
  have origin := Originated.run (HttpMetrics.new_fresh built) h
  have inTriples : ∀ keys, Originates as Request.Triple keys →
      ∀ k ∈ keys, k ∈ triples templates as := by
    intro keys origin k created
    obtain ⟨req, called, result, rfl⟩ := origin k created
    exact labels_mem_triples called (routed req called) result
  have inPairs : ∀ k ∈ s.metrics.responseSizeBytes.children.keys, k ∈ pairs templates as := by
    intro k created
    obtain ⟨req, called, rfl⟩ := origin.size k created
    exact sizeLabels_mem_pairs called (routed req called)
  refine ⟨?_, ?_, ?_⟩
  · exact (Family.length_keys_le (inTriples _ origin.total)).trans (card_triples templates as)
  · exact (Family.length_keys_le (inTriples _ origin.duration)).trans (card_triples templates as)
  · exact (Family.length_keys_le inPairs).trans (card_pairs templates as)

attribute [local instance] LabelKey.tuples in
theorem series_bounded_interleaved :
    ∃ (m : HttpMetrics Exact) (s : System Exact), HttpMetrics.new "app" = .ok m ∧
      Transition.run System.step (System.start m) interleaved = some s ∧
        s.metrics.requestsTotal.children.keys.length ≤ 2 * (1 + 1) * 900 ∧
        s.metrics.requestDurationSeconds.children.keys.length ≤ 2 * (1 + 1) * 900 ∧
        s.metrics.responseSizeBytes.children.keys.length ≤ 2 * (1 + 1) := by
  have built : HttpMetrics.new "app" = .ok (_ : HttpMetrics Exact) := rfl
  refine ⟨_, _, built, rfl, ?_⟩
  have routed : ∀ req ∈ requests interleaved, req.Routed {"/item/{id}"} := by
    intro req called path matched
    simp [requests, interleaved, Action.request?] at called
    rcases called with rfl | rfl
    · cases matched
      simp
    · cases matched
  have methodCount : (methods interleaved).card = 2 := by decide
  have pathCount : (rawPaths interleaved).card = 1 := by decide
  simpa only [methodCount, pathCount, Finset.card_singleton] using series_bounded built rfl routed

/-! ## Series without bound -/

section
attribute [local instance] LabelKey.tuples

def notFound : CallResult := .ok ⟨⟨404, by decide, by decide⟩, none⟩

/-- One request served from call to completion. -/
def served (i : Nat) (req : Request) : List Action :=
  [.call 0 req 0, .poll i 0 (.ready notFound), .update i, .update i, .update i]

/-- Requests served one after the other. -/
def servedAll : Nat → List Request → List Action
  | _, [] => []
  | i, req :: reqs => served i req ++ servedAll (i + 1) reqs

/-- No run whose requests all meet `P` creates more series than the bound. -/
def SeriesBound (P : Request → Prop) (bound : Nat) : Prop :=
  ∀ (m : HttpMetrics Exact) (as : List Action) (s : System Exact),
    HttpMetrics.new "app" = .ok m → Transition.run System.step (System.start m) as = some s →
      (∀ req ∈ requests as, P req) → s.metrics.requestsTotal.children.keys.length ≤ bound

/-- Serving a request counts it under its labels. -/
theorem run_served [Binary64 F] {s : System F} (wrapped : s.services ≠ []) (req : Request) :
    ∃ s', Transition.run System.step s (served s.futures.length req) = some s' ∧
      s'.services ≠ [] ∧ s'.futures.length = s.futures.length + 1 ∧
      s'.metrics.requestsTotal = s.metrics.requestsTotal.inc (req.labels notFound) := by
  obtain ⟨svc, rest, services⟩ := List.exists_cons_of_ne_nil wrapped
  refine ⟨?next, ?ran, ?_, ?_, ?_⟩
  case ran =>
      simp [Transition.run, served, notFound, System.step, services, System.call, System.poll,
        System.callInner, System.setState, FutureState.resumed, System.update, FutureState.after,
        contentSize, HttpMetrics.record]
      rfl
  · simp
  · simp
  · rfl

theorem run_servedAll [Binary64 F] {s : System F} (wrapped : s.services ≠ []) (reqs : List Request) :
    ∃ s', Transition.run System.step s (servedAll s.futures.length reqs) = some s' ∧
      ∀ k, k ∈ s'.metrics.requestsTotal.children.keys ↔
        k ∈ s.metrics.requestsTotal.children.keys ∨ ∃ req ∈ reqs, k = req.labels notFound := by
  induction reqs generalizing s with
  | nil => exact ⟨s, rfl, by simp⟩
  | cons req reqs ih =>
      obtain ⟨t, first, wrapped', longer, counted⟩ := run_served wrapped req
      obtain ⟨u, rest, keys⟩ := ih wrapped'
      refine ⟨u, ?_, ?_⟩
      · apply Transition.run_append_some.mpr
        exact ⟨t, first, longer ▸ rest⟩
      · intro k
        rw [keys, counted, IntCounterVec.mem_keys_inc (LabelKey.tuples_each.alone k),
          List.exists_mem_cons_iff]
        grind

theorem requests_servedAll (i : Nat) (reqs : List Request) :
    requests (servedAll i reqs) = reqs := by
  induction reqs generalizing i with
  | nil => rfl
  | cons req reqs ih =>
      rw [servedAll, requests_append, ih]
      rfl

/-- Infinitely many requests with different labels leave no bound. -/
theorem no_seriesBound {P : Request → Prop} (req : Nat → Request) (meets : ∀ n, P (req n))
    (different : Function.Injective fun n => (req n).labels notFound) :
    ¬ ∃ bound, SeriesBound P bound := by
  rintro ⟨bound, bounded⟩
  obtain ⟨m, built⟩ : ∃ m : HttpMetrics Exact, HttpMetrics.new "app" = .ok m := ⟨_, rfl⟩
  let reqs := (List.range (bound + 1)).map req
  have wrapped : (System.start m).addService.services ≠ [] := by simp [System.addService]
  obtain ⟨s, ran, keys⟩ := run_servedAll wrapped reqs
  have meetsAll : ∀ r ∈ requests (.layer :: servedAll 0 reqs), P r := by
    intro r member
    have called : r ∈ reqs := requests_servedAll 0 reqs ▸ member
    obtain ⟨n, -, rfl⟩ := List.mem_map.mp called
    exact meets n
  have few : s.metrics.requestsTotal.children.keys.length ≤ bound :=
    bounded m (.layer :: servedAll 0 reqs) s built ran meetsAll
  have many : ((Finset.range (bound + 1)).image fun n => (req n).labels notFound).card ≤
      s.metrics.requestsTotal.children.keys.length := by
    apply Family.le_length_keys
    intro k member
    obtain ⟨n, inside, rfl⟩ := Finset.mem_image.mp member
    have called : req n ∈ reqs :=
      List.mem_map_of_mem (List.mem_range.mpr (Finset.mem_range.mp inside))
    exact (keys _).mpr (.inr ⟨req n, called, rfl⟩)
  rw [Finset.card_image_of_injective _ different, Finset.card_range] at many
  omega

/-- `A`, `AA`, `AAA` and so on: methods which are tokens, and parts of paths. -/
def token (n : Nat) : String := String.ofList (List.replicate (n + 1) 'A')

theorem token_injective : Function.Injective token := by
  intro n k same
  have lengths := congrArg (fun t : String => t.toList.length) same
  simpa [token] using lengths

/-- Neither the raw paths of unmatched requests alone nor the methods of matched
    requests alone leave a bound, whatever bound is chosen for the templates. -/
theorem series_unbounded :
    (¬ ∃ bound, SeriesBound
        (fun req => req.Routed {"/item/{id}"} ∧ req.method = "GET") bound) ∧
      ¬ ∃ bound, SeriesBound
        (fun req => req.Routed {"/item/{id}"} ∧ req.matchedPath = some "/item/{id}") bound := by
  refine ⟨?raw, ?methods⟩
  case raw =>
      apply no_seriesBound fun n => ⟨"GET", none, "/" ++ token n⟩
      · intro n
        simp [Request.Routed]
      · intro n k same
        simp only [Request.labels, Request.pathLabel, Option.getD_none, List.cons.injEq, and_true,
          true_and] at same
        apply token_injective
        simpa using same
  case methods =>
      apply no_seriesBound fun n => ⟨token n, some "/item/{id}", "/item/1"⟩
      · intro n
        simp [Request.Routed]
      · intro n k same
        simp only [Request.labels, List.cons.injEq, and_true] at same
        exact token_injective same.1

end

end DrMetrix.Axum
