import DrMetrix.Axum.Recording

/-! # Latencies

The duration of a request runs from its `call` to the poll in which the inner
future is ready. Both instants are those of actions of the run, so the elapsed
time which a future carries is a function of the run and of its own number.
-/

namespace DrMetrix.Axum

open Prometheus

variable {F : Type}

def Action.calledAt? : Action → Option Nat
  | .call _ _ now => some now
  | _ => none

/-- The instant at which the inner future of this future was ready. -/
def Action.readyAt? (future : Nat) : Action → Option Nat
  | .poll i now (.ready _) => if i = future then some now else none
  | _ => none

/-- Nanoseconds between the two. -/
def latency (as : List Action) (future : Nat) : Option Nat :=
  ((as.filterMap Action.calledAt?)[future]?).bind fun called =>
    (as.findSome? (Action.readyAt? future)).map fun ready => ready - called

/-- What the run determines, it determines for good. -/
theorem latency_append {as : List Action} {future nanos : Nat}
    (known : latency as future = some nanos) (bs : List Action) :
    latency (as ++ bs) future = some nanos := by
  obtain ⟨called, at_call, rest⟩ := Option.bind_eq_some_iff.mp known
  obtain ⟨ready, at_ready, rfl⟩ := Option.map_eq_some_iff.mp rest
  have inside := (List.getElem?_eq_some_iff.mp at_call).1
  simp only [latency, List.filterMap_append, List.getElem?_append_left inside, at_call,
    List.findSome?_append, at_ready, Option.some_or, Option.bind_some, Option.map_some]

def FutureState.elapsed? : FutureState F → Option F
  | .recording _ _ elapsed => some elapsed
  | _ => none

variable [Binary64 F]

/-- The futures against the instants of the run. -/
structure Timed (as : List Action) (s : System F) : Prop where
  starts : s.futures.map (fun f => f.start) = as.filterMap Action.calledAt?
  /-- Nothing is ready before its poll, nor before its call. -/
  pending : ∀ i, (∀ f ∈ s.futures[i]?, f.state = .created ∨ f.state = .awaiting) →
    as.findSome? (Action.readyAt? i) = none
  known : ∀ i f, s.futures[i]? = some f → f.state.result?.isSome →
    ∃ nanos, latency as i = some nanos ∧
      ∀ elapsed, f.state.elapsed? = some elapsed → elapsed = Binary64.ofNanos nanos

theorem System.step_starts [LabelKey] {s s' : System F} {a : Action} (h : s.step a = some s') :
    s'.futures.map (fun f => f.start) =
      s.futures.map (fun f => f.start) ++ a.calledAt?.toList := by
  have plain : ∀ i f state, s.futures[i]? = some f → s'.futures = s.futures.set i { f with state } →
      s'.futures.map (fun f => f.start) = s.futures.map (fun f => f.start) := by
    intro i f state found futures
    rw [futures]
    exact Population.map_replace (fun f => f.start) found { f with state } rfl
  cases System.step_effect h with
  | idle action futures _ =>
      have noCall : a.calledAt? = none := by
        cases a with
        | call => cases action
        | _ => rfl
      rw [futures, noCall, Option.toList_none, List.append_nil]
  | called m f now action _ _ _ _ =>
      subst action
      obtain ⟨svc, -, rfl⟩ := Option.map_eq_some_iff.mp h
      simp [System.call, Action.calledAt?]
  | moved i f state found _ target futures _ =>
      have noCall : a.calledAt? = none := by
        rcases target with ⟨rfl, -⟩ | ⟨now, answer, rfl, -⟩ <;> rfl
      rw [plain i f state found futures, noCall, Option.toList_none, List.append_nil]
  | recorded i f next result elapsed action found _ futures _ =>
      rw [plain i f _ found futures, action]
      exact (List.append_nil _).symm

omit [Binary64 F] in
theorem FutureState.result?_source {state : FutureState F}
    (h : state = .created ∨ state = .awaiting) : state.result? = none := by
  rcases h with rfl | rfl <;> rfl

theorem Action.readyAt?_resumed (i : Nat) {now start : Nat} {answer : InnerPoll}
    (done : (FutureState.resumed start now answer : FutureState F).result?.isSome) :
    (Action.poll i now answer).readyAt? i = some now ∧
      (FutureState.resumed start now answer : FutureState F).elapsed? =
        some (Binary64.ofNanos (now - start)) := by
  cases answer with
  | ready result => exact ⟨by simp [Action.readyAt?], rfl⟩
  | pending => cases done
  | panic => cases done

theorem FutureState.elapsed?_after {result : CallResult} {elapsed e : F} {next : Update}
    (h : (FutureState.after result elapsed next).elapsed? = some e) : e = elapsed := by
  cases next with
  | inFlight | total => exact (Option.some.inj h).symm
  | size => cases h
  | duration =>
      cases size : (contentSize result : Option F) with
      | none => simp [after, size, elapsed?] at h
      | some len => simpa [after, size, elapsed?] using h.symm

omit [Binary64 F] in
theorem readyAt?_concat (as : List Action) (a : Action) (i : Nat) :
    (as ++ [a]).findSome? (Action.readyAt? i) =
      (as.findSome? (Action.readyAt? i)).or (a.readyAt? i) := by
  simp [List.findSome?_append]

/-! ## One step -/

section
variable {as : List Action} {s s' : System F} {a : Action}

theorem Timed.starts_step [LabelKey] (timed : Timed as s) (h : s.step a = some s') :
    s'.futures.map (fun f => f.start) = (as ++ [a]).filterMap Action.calledAt? := by
  rw [System.step_starts h, timed.starts, List.filterMap_append, List.filterMap_cons]
  cases a.calledAt? <;> rfl

/-- What is known of a future stays known. -/
theorem Timed.known_append (timed : Timed as s) (bs : List Action) {i : Nat} {f : CallFuture F}
    (found : s.futures[i]? = some f) (done : f.state.result?.isSome) :
    ∃ nanos, latency (as ++ bs) i = some nanos ∧
      ∀ elapsed, f.state.elapsed? = some elapsed → elapsed = Binary64.ofNanos nanos := by
  obtain ⟨nanos, measured, same⟩ := timed.known i f found done
  exact ⟨nanos, latency_append measured bs, same⟩

variable (timed : Timed as s)
  (starts : s'.futures.map (fun f => f.start) = (as ++ [a]).filterMap Action.calledAt?)
include timed starts

theorem Timed.idle (action : a.onFuture = false) (futures : s'.futures = s.futures) :
    Timed (as ++ [a]) s' := by
  have noPoll : ∀ i, a.readyAt? i = none := by
    intro i
    cases a with
    | poll => cases action
    | _ => rfl
  refine ⟨starts, ?_, ?_⟩
  · intro i waiting
    rw [futures] at waiting
    rw [readyAt?_concat, timed.pending i waiting, noPoll, Option.none_or]
  · intro i f found done
    rw [futures] at found
    exact timed.known_append [a] found done

theorem Timed.called {m now : Nat} {f : CallFuture F} (action : a = .call m f.request now)
    (fresh : f.state = .created) (futures : s'.futures = s.futures ++ [f]) :
    Timed (as ++ [a]) s' := by
  refine ⟨starts, ?_, ?_⟩
  · intro i waiting
    have before : ∀ g ∈ s.futures[i]?, g.state = .created ∨ g.state = .awaiting := by
      intro g member
      apply waiting g
      rw [futures]
      exact Population.getElem?_join member
    rw [readyAt?_concat, timed.pending i before, action]
    rfl
  · intro i g found done
    rw [futures] at found
    rcases Population.of_getElem?_join found with old | ⟨-, rfl⟩
    · exact timed.known_append [a] old done
    · rw [fresh] at done
      cases done

/-- A poll with an answer makes the latency of its future known. -/
theorem Timed.answered {i now : Nat} {answer : InnerPoll} {f : CallFuture F}
    (found : s.futures[i]? = some f) (source : f.state = .created ∨ f.state = .awaiting)
    (action : a = .poll i now answer)
    (futures : s'.futures = s.futures.set i { f with state := .resumed f.start now answer })
    (done : (FutureState.resumed f.start now answer : FutureState F).result?.isSome) :
    latency (as ++ [a]) i = some (now - f.start) := by
  have unready : as.findSome? (Action.readyAt? i) = none := by
    apply timed.pending
    intro g member
    obtain rfl := Option.some.inj (found.symm.trans member)
    exact source
  have start : ((as ++ [a]).filterMap Action.calledAt?)[i]? = some f.start := by
    rw [← starts, futures, List.getElem?_map, Population.getElem?_replace found]
    simp
  rw [latency, start, readyAt?_concat, unready, action, (Action.readyAt?_resumed i done).1]
  rfl

theorem Timed.moved {i : Nat} {f : CallFuture F} {state : FutureState F}
    (found : s.futures[i]? = some f) (source : f.state = .created ∨ f.state = .awaiting)
    (target : a = .drop i ∧ state = .dropped ∨
      ∃ now answer, a = .poll i now answer ∧ state = .resumed f.start now answer)
    (futures : s'.futures = s.futures.set i { f with state }) : Timed (as ++ [a]) s' := by
  have unready : ∀ j, (∀ g ∈ s'.futures[j]?, g.state = .created ∨ g.state = .awaiting) →
      a.readyAt? j = none := by
    intro j waiting
    rcases target with ⟨rfl, -⟩ | ⟨now, answer, rfl, rfl⟩
    · rfl
    · rw [futures, Population.getElem?_replace found] at waiting
      cases answer with
      | pending | panic => rfl
      | ready result =>
          by_cases here : i = j
          · have still := waiting { f with state := .resumed f.start now (.ready result) }
              (if_pos here)
            simp [FutureState.resumed] at still
          · simp [Action.readyAt?, here]
  refine ⟨starts, ?_, ?_⟩
  · intro j waiting
    have before : ∀ g ∈ s.futures[j]?, g.state = .created ∨ g.state = .awaiting := by
      intro g member
      by_cases here : i = j
      · subst here
        obtain rfl := Option.some.inj (found.symm.trans member)
        exact source
      · apply waiting g
        rw [futures, Population.getElem?_replace found, if_neg here]
        exact member
    rw [readyAt?_concat, timed.pending j before, unready j waiting, Option.none_or]
  · intro j g at_j done
    rw [futures, Population.getElem?_replace found] at at_j
    by_cases here : i = j
    · subst here
      rw [if_pos rfl] at at_j
      obtain rfl := Option.some.inj at_j
      rcases target with ⟨-, rfl⟩ | ⟨now, answer, action, rfl⟩
      · cases done
      · refine ⟨now - f.start, timed.answered starts found source action futures done, ?_⟩
        intro e same
        rw [(Action.readyAt?_resumed i done).2] at same
        exact (Option.some.inj same).symm
    · rw [if_neg here] at at_j
      exact timed.known_append [a] at_j done

/-- An update keeps the answer and the elapsed time of its future. -/
theorem Timed.recorded {i : Nat} {f : CallFuture F} {next : Update} {result : CallResult}
    {elapsed : F} (action : a = .update i) (found : s.futures[i]? = some f)
    (source : f.state = .recording next result elapsed)
    (futures : s'.futures = s.futures.set i { f with state := .after result elapsed next }) :
    Timed (as ++ [a]) s' := by
  obtain ⟨-, -, -, -, kept⟩ := FutureState.after_positions result elapsed next
  refine ⟨starts, ?_, ?_⟩
  · intro j waiting
    rw [futures, Population.getElem?_replace found] at waiting
    by_cases here : i = j
    · rw [if_pos here] at waiting
      have none := FutureState.result?_source (waiting _ rfl)
      cases kept.symm.trans none
    · rw [if_neg here] at waiting
      rw [readyAt?_concat, timed.pending j waiting, action]
      rfl
  · intro j g at_j done
    rw [futures, Population.getElem?_replace found] at at_j
    by_cases here : i = j
    · subst here
      rw [if_pos rfl] at at_j
      obtain rfl := Option.some.inj at_j
      obtain ⟨nanos, measured, same⟩ := timed.known_append [a] found (by rw [source]; rfl)
      refine ⟨nanos, measured, ?_⟩
      intro e shown
      rw [FutureState.elapsed?_after shown]
      exact same elapsed (by rw [source]; rfl)
    · rw [if_neg here] at at_j
      exact timed.known_append [a] at_j done

end

variable [LabelKey]

theorem Timed.step {as : List Action} {s s' : System F} {a : Action} (timed : Timed as s)
    (h : s.step a = some s') : Timed (as ++ [a]) s' := by
  have starts := timed.starts_step h
  cases System.step_effect h with
  | idle action futures _ => exact timed.idle starts action futures
  | called m f now action fresh _ futures _ => exact timed.called starts action fresh futures
  | moved i f state found source target futures _ =>
      exact timed.moved starts found source target futures
  | recorded i f next result elapsed action found source futures _ =>
      exact timed.recorded starts action found source futures

theorem Timed.run {m : HttpMetrics F} {as : List Action} {s : System F}
    (h : Transition.run System.step (System.start m) as = some s) : Timed as s := by
  apply Transition.run_history (fun _ _ _ _ timed taken => Timed.step timed taken) _ h
  exact ⟨rfl, fun i waiting => rfl, fun i f found => nomatch found⟩

end DrMetrix.Axum
