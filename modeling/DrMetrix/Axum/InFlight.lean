import DrMetrix.Axum.Accounting

/-! # The in-flight gauge

`call` increments the gauge at once, while the decrement is code behind the
await of the returned future. A future which is dropped there, or whose inner
future panics, never reaches it, so the gauge is the number of live futures plus
the number of abandoned ones.
-/

namespace DrMetrix.Axum

variable {F : Type}

/-- No poll is executing. -/
def System.Quiet (s : System F) : Prop := ∀ f ∈ s.futures, f.state.polling = false

/-- The step ends a live future without running its recording sequence. -/
def Action.abandons : Action → Bool
  | .drop _ => true
  | .poll _ _ .panic => true
  | _ => false

def System.liveFutures (s : System F) : Nat := s.futures.countP fun f => f.state.live

def System.abandonedFutures (s : System F) : Nat := s.futures.countP fun f => f.state.abandoned

section
variable [Binary64 F]

theorem FutureState.abandoned_resumed (start now : Nat) (answer : InnerPoll) (i : Nat) :
    (FutureState.resumed start now answer : FutureState F).abandoned =
      (Action.poll i now answer).abandons := by
  cases answer <;> rfl

theorem FutureState.abandoned_after (result : CallResult) (elapsed : F) (next : Update) :
    (FutureState.after result elapsed next).abandoned = false := by
  cases next with
  | inFlight | total | size => rfl
  | duration =>
      cases size : (contentSize result : Option F) <;> simp [after, size, abandoned]

variable [Prometheus.LabelKey]

/-- Exactly the abandoning steps add to the abandoned futures. -/
theorem System.step_abandoned {s s' : System F} {a : Action} (h : s.step a = some s') :
    s'.abandonedFutures = s.abandonedFutures + a.abandons.toNat := by
  unfold System.abandonedFutures
  cases System.step_effect h with
  | idle action futures _ =>
      have harmless : a.abandons = false := by
        cases a with
        | poll | drop => cases action
        | _ => rfl
      rw [futures, harmless, Bool.toNat_false, Nat.add_zero]
  | called m f now action fresh _ futures _ =>
      rw [futures, Population.countP_join, fresh, action]
      rfl
  | moved i f state found source target futures _ =>
      have before : f.state.abandoned = false := by
        rcases source with created | awaiting
        · rw [created]; rfl
        · rw [awaiting]; rfl
      have after : state.abandoned = a.abandons := by
        rcases target with ⟨rfl, rfl⟩ | ⟨now, answer, rfl, rfl⟩
        · rfl
        · exact FutureState.abandoned_resumed f.start now answer i
      have balance := Population.countP_replace (fun f => f.state.abandoned) found { f with state }
      rw [futures, ← after]
      simpa only [before, Bool.toNat_false, Nat.add_zero] using balance
  | recorded i f next result elapsed action found source futures _ =>
      rw [futures, action]
      apply Population.countP_replace_same _ found
      rw [FutureState.abandoned_after, source]
      rfl

/-- While no poll is executing, the gauge counts live and abandoned futures. -/
theorem Accounts.gauge_quiet {s : System F} (acc : Accounts s) (quiet : s.Quiet) :
    s.metrics.requestsInFlight.value = s.liveFutures + s.abandonedFutures := by
  have split : s.futures.countP (fun f => f.state.holdsGauge) =
      s.liveFutures + s.abandonedFutures := by
    apply Population.countP_split
    intro f member
    have still := quiet f member
    cases state : f.state <;> simp [FutureState.polling, state] at still <;> rfl
  rw [acc.inFlight, split, Nat.cast_add]

/-- The gauge equals the number of futures which are neither completed, nor
    panicked, nor dropped, exactly as long as no step abandoned a future. -/
theorem requestsInFlight_exact_iff {ns : String} {m : HttpMetrics F} {as : List Action}
    {s : System F} (built : HttpMetrics.new ns = .ok m)
    (h : Transition.run System.step (System.start m) as = some s) (quiet : s.Quiet) :
    s.metrics.requestsInFlight.value = s.liveFutures ↔ ∀ a ∈ as, a.abandons = false := by
  have gauge := (Accounts.run (HttpMetrics.new_fresh built) h).gauge_quiet quiet
  have exact_step : ∀ (s : System F) (a : Action) (s' : System F), True →
      System.step s a = some s' →
        (s'.abandonedFutures = 0 ↔ s.abandonedFutures = 0 ∧ a.abandons = false) := by
    intro s a s' _ taken
    rw [System.step_abandoned taken, Nat.add_eq_zero_iff]
    cases a.abandons <;> simp
  have exactly : s.abandonedFutures = 0 ↔ (System.start m).abandonedFutures = 0 ∧
      Transition.StepsMeet System.step (fun _ a => a.abandons = false) (System.start m) as :=
    Transition.run_iff (fun _ _ _ _ _ => trivial) exact_step trivial h
  rw [gauge, ← Transition.stepsMeet_forall h]
  constructor
  · intro same
    exact (exactly.mp (by omega)).2
  · intro meets
    have none : s.abandonedFutures = 0 := exactly.mpr ⟨rfl, meets⟩
    rw [none, Nat.cast_zero, add_zero]

end

section
attribute [local instance] Prometheus.LabelKey.tuples

/-- A request which the client abandons leaves the gauge at one for good. -/
def abandonedRequest : List Action :=
  [.layer, .call 0 ⟨"GET", some "/slow", "/slow"⟩ 0, .poll 0 1 .pending, .drop 0]

def servedRequest : List Action :=
  [.layer, .call 0 ⟨"GET", none, "/"⟩ 0, .poll 0 5 (.ready (.error "refused")), .update 0,
    .update 0, .update 0]

theorem requestsInFlight_exact_served :
    ∃ (m : HttpMetrics Exact) (s : System Exact), HttpMetrics.new "app" = .ok m ∧
      Transition.run System.step (System.start m) servedRequest = some s ∧ s.Quiet ∧
        s.metrics.requestsInFlight.value = s.liveFutures := by
  have built : HttpMetrics.new "app" = .ok (_ : HttpMetrics Exact) := rfl
  have kept : ∀ a ∈ servedRequest, a.abandons = false := by decide
  refine ⟨_, _, built, rfl, ?quiet, (requestsInFlight_exact_iff built rfl ?quiet).mpr kept⟩
  intro f member
  obtain rfl := List.mem_singleton.mp member
  rfl

theorem requestsInFlight_exact_fails :
    ∃ (m : HttpMetrics Exact) (s : System Exact), HttpMetrics.new "app" = .ok m ∧
      Transition.run System.step (System.start m) abandonedRequest = some s ∧ s.Quiet ∧
        s.liveFutures = 0 ∧ s.metrics.requestsInFlight.value = 1 := by
  refine ⟨_, _, rfl, rfl, ?_, rfl, rfl⟩
  intro f member
  obtain rfl := List.mem_singleton.mp member
  rfl

end

end DrMetrix.Axum
