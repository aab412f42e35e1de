import DrMetrix.Prometheus.Registry

/-! # Collectors

The error type, the configuration and the collector trait which every backend
implements. Registration writes to the shared registry and returns early on the
first error, keeping what it wrote.
-/

namespace DrMetrix

inductive MetricsError where
  | prometheus (error : Prometheus.Error)
  | database (msg : String)
  | collector (msg : String)
  deriving DecidableEq, Repr

/-- `ns` is the namespace; the interval is in nanoseconds. -/
structure CollectorConfig where
  ns : String := ""
  collectInterval : Nat := 15 * 10 ^ 9
  constLabels : List (String × String) := []

/-- The `?` on a result of the prometheus client. -/
def orPrometheus {α : Type} : Except Prometheus.Error α → Except MetricsError α
  | .ok a => .ok a
  | .error e => .error (.prometheus e)

/-- A function which may return early and writes to the registry as it goes. -/
abbrev RegisterM := ExceptT MetricsError (StateM Prometheus.Registry)

/-- `registry.register(Box::new(metric.clone()))?`. -/
def register (d : Prometheus.Desc) : RegisterM Unit := fun r =>
  match r.register d with
  | .ok r' => (.ok (), r')
  | .error e => (.error (.prometheus e), r)

def registerAll : List Prometheus.Desc → RegisterM Unit
  | [] => pure ()
  | d :: ds => do
      register d
      registerAll ds

/-- The trait object which `add_collector` receives. -/
structure MetricsCollector where
  name : String
  register : RegisterM Unit

section
open Prometheus

/-- Take a fallible computation apart at its first `?`. -/
theorem bind_eq_ok {ε α β : Type} {x : Except ε α} {f : α → Except ε β} {b : β} :
    (x >>= f) = .ok b ↔ ∃ a, x = .ok a ∧ f a = .ok b := by
  cases x with
  | error e => simp [bind, Except.bind]
  | ok a => simp [bind, Except.bind]

theorem pure_eq_ok {ε α : Type} {a b : α} : (pure a : Except ε α) = .ok b ↔ a = b :=
  Except.ok.injEq a b ▸ Iff.rfl

theorem orPrometheus_ok {α : Type} {x : Except Error α} {a : α} :
    orPrometheus x = .ok a ↔ x = .ok a := by
  cases x <;> simp [orPrometheus]

theorem registerAll_cons (d : Desc) (ds : List Desc) (r : Registry) :
    registerAll (d :: ds) r =
      match r.register d with
      | .ok r' => registerAll ds r'
      | .error e => (.error (.prometheus e), r) := by
  change (do register d; registerAll ds : RegisterM Unit) r = _
  cases h : r.register d <;> simp only [register, h, bind, ExceptT.bind, ExceptT.mk, StateT.bind] <;> rfl

theorem registerAll_append (ds es : List Desc) :
    registerAll (ds ++ es) = (registerAll ds >>= fun _ => registerAll es) := by
  induction ds with
  | nil => exact (pure_bind () fun _ => registerAll es).symm
  | cons d ds ih =>
      rw [List.cons_append, registerAll, registerAll, bind_assoc, ih]

/-- Registering in sequence is bulk admission: the registry keeps what was
    accepted, and the result is `Ok` exactly when everything was. -/
theorem registerAll_acceptAll (ds : List Desc) (r : Registry) :
    (registerAll ds r).2 = (r.acceptAll ds).1 ∧
      ((registerAll ds r).1 = .ok () ↔ (r.acceptAll ds).2 = true) := by
  induction ds generalizing r with
  | nil => exact ⟨rfl, iff_of_true rfl rfl⟩
  | cons d ds ih =>
      rw [registerAll_cons]
      cases outcome : r.register d with
      | ok r' =>
          have entered := Registry.register_ok.mp outcome
          simpa only [ConflictFree.acceptAll, entered] using ih r'
      | error e =>
          have refused : r.accept d = none := by
            cases accepted : r.accept d with
            | none => rfl
            | some r' => cases outcome.symm.trans (Registry.register_ok.mpr accepted)
          simp [ConflictFree.acceptAll, refused]

end

end DrMetrix
