import DrMetrix.Lib.Stages

/-! # Computations which follow a script

The requests of a computation depend on the replies. A computation follows a
script if they are the script's requests in its order, whatever the replies are,
up to where it stops early.
-/

namespace Async

variable {σ κ ρ ε α β : Type}

/-- The requests made against the given replies, the pending one included. -/
def requests : Async σ κ ρ ε α → List ρ → List κ
  | .done _, _ | .fail _, _ | .panic, _ => []
  | .write _ next, replies => next.requests replies
  | .await q _, [] => [q]
  | .await q next, reply :: replies => q :: (next reply).requests replies

/-- Whatever is replied, the script is followed to its end, or until an error of
    the given kind or a panic. -/
def Follows (errors : ε → Prop) : Async σ κ ρ ε α → List κ → Prop
  | .done _, script => script = []
  | .fail error, _ => errors error
  | .panic, _ => True
  | .write _ next, script => next.Follows errors script
  | .await q next, script => ∃ rest, script = q :: rest ∧ ∀ reply, (next reply).Follows errors rest

variable {errors : ε → Prop} {x : Async σ κ ρ ε α} {script : List κ}

theorem Follows.bind {f : α → Async σ κ ρ ε β} {later : List κ} (first : x.Follows errors script)
    (rest : ∀ value, (f value).Follows errors later) :
    (x >>= f).Follows errors (script ++ later) := by
  change (x.bind f).Follows errors _
  induction x generalizing script with
  | done value =>
      obtain rfl : script = [] := first
      exact rest value
  | fail error => exact first
  | panic => trivial
  | write update next ih => exact ih first
  | await q next ih =>
      obtain ⟨script, rfl, follows⟩ := first
      exact ⟨script ++ later, rfl, fun reply => ih reply (follows reply)⟩

theorem follows_modify (update : σ → σ) :
    (modify update : Async σ κ ρ ε Unit).Follows errors [] := rfl

theorem follows_liftExcept {y : Except ε α} (fails : ∀ e, y = .error e → errors e) :
    (liftExcept y : Async σ κ ρ ε α).Follows errors [] := by
  cases y with
  | ok value => rfl
  | error e => exact fails e rfl

theorem Follows.requests_within (follows : x.Follows errors script) (replies : List ρ) :
    x.requests replies <+: script := by
  induction x generalizing script replies with
  | done | fail | panic => exact List.nil_prefix
  | write update next ih => exact ih follows replies
  | await q next ih =>
      obtain ⟨script, rfl, further⟩ := follows
      cases replies with
      | nil => exact ⟨script, rfl⟩
      | cons reply replies =>
          exact List.prefix_cons_inj q |>.mpr (ih reply (further reply) replies)

/-- A value is returned only at the end of the script. -/
theorem Follows.requests_ok (follows : x.Follows errors script) {replies : List ρ} {value : α}
    (returned : (x.answer replies).1 = .ok value) : x.requests replies = script := by
  induction x generalizing script replies with
  | done => exact follows.symm
  | fail | panic => cases returned
  | write update next ih => exact ih follows returned
  | await q next ih =>
      obtain ⟨script, rfl, further⟩ := follows
      cases replies with
      | nil => cases returned
      | cons reply replies => exact congrArg (q :: ·) (ih reply (further reply) returned)

theorem Follows.error (follows : x.Follows errors script) {replies : List ρ} {e : ε}
    (failed : (x.answer replies).1 = .err e) : errors e := by
  induction x generalizing script replies with
  | done | panic => cases failed
  | fail error =>
      cases failed
      exact follows
  | write update next ih => exact ih follows failed
  | await q next ih =>
      obtain ⟨script, rfl, further⟩ := follows
      cases replies with
      | nil => cases failed
      | cons reply replies => exact ih reply (further reply) failed

/-- What settles asks nothing, and returns no error. -/
theorem Settles.follows {x : Async σ κ ρ ε α} (settles : x.Settles) (errors : ε → Prop) :
    x.Follows errors [] := by
  induction x with
  | done => rfl
  | panic => trivial
  | write update next ih => exact ih settles
  | fail | await => exact settles.elim

/-- Stages follow their own scripts one after the other. -/
theorem Follows.stages {ι : Type} {ask : ι → Async σ κ ρ ε α} {write : ι → α → σ → σ}
    {scripts : ι → List κ} (asks : ∀ i, (ask i).Follows errors (scripts i)) (is : List ι) :
    (inStages ask write is).Follows errors (is.flatMap scripts) := by
  induction is with
  | nil => rfl
  | cons i is ih =>
      rw [List.flatMap_cons]
      exact (asks i).bind fun a => (follows_modify (write i a)).bind fun _ => ih

end Async
