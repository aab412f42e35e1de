/-! # Cancellable asynchronous updates of a shared state

A computation writes to the state, awaits replies from its environment, and
ends with a value, an error or a panic. It can be cancelled only where it
awaits: running out of replies leaves it `waiting` there, with every earlier
write already visible.
-/

/-- Shared state `σ`, requests `κ`, replies `ρ`, errors `ε`. -/
inductive Async (σ κ ρ ε α : Type) where
  | done (value : α)
  | fail (error : ε)
  | panic
  | write (update : σ → σ) (next : Async σ κ ρ ε α)
  | await (request : κ) (next : ρ → Async σ κ ρ ε α)

/-- How far a computation got. -/
inductive Outcome (κ ε α : Type) where
  | ok (value : α)
  | err (error : ε)
  | panicked
  | waiting (request : κ)
  deriving DecidableEq

/-- It returned an error or was dropped where it awaited. -/
def Outcome.Interrupted {κ ε α : Type} : Outcome κ ε α → Prop
  | .err _ | .waiting _ => True
  | .ok _ | .panicked => False

namespace Async

variable {σ κ ρ ε α β : Type}

def bind : Async σ κ ρ ε α → (α → Async σ κ ρ ε β) → Async σ κ ρ ε β
  | .done value, f => f value
  | .fail error, _ => .fail error
  | .panic, _ => .panic
  | .write update next, f => .write update (next.bind f)
  | .await request next, f => .await request fun reply => (next reply).bind f

instance : Monad (Async σ κ ρ ε) where
  pure := .done
  bind := bind

def modify (update : σ → σ) : Async σ κ ρ ε Unit := .write update (.done ())

def liftExcept : Except ε α → Async σ κ ρ ε α
  | .ok value => .done value
  | .error error => .fail error

/-- Await a fallible reply and return early on an error. -/
def request (q : κ) : Async σ κ (Except ε α) ε α := .await q liftExcept

/-- Run against the replies which the environment still has to give. -/
def exec : Async σ κ ρ ε α → σ → List ρ → σ × Outcome κ ε α
  | .done value, s, _ => (s, .ok value)
  | .fail error, s, _ => (s, .err error)
  | .panic, s, _ => (s, .panicked)
  | .write update next, s, replies => next.exec (update s) replies
  | .await q _, s, [] => (s, .waiting q)
  | .await _ next, s, reply :: replies => (next reply).exec s replies

theorem bind_assoc {γ : Type} (x : Async σ κ ρ ε α) (f : α → Async σ κ ρ ε β)
    (g : β → Async σ κ ρ ε γ) : (x >>= f >>= g) = (x >>= fun a => f a >>= g) := by
  change (x.bind f).bind g = x.bind fun a => (f a).bind g
  induction x with
  | done | fail | panic => rfl
  | write update next ih => exact congrArg (write update) ih
  | await request next ih => exact congrArg (await request) (funext ih)

/-- How far a computation gets against the replies, and the replies it leaves;
    neither depends on the state. -/
def answer : Async σ κ ρ ε α → List ρ → Outcome κ ε α × List ρ
  | .done value, replies => (.ok value, replies)
  | .fail error, replies => (.err error, replies)
  | .panic, replies => (.panicked, replies)
  | .write _ next, replies => next.answer replies
  | .await q _, [] => (.waiting q, [])
  | .await _ next, reply :: replies => (next reply).answer replies

theorem exec_answer (x : Async σ κ ρ ε α) (s : σ) (replies : List ρ) :
    (x.exec s replies).2 = (x.answer replies).1 := by
  induction x generalizing s replies with
  | done | fail | panic => rfl
  | write update next ih => exact ih (update s) replies
  | await request next ih =>
      cases replies with
      | nil => rfl
      | cons reply replies => exact ih reply s replies

theorem liftExcept_bind (x : Except ε α) (f : α → Except ε β) :
    (liftExcept x >>= fun value => liftExcept (f value) : Async σ κ ρ ε β) =
      liftExcept (x >>= f) := by
  cases x <;> rfl

/-- A sequence goes on with the replies which its first part left. -/
theorem exec_bind (x : Async σ κ ρ ε α) (f : α → Async σ κ ρ ε β) (s : σ) (replies : List ρ) :
    (x >>= f).exec s replies =
      match x.answer replies with
      | (.ok value, rest) => (f value).exec (x.exec s replies).1 rest
      | (.err error, _) => ((x.exec s replies).1, .err error)
      | (.panicked, _) => ((x.exec s replies).1, .panicked)
      | (.waiting q, _) => ((x.exec s replies).1, .waiting q) := by
  change (x.bind f).exec s replies = _
  induction x generalizing s replies with
  | done | fail | panic => rfl
  | write update next ih => exact ih (update s) replies
  | await request next ih =>
      cases replies with
      | nil => rfl
      | cons reply replies => exact ih reply s replies

/-! ## Interruption -/

/-- No await and no error lies ahead. -/
def Settles : Async σ κ ρ ε α → Prop
  | .done _ | .panic => True
  | .write _ next => next.Settles
  | .fail _ | .await _ _ => False

theorem Settles.bind {x : Async σ κ ρ ε α} {f : α → Async σ κ ρ ε β} (first : x.Settles)
    (rest : ∀ value, (f value).Settles) : (x >>= f).Settles := by
  change (x.bind f).Settles
  induction x with
  | done value => exact rest value
  | panic => trivial
  | write update next ih => exact ih first
  | fail | await => exact first.elim

theorem Settles.not_interrupted {x : Async σ κ ρ ε α} (settles : x.Settles) (s : σ)
    (replies : List ρ) : ¬ (x.exec s replies).2.Interrupted := by
  induction x generalizing s with
  | done | panic => exact id
  | write update next ih => exact ih settles (update s)
  | fail | await => exact settles.elim

/-- Without an await there is no use for replies. -/
theorem Settles.exec_replies {x : Async σ κ ρ ε α} (settles : x.Settles) (s : σ)
    (replies others : List ρ) : x.exec s replies = x.exec s others := by
  induction x generalizing s with
  | done | panic => rfl
  | write update next ih => exact ih settles (update s)
  | fail | await => exact settles.elim

/-! ## Frames -/

/-- No write changes the given part of the state. -/
def Frames {τ : Type} (part : σ → τ) : Async σ κ ρ ε α → Prop
  | .write update next => (∀ s, part (update s) = part s) ∧ next.Frames part
  | .await _ next => ∀ reply, (next reply).Frames part
  | _ => True

theorem Frames.bind {τ : Type} {part : σ → τ} {x : Async σ κ ρ ε α} {f : α → Async σ κ ρ ε β}
    (first : x.Frames part) (rest : ∀ value, (f value).Frames part) : (x >>= f).Frames part := by
  change (x.bind f).Frames part
  induction x with
  | done value => exact rest value
  | fail | panic => trivial
  | write update next ih => exact ⟨first.1, ih first.2⟩
  | await request next ih => exact fun reply => ih reply (first reply)

/-- Whatever happens to a computation, the framed part of the state is the old one. -/
theorem Frames.exec {τ : Type} {part : σ → τ} {x : Async σ κ ρ ε α} (frames : x.Frames part)
    (s : σ) (replies : List ρ) : part (x.exec s replies).1 = part s := by
  induction x generalizing s replies with
  | done | fail | panic => rfl
  | write update next ih => exact (ih frames.2 (update s) replies).trans (frames.1 s)
  | await request next ih =>
      cases replies with
      | nil => rfl
      | cons reply replies => exact ih reply (frames reply) s replies

theorem frames_modify {τ : Type} {part : σ → τ} {update : σ → σ}
    (same : ∀ s, part (update s) = part s) :
    (modify update : Async σ κ ρ ε Unit).Frames part := ⟨same, trivial⟩

theorem frames_liftExcept {τ : Type} (part : σ → τ) (x : Except ε α) :
    (liftExcept x : Async σ κ ρ ε α).Frames part := by
  cases x <;> trivial

end Async
