import Mathlib.Data.List.Induction
import DrMetrix.Lib.Stages

/-! # Computations which commute with updates from outside

Somebody else updates the shared state while a computation is under way. If the
update commutes with every write of the computation, it does not matter when it
happens: it can be taken out of the execution and made at the end.
-/

namespace Async

variable {σ κ ρ ε α β ι : Type}

/-- Every write commutes with the update. -/
def Commutes (g : σ → σ) : Async σ κ ρ ε α → Prop
  | .write update next => (∀ s, update (g s) = g (update s)) ∧ next.Commutes g
  | .await _ next => ∀ reply, (next reply).Commutes g
  | .done _ | .fail _ | .panic => True

variable {g h : σ → σ}

theorem Commutes.bind {x : Async σ κ ρ ε α} {f : α → Async σ κ ρ ε β} (first : x.Commutes g)
    (rest : ∀ value, (f value).Commutes g) : (x >>= f).Commutes g := by
  change (x.bind f).Commutes g
  induction x with
  | done value => exact rest value
  | fail | panic => trivial
  | write update next ih => exact ⟨first.1, ih first.2⟩
  | await request next ih => exact fun reply => ih reply (first reply)

theorem Commutes.id (x : Async σ κ ρ ε α) : x.Commutes id := by
  induction x with
  | done | fail | panic => trivial
  | write update next ih => exact ⟨fun s => rfl, ih⟩
  | await request next ih => exact ih

theorem Commutes.comp {x : Async σ κ ρ ε α} (first : x.Commutes g) (second : x.Commutes h) :
    x.Commutes (g ∘ h) := by
  induction x with
  | done | fail | panic => trivial
  | write update next ih =>
      refine ⟨fun s => ?_, ih first.2 second.2⟩
      simp only [Function.comp_apply, first.1, second.1]
  | await request next ih => exact fun reply => ih reply (first reply) (second reply)

/-- The update before an execution is the update after it. -/
theorem Commutes.exec {x : Async σ κ ρ ε α} (commutes : x.Commutes g) (s : σ) (replies : List ρ) :
    x.exec (g s) replies = (g (x.exec s replies).1, (x.exec s replies).2) := by
  induction x generalizing s replies with
  | done | fail | panic => rfl
  | write update next ih =>
      simp only [Async.exec, commutes.1]
      exact ih commutes.2 (update s) replies
  | await request next ih =>
      cases replies with
      | nil => rfl
      | cons reply replies => exact ih reply (commutes reply) s replies

theorem commutes_modify {update : σ → σ} (same : ∀ s, update (g s) = g (update s)) :
    (modify update : Async σ κ ρ ε Unit).Commutes g := ⟨same, trivial⟩

theorem commutes_liftExcept (g : σ → σ) (x : Except ε α) :
    (liftExcept x : Async σ κ ρ ε α).Commutes g := by
  cases x <;> trivial

/-- What never writes commutes with everything. -/
theorem Frames.commutes {x : Async σ κ ρ ε α} (silent : x.Frames id) (g : σ → σ) :
    x.Commutes g := by
  induction x with
  | done | fail | panic => trivial
  | write update next ih =>
      have still : ∀ s, update s = s := silent.1
      refine ⟨fun s => ?_, ih silent.2⟩
      rw [still, still]
  | await request next ih => exact fun reply => ih reply (silent reply)

theorem inStages_commutes {ask : ι → Async σ κ ρ ε α} {write : ι → α → σ → σ}
    (asks : ∀ i, (ask i).Commutes g) (writes : ∀ i a s, write i a (g s) = g (write i a s))
    (is : List ι) : (inStages ask write is).Commutes g := by
  induction is with
  | nil => trivial
  | cons i is ih => exact (asks i).bind fun a => (commutes_modify (writes i a)).bind fun _ => ih

end Async

/-- Updates one after the other, the first one first. -/
def applyAll {σ ω : Type} (apply : ω → σ → σ) (updates : List ω) (s : σ) : σ :=
  updates.foldl (fun s o => apply o s) s

section
variable {σ κ ρ ε α ω τ : Type} {apply : ω → σ → σ}

@[simp] theorem applyAll_nil (s : σ) : applyAll apply [] s = s := rfl

@[simp] theorem applyAll_concat (updates : List ω) (o : ω) (s : σ) :
    applyAll apply (updates ++ [o]) s = apply o (applyAll apply updates s) := by
  simp only [applyAll, List.foldl_append, List.foldl_cons, List.foldl_nil]

theorem Async.Commutes.all {x : Async σ κ ρ ε α} (each : ∀ o, x.Commutes (apply o))
    (updates : List ω) : x.Commutes (applyAll apply updates) := by
  induction updates using List.reverseRecOn with
  | nil => exact .id x
  | append_singleton updates o ih =>
      have split : applyAll apply (updates ++ [o]) =
          apply o ∘ applyAll apply updates := funext (applyAll_concat updates o)
      rw [split]
      exact (each o).comp ih

end

/-! ## Parts of the state -/

/-- A part of the state which can be read and replaced on its own. -/
structure StatePart (σ τ : Type) where
  get : σ → τ
  put : τ → σ → σ
  get_put : ∀ x s, get (put x s) = x
  put_put : ∀ x y s, put x (put y s) = put x s
  put_get : ∀ s, put (get s) s = s

namespace StatePart

variable {σ κ ρ ε α ω τ : Type} (p : StatePart σ τ)

def update (f : τ → τ) (s : σ) : σ := p.put (f (p.get s)) s

/-- The computation neither reads nor writes the part. -/
def Avoids (x : Async σ κ ρ ε α) : Prop := ∀ v, x.Commutes (p.put v)

variable {p}

theorem write_keeps {u : σ → σ} (commutes : ∀ v s, u (p.put v s) = p.put v (u s)) (s : σ) :
    p.get (u s) = p.get s := by
  conv_lhs => rw [← p.put_get s, commutes, p.get_put]

theorem Avoids.frames {x : Async σ κ ρ ε α} (avoids : p.Avoids x) : x.Frames p.get := by
  induction x with
  | done | fail | panic => trivial
  | write u next ih => exact ⟨write_keeps fun v => (avoids v).1, ih fun v => (avoids v).2⟩
  | await request next ih => exact fun reply => ih reply fun v => avoids v reply

theorem Avoids.commutes {x : Async σ κ ρ ε α} (avoids : p.Avoids x) (f : τ → τ) :
    x.Commutes (p.update f) := by
  induction x with
  | done | fail | panic => trivial
  | write u next ih =>
      refine ⟨fun s => ?_, ih fun v => (avoids v).2⟩
      have kept : p.get (u s) = p.get s := write_keeps (fun v => (avoids v).1) s
      simp only [update, kept, (avoids _).1]
  | await request next ih => exact fun reply => ih reply fun v => avoids v reply

/-- Updates of a part one after the other update the part. -/
theorem applyAll_update (act : ω → τ → τ) (updates : List ω) (s : σ) :
    applyAll (fun o => p.update (act o)) updates s = p.put (applyAll act updates (p.get s)) s := by
  induction updates using List.reverseRecOn with
  | nil => exact (p.put_get s).symm
  | append_singleton updates o ih => simp only [applyAll_concat, ih, update, p.get_put, p.put_put]

end StatePart
