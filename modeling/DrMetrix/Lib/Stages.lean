import DrMetrix.Lib.Async

/-! # Collecting in stages

A computation which asks for one item after the other and writes each as soon
as it has it. Wherever it stops, it has written the items which were answered
completely, and nothing of the one which was not.
-/

/-- How a computation stopped, if it did not return. -/
def Outcome.stop? {κ ε α : Type} : Outcome κ ε α → Option (Outcome κ ε Empty)
  | .ok _ => none
  | .err error => some (.err error)
  | .panicked => some .panicked
  | .waiting request => some (.waiting request)

namespace Async

variable {σ κ ρ ε α ι : Type}

def inStages (ask : ι → Async σ κ ρ ε α) (write : ι → α → σ → σ) : List ι → Async σ κ ρ ε Unit
  | [] => .done ()
  | i :: is => do
      let a ← ask i
      modify (write i a)
      inStages ask write is

/-- The items were asked for in turn, were answered as given, and left `rest`. -/
def Answered (ask : ι → Async σ κ ρ ε α) : List (ι × α) → List ρ → List ρ → Prop
  | [], replies, rest => replies = rest
  | (i, a) :: items, replies, rest =>
      ∃ later, (ask i).answer replies = (.ok a, later) ∧ Answered ask items later rest

def writeAll (write : ι → α → σ → σ) (items : List (ι × α)) (s : σ) : σ :=
  items.foldl (fun s item => write item.1 item.2 s) s

/-- The items which the replies answer, in turn up to the first one they do not. -/
def gathered (ask : ι → Async σ κ ρ ε α) : List ι → List ρ → List (ι × α)
  | [], _ => []
  | i :: is, replies =>
      match (ask i).answer replies with
      | (.ok a, later) => (i, a) :: gathered ask is later
      | _ => []

/-- However the stages end, they have written what they gathered. -/
theorem inStages_gathered {ask : ι → Async σ κ ρ ε α} (write : ι → α → σ → σ)
    (silent : ∀ i, (ask i).Frames id) (is : List ι) (s : σ) (replies : List ρ) :
    ((inStages ask write is).exec s replies).1 = writeAll write (gathered ask is replies) s := by
  induction is generalizing s replies with
  | nil => rfl
  | cons i is ih =>
      have still : ((ask i).exec s replies).1 = s := (silent i).exec s replies
      have unfolded := exec_bind (ask i)
        (fun a => do modify (write i a); inStages ask write is) s replies
      rw [still] at unfolded
      change (inStages ask write (i :: is)).exec s replies = _ at unfolded
      rw [unfolded, gathered]
      cases asked : (ask i).answer replies with
      | mk outcome later =>
          cases outcome with
          | ok a => exact ih (write i a s) later
          | err | panicked | waiting => rfl

theorem inStages_frames {τ : Type} {part : σ → τ} {ask : ι → Async σ κ ρ ε α}
    {write : ι → α → σ → σ} (asks : ∀ i, (ask i).Frames part)
    (writes : ∀ i a s, part (write i a s) = part s) (is : List ι) :
    (inStages ask write is).Frames part := by
  induction is with
  | nil => trivial
  | cons i is ih => exact (asks i).bind fun a => (frames_modify (writes i a)).bind fun _ => ih

/-- If the stages do not all finish, one of them stopped: what came before it is
    written, and nothing else. -/
theorem inStages_stopped {ask : ι → Async σ κ ρ ε α} {write : ι → α → σ → σ}
    (silent : ∀ i, (ask i).Frames id) {is : List ι} {s : σ} {replies : List ρ}
    (stopped : ((inStages ask write is).exec s replies).2 ≠ .ok ()) :
    ∃ items i left rest, is = items.map Prod.fst ++ i :: left ∧
      Answered ask items replies rest ∧
      ((inStages ask write is).exec s replies).2.stop? = ((ask i).answer rest).1.stop? ∧
      ((inStages ask write is).exec s replies).1 = writeAll write items s := by
  induction is generalizing s replies with
  | nil => exact absurd rfl stopped
  | cons i is ih =>
      have still : ((ask i).exec s replies).1 = s := (silent i).exec s replies
      have unfolded := exec_bind (ask i)
        (fun a => do modify (write i a); inStages ask write is) s replies
      rw [still] at unfolded
      change (inStages ask write (i :: is)).exec s replies = _ at unfolded
      rw [unfolded] at stopped ⊢
      cases asked : (ask i).answer replies with
      | mk outcome later =>
          rw [asked] at stopped
          cases outcome with
          | ok a =>
              have further : ((inStages ask write is).exec (write i a s) later).2 ≠ .ok () := stopped
              obtain ⟨items, j, left, rest, split, answered, stop, state⟩ := ih further
              refine ⟨(i, a) :: items, j, left, rest, ?_, ⟨later, asked, answered⟩, stop, state⟩
              rw [split]
              rfl
          | err | panicked | waiting =>
              exact ⟨[], i, is, replies, rfl, rfl, by rw [asked]; rfl, rfl⟩

/-! ## Without panics -/

/-- No reply leads to a panic. -/
def NoPanic : Async σ κ ρ ε α → Prop
  | .done _ | .fail _ => True
  | .panic => False
  | .write _ next => next.NoPanic
  | .await _ next => ∀ reply, (next reply).NoPanic

theorem NoPanic.bind {β : Type} {x : Async σ κ ρ ε α} {f : α → Async σ κ ρ ε β} (first : x.NoPanic)
    (rest : ∀ value, (f value).NoPanic) : (x >>= f).NoPanic := by
  change (x.bind f).NoPanic
  induction x with
  | done value => exact rest value
  | fail => trivial
  | panic => exact first.elim
  | write update next ih => exact ih first
  | await q next ih => exact fun reply => ih reply (first reply)

theorem noPanic_modify (update : σ → σ) : (modify update : Async σ κ ρ ε Unit).NoPanic := trivial

theorem NoPanic.stages {ask : ι → Async σ κ ρ ε α} {write : ι → α → σ → σ}
    (asks : ∀ i, (ask i).NoPanic) (is : List ι) : (inStages ask write is).NoPanic := by
  induction is with
  | nil => trivial
  | cons i is ih => exact (asks i).bind fun a => (noPanic_modify (write i a)).bind fun _ => ih

theorem NoPanic.exec {x : Async σ κ ρ ε α} (calm : x.NoPanic) (s : σ) (replies : List ρ) :
    (x.exec s replies).2 ≠ .panicked := by
  induction x generalizing s replies with
  | done | fail => simp [Async.exec]
  | panic => exact calm.elim
  | write update next ih => exact ih calm (update s) replies
  | await q next ih =>
      cases replies with
      | nil => simp [Async.exec]
      | cons reply replies => exact ih reply (calm reply) s replies

end Async
