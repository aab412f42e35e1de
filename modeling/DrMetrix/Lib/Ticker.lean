import Mathlib.Algebra.Group.Nat.Defs
import Mathlib.Data.List.Basic

/-! # Periodic timers which delay missed ticks

A tick completes at or after its deadline. If it is hardly late the next
deadline is one period after the old one, otherwise one period after the tick.
Being a little late does not accumulate: `k` ticks apart are `k` periods, up to
one tolerance. Times are in nanoseconds.
-/

structure Ticker where
  period : Nat
  deadline : Nat

namespace Ticker

/-- How late a tick may be without moving the schedule, 5 ms. -/
def tolerance : Nat := 5 * 10 ^ 6

/-- The next deadline after a tick which completed at `now`. -/
def tick (t : Ticker) (now : Nat) : Ticker :=
  { t with
    deadline := if now ≤ t.deadline + tolerance then t.deadline + t.period else now + t.period }

@[simp] theorem tick_period (t : Ticker) (now : Nat) : (t.tick now).period = t.period := rfl

theorem tick_deadline (t : Ticker) (now : Nat) :
    t.deadline + t.period ≤ (t.tick now).deadline ∧
      now + t.period ≤ (t.tick now).deadline + tolerance := by
  simp only [tick]
  split <;> omega

/-- Any two ticks are as many periods apart as they are ticks apart. -/
def Spaced (period : Nat) (ticks : List Nat) : Prop :=
  ∀ i k a b, ticks[i]? = some a → ticks[i + k]? = some b → a + k * period ≤ b + tolerance

/-- The ticks so far are that far before the next deadline. -/
def Keeps (t : Ticker) (ticks : List Nat) : Prop :=
  ∀ i k a, i + k = ticks.length → ticks[i]? = some a → a + k * t.period ≤ t.deadline + tolerance

theorem Keeps.tick {t : Ticker} {ticks : List Nat} (keeps : t.Keeps ticks) (now : Nat) :
    (t.tick now).Keeps (ticks ++ [now]) := by
  obtain ⟨later, ahead⟩ := t.tick_deadline now
  intro i k a length found
  rw [List.length_append, List.length_singleton] at length
  rw [tick_period]
  cases k with
  | zero =>
      have inside := (List.getElem?_eq_some_iff.mp found).1
      simp at inside
      omega
  | succ k =>
      rw [Nat.succ_mul]
      by_cases old : i < ticks.length
      · rw [List.getElem?_append_left old] at found
        have before := keeps i k a (by omega) found
        omega
      · obtain rfl : i = ticks.length := by omega
        obtain rfl : k = 0 := by omega
        rw [List.getElem?_concat_length] at found
        obtain rfl := Option.some.inj found
        omega

theorem Spaced.tick {t : Ticker} {ticks : List Nat} (spaced : Spaced t.period ticks)
    (keeps : t.Keeps ticks) {now : Nat} (due : t.deadline ≤ now) :
    Spaced t.period (ticks ++ [now]) := by
  intro i k a b first second
  by_cases old : i + k < ticks.length
  · rw [List.getElem?_append_left old] at second
    rw [List.getElem?_append_left (by omega)] at first
    exact spaced i k a b first second
  · have inside := (List.getElem?_eq_some_iff.mp second).1
    rw [List.length_append, List.length_singleton] at inside
    obtain length : i + k = ticks.length := by omega
    rw [length, List.getElem?_concat_length] at second
    obtain rfl := Option.some.inj second
    by_cases last : i = ticks.length
    · obtain rfl : k = 0 := by omega
      rw [last, List.getElem?_concat_length] at first
      obtain rfl := Option.some.inj first
      omega
    · rw [List.getElem?_append_left (by omega)] at first
      have before := keeps i k a length first
      omega

end Ticker
