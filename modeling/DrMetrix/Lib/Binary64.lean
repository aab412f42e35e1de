import DrMetrix.Lib.Decimal
import Mathlib.Data.Rat.Defs
import Mathlib.Algebra.Order.Ring.Unbundled.Rat

/-! # The 64-bit float as an interface

A program which only parses, adds, converts and stores floats is modelled over
any type with these operations. `Exact` is the instance without rounding:
rationals extended with NaN and the two infinities, with the number grammar of
Rust's `str::parse::<f64>`.
-/

class Binary64 (F : Type) where
  zero : F
  add : F → F → F
  /-- `str::parse::<f64>`. -/
  parse : Text → Option F
  /-- `Duration::as_secs_f64`, from nanoseconds. -/
  ofNanos : Nat → F
  /-- `as f64` on an integer. -/
  ofInt : Int → F
  /-- The saturating `as i64`; NaN becomes 0. -/
  toI64 : F → Int64

inductive Exact where
  | nan
  | inf (negative : Bool)
  | fin (value : ℚ)
  deriving DecidableEq

namespace Exact

/-- Magnitudes from here on round to an infinity. -/
def overflow : ℚ := (2 ^ 1024 - 2 ^ 970 : Nat)

def ofRat (q : ℚ) : Exact :=
  if overflow ≤ q then .inf false
  else if q ≤ -overflow then .inf true
  else .fin q

/-- Sums of finite numbers are exact, however large. -/
def add : Exact → Exact → Exact
  | .fin p, .fin q => .fin (p + q)
  | .inf s, .fin _ => .inf s
  | .fin _, .inf s => .inf s
  | .inf s, .inf t => if s = t then .inf s else .nan
  | _, _ => .nan

def toI64 : Exact → Int64
  | .nan => 0
  | .inf true => Int64.minValue
  | .inf false => Int64.maxValue
  | .fin q =>
      let n := q.num.tdiv q.den
      if n < -2 ^ 63 then Int64.minValue
      else if 2 ^ 63 ≤ n then Int64.maxValue
      else Int64.ofInt n

/-- Optional sign: whether it was `-`, and the rest. -/
def sign : Text → Bool × Text
  | '-' :: t => (true, t)
  | '+' :: t => (false, t)
  | t => (false, t)

/-- The exponent after `e`: an optional sign and at least one digit. -/
def exponent (t : Text) : Option Int :=
  let (negative, ds) := sign t
  (Decimal.digits ds).map fun n => if negative then -Int.ofNat n else Int.ofNat n

/-- Digits with an optional point, then an optional exponent. -/
def number (t : Text) : Option ℚ :=
  let (whole, rest) := t.span Char.isDigit
  let (fraction, rest) :=
    match rest with
    | '.' :: r => r.span Char.isDigit
    | r => ([], r)
  if whole = [] ∧ fraction = [] then none
  else
    let mantissa : ℚ := Nat.ofDigitChars 10 (whole ++ fraction) 0 / 10 ^ fraction.length
    match rest with
    | [] => some mantissa
    | e :: r => if e = 'e' ∨ e = 'E' then (exponent r).map fun k => mantissa * 10 ^ k else none

def parse (t : Text) : Option Exact :=
  let (negative, body) := sign t
  let word := body.map Char.toLower
  if word = "inf".toList ∨ word = "infinity".toList then some (.inf negative)
  else if word = "nan".toList then some .nan
  else (number body).map fun q => ofRat (if negative then -q else q)

instance : Binary64 Exact where
  zero := .fin 0
  add := add
  parse := parse
  ofNanos n := ofRat (n / 10 ^ 9)
  ofInt n := ofRat n
  toI64 := toI64

example : parse "-1.5e2".toList = some (.fin (-150)) := by decide +kernel

/-! ## Finite sums -/

/-- Both are finite, and the first is not above the second. -/
def FiniteLe : Exact → Exact → Prop
  | .fin p, .fin q => p ≤ q
  | _, _ => False

theorem FiniteLe.trans {x y z : Exact} (first : FiniteLe x y) (second : FiniteLe y z) :
    FiniteLe x z := by
  cases x <;> cases y <;> cases z <;> simp only [FiniteLe] at *
  exact le_trans first second

theorem FiniteLe.refl_right {x y : Exact} (le : FiniteLe x y) : FiniteLe y y := by
  cases x <;> cases y <;> simp_all [FiniteLe]

/-- Adding keeps a sum finite and does not lower it exactly if the sum was finite
    and the new number is finite and not negative. -/
theorem finiteLe_add {x y : Exact} : FiniteLe x (add x y) ↔ FiniteLe x x ∧ FiniteLe (.fin 0) y := by
  cases x <;> cases y <;> simp [FiniteLe, add]

end Exact

/-! ## Comparison -/

/-- The `<=` of floats; nothing compares with NaN. -/
class Compared (F : Type) extends Binary64 F where
  le : F → F → Bool
  le_trans : ∀ x y z, le x y = true → le y z = true → le x z = true

namespace Exact

def le : Exact → Exact → Bool
  | .nan, _ | _, .nan => false
  | .inf true, _ | _, .inf false => true
  | .fin p, .fin q => p ≤ q
  | _, _ => false

instance : Compared Exact where
  le := le
  le_trans x y z first second := by
    rcases x with _ | (_ | _) | p <;> rcases y with _ | (_ | _) | q <;>
      rcases z with _ | (_ | _) | r <;> simp_all [le]
    exact le_trans first second

end Exact

/-- The value of a float literal. -/
def literal {F : Type} [Binary64 F] (text : String) : F :=
  (Binary64.parse text.toList).getD Binary64.zero
