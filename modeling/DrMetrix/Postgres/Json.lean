import DrMetrix.Lib.Binary64

/-! # JSON rows

The values of `serde_json` as far as the collector reads them, and its two cell
readers. An absent cell, and one of the wrong type, reads as 0 or as the empty
string.
-/

namespace DrMetrix.Postgres

inductive Value (F : Type) where
  | null
  | bool (value : Bool)
  | posInt (value : UInt64)
  /-- A negative integer. -/
  | negInt (value : Int64)
  | float (value : F)
  | string (text : String)
  | array (items : List (Value F))
  | object (fields : List (String × Value F))

/-- `serde_json::Map<String, Value>`. -/
abbrev Row (F : Type) := List (String × Value F)

namespace Value

variable {F : Type}

def asI64 : Value F → Option Int64
  | .posInt n => if n.toNat < 2 ^ 63 then some (Int64.ofNat n.toNat) else none
  | .negInt n => some n
  | _ => none

def asF64 [Binary64 F] : Value F → Option F
  | .posInt n => some (Binary64.ofInt n.toNat)
  | .negInt n => some (Binary64.ofInt n.toInt)
  | .float f => some f
  | _ => none

def asStr : Value F → Option String
  | .string text => some text
  | _ => none

end Value

namespace Row

variable {F : Type}

def get (row : Row F) (key : String) : Option (Value F) := row.lookup key

def getI64 [Binary64 F] (row : Row F) (key : String) : Int64 :=
  ((row.get key).bind fun v => v.asI64.or (v.asF64.map Binary64.toI64)).getD 0

def getStr (row : Row F) (key : String) : String := ((row.get key).bind Value.asStr).getD ""

/-- An integer cell reads as that integer. -/
theorem getI64_integer [Binary64 F] {row : Row F} {key : String} {n : Int64}
    (cell : (row.get key).bind Value.asI64 = some n) : row.getI64 key = n := by
  obtain ⟨v, found, integer⟩ := Option.bind_eq_some_iff.mp cell
  rw [getI64, found, Option.bind_some, integer]
  rfl

end Row

end DrMetrix.Postgres
