/-! # BSON replies

The part of the bson 2 crate which the collector reads a reply with. The typed
getters succeed on exactly one type of value; in particular `get_i64` refuses an
`Int32`.
-/

namespace DrMetrix.Mongo

inductive Bson where
  | double (bits : UInt64)
  | string (text : String)
  | array (items : List Bson)
  | document (fields : List (String × Bson))
  | boolean (value : Bool)
  | null
  | int32 (value : Int32)
  | int64 (value : Int64)
  | dateTime (millis : Int64)
  | other (bytes : List UInt8)

abbrev Document := List (String × Bson)

inductive ValueAccessError where
  | notPresent
  | unexpectedType
  deriving DecidableEq

namespace Document

def get (d : Document) (key : String) : Option Bson := d.lookup key

def getI64 (d : Document) (key : String) : Except ValueAccessError Int64 :=
  match d.get key with
  | some (.int64 v) => .ok v
  | some _ => .error .unexpectedType
  | none => .error .notPresent

def getDocument (d : Document) (key : String) : Except ValueAccessError Document :=
  match d.get key with
  | some (.document e) => .ok e
  | some _ => .error .unexpectedType
  | none => .error .notPresent

/-- `get_i64(key).unwrap_or(0)`. -/
def i64OrZero (d : Document) (key : String) : Int64 :=
  match d.getI64 key with
  | .ok v => v
  | .error _ => 0

/-- The document under a path of embedded documents. -/
def descend (d : Document) : List String → Option Document
  | [] => some d
  | key :: keys =>
      match d.getDocument key with
      | .ok e => descend e keys
      | .error _ => none

theorem i64OrZero_int64 {d : Document} {key : String} {v : Int64}
    (found : d.get key = some (.int64 v)) : d.i64OrZero key = v := by
  simp only [i64OrZero, getI64, found]

/-- Every value but an `Int64` reads as 0. -/
theorem i64OrZero_int32 {d : Document} {key : String} {v : Int32}
    (found : d.get key = some (.int32 v)) : d.i64OrZero key = 0 := by
  simp only [i64OrZero, getI64, found]

end Document

/-- The mathematical value of an integer in either encoding. -/
def Bson.integer? : Bson → Option Int
  | .int32 v => some v.toInt
  | .int64 v => some v.toInt
  | _ => none

end DrMetrix.Mongo
