import DrMetrix.Mongo.Metrics

/-! # Integer encodings of a reply

A server may send an integer as `Int32` or as `Int64`. A collection exports the
second exactly and turns the first into 0.
-/

namespace DrMetrix.Mongo

open Prometheus

inductive Opcode where
  | insert
  | query
  | update
  | delete
  | getmore
  | command

def Opcode.key : Opcode → String
  | insert => "insert"
  | query => "query"
  | update => "update"
  | delete => "delete"
  | getmore => "getmore"
  | command => "command"

/-- The paths of a reply which a collection watches. -/
inductive Path where
  | current
  | available
  | totalCreated
  | opcounter (op : Opcode)
  | bytesIn
  | bytesOut
  | numRequests
  | resident
  | virtual
  | cacheInUse
  | cacheMax
  | cacheDirty

namespace Path

def sections : Path → List String
  | current | available | totalCreated => ["connections"]
  | opcounter _ => ["opcounters"]
  | bytesIn | bytesOut | numRequests => ["network"]
  | resident | virtual => ["mem"]
  | cacheInUse | cacheMax | cacheDirty => ["wiredTiger", "cache"]

def field : Path → String
  | current => "current"
  | available => "available"
  | totalCreated => "totalCreated"
  | opcounter op => op.key
  | bytesIn => "bytesIn"
  | bytesOut => "bytesOut"
  | numRequests => "numRequests"
  | resident => "resident"
  | virtual => "virtual"
  | cacheInUse => "bytes currently in the cache"
  | cacheMax => "maximum bytes configured"
  | cacheDirty => "tracked dirty bytes in the cache"

/-- Bytes for each unit of the reported value. -/
def unit : Path → Int
  | resident | virtual => 2 ^ 20
  | _ => 1

/-- What the collection makes of the value it read. -/
def converted (p : Path) (v : Int64) : Int64 :=
  match p with
  | resident | virtual => v * 1024 * 1024
  | _ => v

end Path

/-- The value under a watched path. -/
def Document.at (d : Document) (p : Path) : Option Bson :=
  (d.descend p.sections).bind fun e => e.get p.field

/-- What the collection exports for a path whose section the reply contains. -/
def Document.reading (d : Document) (p : Path) : Option Int64 :=
  (d.descend p.sections).map fun e => p.converted (e.i64OrZero p.field)

/-- The exported value after a reply, given the one before. -/
def Document.shown (d : Document) (p : Path) (before : Option Int) : Option Int :=
  match d.reading p with
  | some v => some v.toInt
  | none => before

namespace MongoMetrics

variable {F : Type}

/-- The gauge cell behind a path, before `gather` converts it to a float; a series
    which was never set has none. -/
def exported (m : MongoMetrics F) : Path → Option Int
  | .current => some m.connectionsCurrent.value
  | .available => some m.connectionsAvailable.value
  | .totalCreated => some m.connectionsTotal.value
  | .opcounter op => m.opcounters.series [op.key]
  | .bytesIn => some m.bytesIn.value
  | .bytesOut => some m.bytesOut.value
  | .numRequests => some m.requestsIn.value
  | .resident => some m.residentMemoryBytes.value
  | .virtual => some m.virtualMemoryBytes.value
  | .cacheInUse => some m.wtCacheBytesInUse.value
  | .cacheMax => some m.wtCacheBytesMax.value
  | .cacheDirty => some m.wtCacheDirtyBytes.value

/-! ## What each section publishes -/

theorem exported_connections (doc : Document) (m : MongoMetrics F) (p : Path) :
    (publishConnections doc m).exported p =
      if p.sections = ["connections"] then doc.shown p (m.exported p) else m.exported p := by
  unfold publishConnections Document.shown Document.reading
  cases found : doc.getDocument "connections" <;>
    cases p <;> simp [Path.sections, Document.descend, found, exported, Path.converted, Path.field]

theorem exported_opcounters [LabelKey] (doc : Document) (m : MongoMetrics F) (p : Path) :
    (publishOpcounters doc m).exported p =
      if p.sections = ["opcounters"] then doc.shown p (m.exported p) else m.exported p := by
  unfold publishOpcounters Document.shown Document.reading
  cases found : doc.getDocument "opcounters" with
  | error e => cases p <;> simp [Path.sections, Document.descend, found]
  | ok counters =>
      have distinct : (ops.map fun op => [op]).Nodup := by decide
      have set : ∀ op : Opcode, (m.opcounters.setRows (fun op => [op]) counters.i64OrZero ops).series
          [op.key] = some (counters.i64OrZero op.key).toInt := by
        intro op
        have listed : op.key ∈ ops := by
          cases op <;> decide
        exact IntGaugeVec.series_setRows_of_nodup counters.i64OrZero m.opcounters distinct listed
          (LabelKey.alone_single op.key)
      cases p <;>
        simp [Path.sections, Document.descend, found, exported, set, Path.converted, Path.field]

theorem exported_network (doc : Document) (m : MongoMetrics F) (p : Path) :
    (publishNetwork doc m).exported p =
      if p.sections = ["network"] then doc.shown p (m.exported p) else m.exported p := by
  unfold publishNetwork Document.shown Document.reading
  cases found : doc.getDocument "network" <;>
    cases p <;> simp [Path.sections, Document.descend, found, exported, Path.converted, Path.field]

theorem exported_cache (doc : Document) (m : MongoMetrics F) (p : Path) :
    (publishCache doc m).exported p =
      if p.sections = ["wiredTiger", "cache"] then doc.shown p (m.exported p)
      else m.exported p := by
  unfold publishCache Document.shown Document.reading
  cases found : doc.getDocument "wiredTiger" with
  | error e => cases p <;> simp [Path.sections, Document.descend, found]
  | ok wt =>
      cases inner : wt.getDocument "cache" <;>
        cases p <;>
          simp [Path.sections, Document.descend, found, inner, exported, Path.converted, Path.field]

/-- The memory section in a build where nothing panicked. -/
def publishedMemory (doc : Document) (m : MongoMetrics F) : MongoMetrics F :=
  match doc.getDocument "mem" with
  | .ok mem =>
      { m with
        residentMemoryBytes := m.residentMemoryBytes.set (mem.i64OrZero "resident" * 1024 * 1024)
        virtualMemoryBytes := m.virtualMemoryBytes.set (mem.i64OrZero "virtual" * 1024 * 1024) }
  | .error _ => m

theorem exported_memory (doc : Document) (m : MongoMetrics F) (p : Path) :
    (publishedMemory doc m).exported p =
      if p.sections = ["mem"] then doc.shown p (m.exported p) else m.exported p := by
  unfold publishedMemory Document.shown Document.reading
  cases found : doc.getDocument "mem" <;>
    cases p <;> simp [Path.sections, Document.descend, found, exported, Path.converted, Path.field]

section
variable {κ ρ ε α : Type} {overflowChecks : Bool} {m m' : MongoMetrics F} {replies : List ρ}
  {value : α}

/-- Whatever came after a multiplication returned, it did not panic. -/
theorem times_ok {a b : Int64} {f : Int64 → Async (MongoMetrics F) κ ρ ε α}
    (h : (times overflowChecks a b >>= f).exec m replies = (m', .ok value)) :
    (f (a * b)).exec m replies = (m', .ok value) := by
  unfold times at h
  split at h
  · cases congrArg Prod.snd h
  · exact h

theorem inBytes_ok {v : Int64} {f : Int64 → Async (MongoMetrics F) κ ρ ε α}
    (h : (inBytes overflowChecks v >>= f).exec m replies = (m', .ok value)) :
    (f (v * 1024 * 1024)).exec m replies = (m', .ok value) := by
  rw [inBytes, Async.bind_assoc] at h
  exact times_ok (times_ok h)

theorem publishMemory_ok {doc : Document} {f : Unit → Async (MongoMetrics F) κ ρ ε α}
    (h : (publishMemory overflowChecks doc >>= f).exec m replies = (m', .ok value)) :
    (f ()).exec (publishedMemory doc m) replies = (m', .ok value) := by
  unfold publishMemory at h
  unfold publishedMemory
  cases found : doc.getDocument "mem" with
  | error e =>
      rw [found] at h
      exact h
  | ok mem =>
      simp only [found, Async.bind_assoc] at h
      exact inBytes_ok (inBytes_ok h)

end

/-- A collection which returns `Ok` has published all sections in turn. -/
theorem collect_ok [LabelKey] {overflowChecks : Bool} {m m' : MongoMetrics F} {doc : Document}
    (h : (collect overflowChecks).exec m [.ok doc] = (m', .ok ())) :
    m' = publishCache doc (publishedMemory doc
      (publishNetwork doc (publishOpcounters doc (publishConnections doc m)))) := by
  have published : (Async.modify (publishCache doc)).exec (publishedMemory doc
      (publishNetwork doc (publishOpcounters doc (publishConnections doc m)))) [] = (m', .ok ()) :=
    publishMemory_ok h
  exact (congrArg Prod.fst published).symm

/-- Every watched path shows the reply, or what it showed before if the reply
    does not contain its section. -/
theorem collect_exported [LabelKey] {overflowChecks : Bool} {m m' : MongoMetrics F} {doc : Document}
    (h : (collect overflowChecks).exec m [.ok doc] = (m', .ok ())) (p : Path) :
    m'.exported p = doc.shown p (m.exported p) := by
  rw [collect_ok h, exported_cache, exported_memory, exported_network, exported_opcounters,
    exported_connections]
  cases p <;> simp [Path.sections]

end MongoMetrics

/-! ## Exactness -/

/-- The value fits an `i64`. -/
def Fits (n : Int) : Prop := -2 ^ 63 ≤ n ∧ n < 2 ^ 63

/-- Every watched integer which the gauge can hold is exported exactly. -/
def MongoMetrics.Faithful {F : Type} (doc : Document) (m : MongoMetrics F) : Prop :=
  ∀ p v n, doc.at p = some v → v.integer? = some n → Fits (p.unit * n) →
    m.exported p = some (p.unit * n)

/-- The integers which `get_i64` accepts. -/
def Bson.isInt64 : Bson → Bool
  | .int64 _ => true
  | _ => false

theorem toInt_mul_of_fits {a b : Int64} (fits : Fits (a.toInt * b.toInt)) :
    (a * b).toInt = a.toInt * b.toInt := by
  rw [Int64.toInt_mul]
  apply Int.bmod_eq_of_le_mul_two
  · have := fits.1
    omega
  · have := fits.2
    omega

theorem Path.converted_toInt {p : Path} {v : Int64} (fits : Fits (p.unit * v.toInt)) :
    (p.converted v).toInt = p.unit * v.toInt := by
  have factor : (1024 : Int64).toInt = 1024 := rfl
  have twice : Fits (2 ^ 20 * v.toInt) → (v * 1024 * 1024).toInt = 2 ^ 20 * v.toInt := by
    rintro ⟨low, high⟩
    have once : (v * 1024).toInt = v.toInt * 1024 := by
      apply toInt_mul_of_fits
      rw [factor]
      constructor <;> omega
    have product : (v * 1024 * 1024).toInt = (v * 1024).toInt * 1024 := by
      apply toInt_mul_of_fits
      rw [once, factor]
      constructor <;> omega
    rw [product, once]
    omega
  cases p with
  | resident | virtual => exact twice fits
  | _ => exact (Int.one_mul _).symm

/-- The section which holds a value was published. -/
theorem Document.shown_at {d : Document} {p : Path} {v : Bson} (found : d.at p = some v)
    (before : Option Int) : ∃ e : Document, e.get p.field = some v ∧
      d.shown p before = some (p.converted (e.i64OrZero p.field)).toInt := by
  obtain ⟨e, descended, here⟩ := Option.bind_eq_some_iff.mp found
  refine ⟨e, here, ?_⟩
  simp only [shown, reading, descended, Option.map_some]

theorem Document.shown_int64 {d : Document} {p : Path} {v : Int64}
    (found : d.at p = some (.int64 v)) (fits : Fits (p.unit * v.toInt)) (before : Option Int) :
    d.shown p before = some (p.unit * v.toInt) := by
  obtain ⟨e, here, shown⟩ := Document.shown_at found before
  rw [shown, Document.i64OrZero_int64 here, Path.converted_toInt fits]

theorem Document.shown_int32 {d : Document} {p : Path} {v : Int32}
    (found : d.at p = some (.int32 v)) (before : Option Int) : d.shown p before = some 0 := by
  obtain ⟨e, here, shown⟩ := Document.shown_at found before
  rw [shown, Document.i64OrZero_int32 here]
  cases p <;> rfl

theorem Path.fits_int32 (p : Path) (v : Int32) : Fits (p.unit * v.toInt) := by
  have low := v.le_toInt
  have high := v.toInt_lt
  cases p <;> simp only [Path.unit, Fits] <;> omega

theorem Path.unit_mul_eq_zero {p : Path} {n : Int} : p.unit * n = 0 ↔ n = 0 := by
  cases p <;> simp only [Path.unit] <;> omega

/-- What is exported for a watched integer that fits. -/
theorem Document.shown_integer {d : Document} {p : Path} {v : Bson} {n : Int}
    (found : d.at p = some v) (integer : v.integer? = some n) (fits : Fits (p.unit * n))
    (before : Option Int) : d.shown p before = some (if v.isInt64 then p.unit * n else 0) := by
  cases v with
  | int64 w =>
      cases integer
      exact shown_int64 found fits before
  | int32 w => exact shown_int32 found before
  | double | string | array | document | boolean | null | dateTime | other => cases integer

/-- A collection is exact exactly for replies without a nonzero `Int32` at a
    watched path, and two replies with the same integer agree exactly if they
    encode it alike or it is 0. -/
theorem collect_faithful_iff {F : Type} [LabelKey] {checks checks' : Bool} {m m' n n' : MongoMetrics F}
    {d e : Document} (first : (MongoMetrics.collect checks).exec m [.ok d] = (m', .ok ()))
    (second : (MongoMetrics.collect checks').exec n [.ok e] = (n', .ok ())) :
    (m'.Faithful d ↔ ∀ p v, d.at p = some (.int32 v) → v = 0) ∧
      ∀ p v w k, d.at p = some v → e.at p = some w → v.integer? = some k →
        w.integer? = some k → Fits (p.unit * k) →
          (m'.exported p = n'.exported p ↔ v.isInt64 = w.isInt64 ∨ k = 0) := by
  have exported := MongoMetrics.collect_exported first
  have exported' := MongoMetrics.collect_exported second
  refine ⟨⟨?_, ?_⟩, ?_⟩
  · intro faithful p v found
    have exact := faithful p _ _ found rfl (p.fits_int32 v)
    rw [exported, Document.shown_int32 found] at exact
    exact Int32.toInt_inj.mp (Path.unit_mul_eq_zero.mp (Option.some.inj exact).symm)
  · intro zero p v k found integer fits
    rw [exported, Document.shown_integer found integer fits]
    cases v with
    | int32 w =>
        cases integer
        rw [zero p w found, Int32.toInt_zero, Int.mul_zero, ite_self]
    | int64 w => rfl
    | double | string | array | document | boolean | null | dateTime | other => cases integer
  · intro p v w k found found' integer integer' fits
    rw [exported, exported', Document.shown_integer found integer fits,
      Document.shown_integer found' integer' fits]
    have nonzero : p.unit * k = 0 ↔ k = 0 := Path.unit_mul_eq_zero
    have nonzero' : 0 = p.unit * k ↔ k = 0 := eq_comm.trans nonzero
    cases v.isInt64 <;> cases w.isInt64 <;>
      simp only [Bool.false_eq_true, Bool.true_eq_false, if_false, if_true, false_or, true_or,
        Option.some.injEq, nonzero, nonzero']

/-- A reply of a server which encodes small counters as `Int32`. -/
def smallCounters : Document :=
  [("connections", .document [("current", .int32 7), ("available", .int64 51193)]),
    ("mem", .document [("resident", .int32 0)])]

def largeCounters : Document :=
  [("connections", .document [("current", .int64 7), ("available", .int64 51193)]),
    ("mem", .document [("resident", .int64 3)])]

section
attribute [local instance] LabelKey.tuples

theorem collect_faithful_large :
    ∃ m m' : MongoMetrics Exact, MongoMetrics.new {} = .ok m ∧
      (MongoMetrics.collect true).exec m [.ok largeCounters] = (m', .ok ()) ∧
      m'.Faithful largeCounters := by
  have noInt32 : ∀ p v, largeCounters.at p = some (.int32 v) → v = 0 := by
    intro p v found
    cases p <;> cases found
  obtain ⟨m, made⟩ : ∃ m : MongoMetrics Exact, MongoMetrics.new {} = .ok m := ⟨_, rfl⟩
  have collected : (MongoMetrics.collect true).exec m [.ok largeCounters] = (_, .ok ()) := rfl
  exact ⟨m, _, made, collected, (collect_faithful_iff collected collected).1.mpr noInt32⟩

/-- Seven connections are exported as none. -/
theorem collect_faithful_fails :
    ∃ m m' : MongoMetrics Exact, MongoMetrics.new {} = .ok m ∧
      (MongoMetrics.collect true).exec m [.ok smallCounters] = (m', .ok ()) ∧
      smallCounters.at .current = some (.int32 7) ∧ m'.exported .current = some 0 ∧
      ¬ m'.Faithful smallCounters := by
  refine ⟨_, _, rfl, rfl, rfl, rfl, ?_⟩
  intro faithful
  have seven := faithful .current _ 7 rfl rfl ⟨by decide, by decide⟩
  cases seven

end

end DrMetrix.Mongo
