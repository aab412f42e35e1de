import DrMetrix.Core.Pacing
import DrMetrix.Mongo.Encoding

/-! # Can a reply overflow the memory conversion?

The megabytes of a reply are multiplied by 1024 twice. From 2^43 on, and below
-2^43, the product does not fit an `i64`: a build with overflow checks panics,
which ends the collect loop, and any other build exports a wrapped value. Only
an `Int64` gets that far; an `Int32` is exported as no bytes at all.
-/

namespace DrMetrix.Mongo

open Prometheus Transition MongoMetrics

variable {F : Type}

/-- The megabytes whose bytes fit an `i64`. -/
def InRange (v : Int64) : Prop := -2 ^ 43 ≤ v.toInt ∧ v.toInt < 2 ^ 43

/-- The paths under which a reply reports megabytes. -/
def memoryPaths : List Path := [.resident, .virtual]

/-- The operands of the conversions which a collection makes. -/
def Document.converted (d : Document) : List Int64 :=
  match d.getDocument "mem" with
  | .ok mem => [mem.i64OrZero "resident", mem.i64OrZero "virtual"]
  | .error _ => []

/-- Every `Int64` of the memory section is in range. -/
def Document.InRange (d : Document) : Prop :=
  ∀ p ∈ memoryPaths, ∀ v, d.at p = some (.int64 v) → Mongo.InRange v

/-- The memory section has no `Int32` but 0. -/
def Document.NoInt32 (d : Document) : Prop :=
  ∀ p ∈ memoryPaths, ∀ v, d.at p = some (.int32 v) → v = 0

theorem Document.at_memory {d mem : Document} (found : d.getDocument "mem" = .ok mem) {p : Path}
    (listed : p ∈ memoryPaths) : d.at p = mem.get p.field := by
  simp only [memoryPaths, List.mem_cons, List.not_mem_nil, or_false] at listed
  rcases listed with rfl | rfl <;>
    simp only [Document.at, Path.sections, Document.descend, found, Option.bind_some]

theorem Document.at_memory_none {d : Document} {e : ValueAccessError}
    (missing : d.getDocument "mem" = .error e) {p : Path} (listed : p ∈ memoryPaths) :
    d.at p = none := by
  simp only [memoryPaths, List.mem_cons, List.not_mem_nil, or_false] at listed
  rcases listed with rfl | rfl <;>
    simp only [Document.at, Path.sections, Document.descend, missing, Option.bind_none]

/-- A field converts in range exactly if its `Int64`, where it has one, is in range. -/
theorem i64OrZero_inRange (d : Document) (key : String) :
    InRange (d.i64OrZero key) ↔ ∀ v, d.get key = some (.int64 v) → InRange v := by
  unfold Document.i64OrZero Document.getI64
  cases found : d.get key with
  | none => simp [InRange]
  | some value => cases value <;> simp [InRange]

/-- The operands in terms of the reply. -/
theorem Document.converted_inRange {d : Document} :
    (∀ v ∈ d.converted, Mongo.InRange v) ↔ d.InRange := by
  unfold Document.converted Document.InRange
  cases found : d.getDocument "mem" with
  | error e =>
      refine iff_of_true (by simp) ?_
      intro p listed v here
      rw [Document.at_memory_none found listed] at here
      cases here
  | ok mem =>
      have resident : d.at .resident = mem.get "resident" :=
        Document.at_memory found (by simp [memoryPaths])
      have virtual : d.at .virtual = mem.get "virtual" :=
        Document.at_memory found (by simp [memoryPaths])
      simp only [memoryPaths, List.forall_mem_cons, List.not_mem_nil, false_implies, implies_true,
        and_true, i64OrZero_inRange, resident, virtual]

theorem overflows_iff {a b : Int64} : ¬ Overflows a b ↔ Fits (a.toInt * b.toInt) := by
  unfold Overflows Fits
  omega

theorem inRange_iff_fits {v : Int64} : InRange v ↔ Fits (2 ^ 20 * v.toInt) := by
  unfold InRange Fits
  omega

/-- Both multiplications stay in range exactly if the whole product fits. -/
theorem conversion_fits_iff (v : Int64) :
    (¬ Overflows v 1024 ∧ ¬ Overflows (v * 1024) 1024) ↔ InRange v := by
  have factor : (1024 : Int64).toInt = 1024 := rfl
  rw [overflows_iff, overflows_iff, factor]
  constructor
  · rintro ⟨once, twice⟩
    rw [toInt_mul_of_fits once, factor] at twice
    unfold Fits at twice
    unfold InRange
    omega
  · rintro ⟨low, high⟩
    have once : Fits (v.toInt * 1024) := by
      constructor <;> omega
    refine ⟨once, ?_⟩
    rw [toInt_mul_of_fits once, factor]
    constructor <;> omega

namespace MongoMetrics

/-! ## One collection -/

section
variable {κ ρ ε : Type}

theorem times_fits {a b : Int64} (overflowChecks : Bool) (fits : ¬ Overflows a b) :
    (times overflowChecks a b : Async (MongoMetrics F) κ ρ ε Int64) = pure (a * b) := by
  unfold times
  exact if_neg fun overflow => fits overflow.2

theorem inBytes_inRange {v : Int64} (overflowChecks : Bool) (inRange : InRange v) :
    (inBytes overflowChecks v : Async (MongoMetrics F) κ ρ ε Int64) = pure (v * 1024 * 1024) := by
  obtain ⟨once, twice⟩ := (conversion_fits_iff v).mpr inRange
  unfold inBytes
  rw [times_fits overflowChecks once]
  exact times_fits overflowChecks twice

end

/-- The wrapped product is the exact one for megabytes in range, and for no others. -/
theorem bytes_exact_iff (v : Int64) :
    (v * 1024 * 1024).toInt = 2 ^ 20 * v.toInt ↔ InRange v := by
  constructor
  · intro same
    rw [inRange_iff_fits, ← same]
    exact ⟨Int64.le_toInt _, Int64.toInt_lt _⟩
  · intro inRange
    exact Path.converted_toInt (p := .resident) (inRange_iff_fits.mp inRange)

theorem shown_memory {d : Document} {p : Path} {v : Int64} (listed : p ∈ memoryPaths)
    (found : d.at p = some (.int64 v)) (before : Option Int) :
    d.shown p before = some (v * 1024 * 1024).toInt := by
  obtain ⟨e, here, shown⟩ := Document.shown_at found before
  rw [shown, Document.i64OrZero_int64 here]
  simp only [memoryPaths, List.mem_cons, List.not_mem_nil, or_false] at listed
  rcases listed with rfl | rfl <;> rfl

/-- A reported integer is shown exactly if it is an `Int64` in range or 0. -/
theorem shown_exact_iff {d : Document} {p : Path} {v : Bson} {n : Int} (listed : p ∈ memoryPaths)
    (found : d.at p = some v) (integer : v.integer? = some n) (before : Option Int) :
    d.shown p before = some (2 ^ 20 * n) ↔
      (∀ w, v = .int64 w → InRange w) ∧ ∀ w, v = .int32 w → w = 0 := by
  cases v with
  | int64 w =>
      cases integer
      rw [shown_memory listed found, Option.some.injEq, bytes_exact_iff]
      simp
  | int32 w =>
      cases integer
      have zero : (0 : Int) = 2 ^ 20 * w.toInt ↔ w = 0 := by
        rw [← Int32.toInt_inj, Int32.toInt_zero]
        omega
      rw [Document.shown_int32 found, Option.some.injEq, zero]
      simp
  | double | string | array | document | boolean | null | dateTime | other => cases integer

variable [LabelKey]

/-- Values in range never end a collection early. -/
theorem collect_inRange (overflowChecks : Bool) (m : MongoMetrics F) {d : Document}
    (inRange : d.InRange) : ((collect overflowChecks).exec m [.ok d]).2 = .ok () := by
  have converts := Document.converted_inRange.mpr inRange
  rw [collect_reply, publishReply, publishMemory]
  cases found : d.getDocument "mem" with
  | error e => rfl
  | ok mem =>
      have listed : d.converted = [mem.i64OrZero "resident", mem.i64OrZero "virtual"] := by
        simp only [Document.converted, found]
      rw [listed] at converts
      have resident := converts (mem.i64OrZero "resident") (by simp)
      have virtual := converts (mem.i64OrZero "virtual") (by simp)
      simp only [inBytes_inRange overflowChecks resident, inBytes_inRange overflowChecks virtual]
      rfl

/-- After a reply there is `Ok` or a panic. -/
theorem collect_ok_or_panicked (overflowChecks : Bool) (m : MongoMetrics F) (d : Document) :
    ((collect overflowChecks).exec m [.ok d]).2 = .ok () ∨
      ((collect overflowChecks).exec m [.ok d]).2 = .panicked := by
  have settled : ¬ ((collect overflowChecks).exec m [.ok d]).2.Interrupted := by
    rw [collect_reply]
    exact (publishReply_settles overflowChecks d).not_interrupted m []
  cases outcome : ((collect overflowChecks).exec m [.ok d]).2 with
  | ok value => exact .inl rfl
  | panicked => exact .inr rfl
  | err e =>
      rw [outcome] at settled
      exact absurd trivial settled
  | waiting q =>
      rw [outcome] at settled
      exact absurd trivial settled

/-- A collection which returned shows the bytes of every reported integer exactly
    for an `Int64` in range, and for 0. -/
theorem collect_exact_iff {overflowChecks : Bool} {m m' : MongoMetrics F} {d : Document}
    (h : (collect overflowChecks).exec m [.ok d] = (m', .ok ())) :
    (∀ p ∈ memoryPaths, ∀ v n, d.at p = some v → v.integer? = some n →
        m'.exported p = some (2 ^ 20 * n)) ↔ d.InRange ∧ d.NoInt32 := by
  have exported := collect_exported h
  constructor
  · intro exact
    constructor
    · intro p listed v found
      have shown := exact p listed _ _ found rfl
      rw [exported] at shown
      exact ((shown_exact_iff listed found rfl _).mp shown).1 v rfl
    · intro p listed v found
      have shown := exact p listed _ _ found rfl
      rw [exported] at shown
      exact ((shown_exact_iff listed found rfl _).mp shown).2 v rfl
  · rintro ⟨inRange, noInt32⟩ p listed v n found integer
    rw [exported]
    apply (shown_exact_iff listed found integer _).mpr
    exact ⟨fun w same => inRange p listed w (same ▸ found),
      fun w same => noInt32 p listed w (same ▸ found)⟩

end MongoMetrics

/-! ## The loop -/

/-- The loop which `spawn_collect_loop` runs on a Mongo collector. -/
abbrev MongoTask (F : Type) :=
  CollectTask Unit (MongoMetrics F) MongoQuery (Except String Document) MetricsError

section
variable [LabelKey]

def mongoStep (overflowChecks : Bool) :
    MongoTask F → TaskAction Unit (Except String Document) → Option (MongoTask F) :=
  CollectTask.step fun _ => collect overflowChecks

/-- The collection got this document. -/
def Got (c : Collection Unit (MongoMetrics F) MongoQuery (Except String Document) MetricsError)
    (d : Document) : Prop :=
  ∃ others, c.replies = .ok d :: others

/-- Both multiplications of every conversion stayed within `i64`. -/
def NoOverflow (s : MongoTask F) : Prop :=
  ∀ c ∈ s.collections, ∀ d, Got c d → ∀ v ∈ d.converted,
    ¬ Overflows v 1024 ∧ ¬ Overflows (v * 1024) 1024

/-- After every reply the loop went on, and the gauges show the bytes of the
    integers in the document, whatever their encoding. -/
structure MemoryExact (s : MongoTask F) : Prop where
  running : s.phase ≠ .panicked
  exact : ∀ c ∈ s.collections, ∀ d, Got c d → ∀ p ∈ memoryPaths, ∀ v n, d.at p = some v →
    v.integer? = some n → c.after.exported p = some (2 ^ 20 * n)

/-- Every `Int64` which a document reports in megabytes is in range. -/
def AllInRange (s : MongoTask F) : Prop :=
  ∀ c ∈ s.collections, ∀ d, Got c d → d.InRange

/-- No document reports megabytes as an `Int32`, except for 0. -/
def NoInt32 (s : MongoTask F) : Prop :=
  ∀ c ∈ s.collections, ∀ d, Got c d → d.NoInt32

section
variable {overflowChecks : Bool} {state : MongoMetrics F} {now interval : Nat}
  {actions : List (TaskAction Unit (Except String Document))} {s : MongoTask F}

omit [LabelKey] in
theorem noOverflow_iff : NoOverflow s ↔ AllInRange s := by
  unfold NoOverflow AllInRange
  simp only [conversion_fits_iff, Document.converted_inRange]

/-- A finished collection is the execution against its document. -/
theorem got_exec (h : run (mongoStep overflowChecks) (.spawn state now interval) actions = some s)
    {c : Collection Unit (MongoMetrics F) MongoQuery (Except String Document) MetricsError}
    (member : c ∈ s.collections) {d : Document} (got : Got c d) :
    (collect overflowChecks).exec c.before [.ok d] = (c.after, c.outcome) := by
  obtain ⟨others, replies⟩ := got
  have ran := (CollectTask.run_traced h).ran c member
  rw [replies] at ran
  exact (collect_one_reply overflowChecks c.before d others).symm.trans ran

/-- A collection panics only over a document. -/
theorem got_of_panicked
    (h : run (mongoStep overflowChecks) (.spawn state now interval) actions = some s)
    {c : Collection Unit (MongoMetrics F) MongoQuery (Except String Document) MetricsError}
    (member : c ∈ s.collections) (panicked : c.outcome = .panicked) : ∃ d, Got c d := by
  have ran := congrArg Prod.snd ((CollectTask.run_traced h).ran c member)
  cases replies : c.replies with
  | nil =>
      rw [replies, panicked] at ran
      cases ran
  | cons reply others =>
      cases reply with
      | ok d => exact ⟨d, others, replies⟩
      | error e =>
          rw [replies, panicked] at ran
          cases ran

/-- Whatever outcomes the loop processes, no multiplication overflows exactly if
    all megabytes in an `Int64` are in range. The loop survives them all with exact
    gauges exactly if, besides, no megabytes are in an `Int32`. -/
theorem memory_exact_iff (positive : 0 < interval)
    (h : run (mongoStep overflowChecks) (.spawn state now interval) actions = some s) :
    (NoOverflow s ↔ AllInRange s) ∧ (MemoryExact s ↔ AllInRange s ∧ NoInt32 s) := by
  have seq := CollectTask.run_sequential positive h
  refine ⟨noOverflow_iff, ?_, ?_⟩
  · rintro ⟨running, exact⟩
    have both : ∀ c ∈ s.collections, ∀ d, Got c d → d.InRange ∧ d.NoInt32 := by
      intro c member d got
      have ran := got_exec h member got
      have fine : c.outcome = .ok () := by
        have outcome := collect_ok_or_panicked overflowChecks c.before d
        rw [ran] at outcome
        exact outcome.resolve_right (seq.survived running c member)
      rw [fine] at ran
      exact (collect_exact_iff ran).mp (exact c member d got)
    exact ⟨fun c member d got => (both c member d got).1,
      fun c member d got => (both c member d got).2⟩
  · rintro ⟨inRange, noInt32⟩
    have fine : ∀ c ∈ s.collections, ∀ d, Got c d → c.outcome = .ok () := by
      intro c member d got
      have outcome := collect_inRange overflowChecks c.before (inRange c member d got)
      rw [got_exec h member got] at outcome
      exact outcome
    constructor
    · intro panicked
      obtain ⟨c, member, bad⟩ := seq.panicked panicked
      obtain ⟨d, got⟩ := got_of_panicked h member bad
      cases (fine c member d got).symm.trans bad
    · intro c member d got
      have ran := got_exec h member got
      rw [fine c member d got] at ran
      exact (collect_exact_iff ran).mpr ⟨inRange c member d got, noInt32 c member d got⟩

end

end

/-- A reply with nothing but the resident memory. -/
def residentMemory (megabytes : Bson) : Document := [("mem", .document [("resident", megabytes)])]

/-- One tick, one reply, and the writes up to the end of the collection. -/
def oneReply (d : Document) (writes : Nat) : List (TaskAction Unit (Except String Document)) :=
  [.tick (), .reply (.ok d)] ++ List.replicate writes .work

section
attribute [local instance] LabelKey.tuples

theorem memory_exact_small :
    ∃ (m : MongoMetrics Exact) (s : MongoTask Exact), MongoMetrics.new {} = .ok m ∧
      run (mongoStep true) (.spawn m 0 (15 * 10 ^ 9)) (oneReply (residentMemory (.int64 512)) 7) =
        some s ∧ s.collections.length = 1 ∧ NoOverflow s ∧ MemoryExact s := by
  obtain ⟨m, made⟩ : ∃ m : MongoMetrics Exact, MongoMetrics.new {} = .ok m := ⟨_, rfl⟩
  obtain ⟨s, c, ran, only, heard⟩ : ∃ (s : MongoTask Exact) (c : Collection _ _ _ _ _),
      run (mongoStep true) (.spawn m 0 (15 * 10 ^ 9)) (oneReply (residentMemory (.int64 512)) 7) =
        some s ∧ s.collections = [c] ∧ c.replies = [.ok (residentMemory (.int64 512))] :=
    ⟨_, _, rfl, rfl, rfl⟩
  have got : ∀ c' ∈ s.collections, ∀ d, Got c' d → d = residentMemory (.int64 512) := by
    rintro c' member d ⟨others, replies⟩
    obtain rfl : c' = c := by simpa [only] using member
    rw [heard] at replies
    cases replies
    rfl
  have inRange : AllInRange s := by
    intro c' member d heard p listed v found
    obtain rfl := got c' member d heard
    cases p <;> cases found
    exact ⟨by decide, by decide⟩
  have noInt32 : NoInt32 s := by
    intro c' member d heard p listed v found
    obtain rfl := got c' member d heard
    cases p <;> cases found
  have exact := memory_exact_iff (by decide) ran
  exact ⟨m, s, made, ran, by rw [only]; rfl, exact.1.mpr inRange, exact.2.mpr ⟨inRange, noInt32⟩⟩

/-- 2^43 megabytes end the loop of a checked build and are negative in any other,
    and 512 of them in an `Int32` are exported as nothing. -/
theorem memory_exact_fails :
    ∃ m : MongoMetrics Exact, MongoMetrics.new {} = .ok m ∧
      (∃ s : MongoTask Exact, run (mongoStep true) (.spawn m 0 (15 * 10 ^ 9))
        (oneReply (residentMemory (.int64 (2 ^ 43))) 4) = some s ∧ s.phase = .panicked ∧
        ¬ NoOverflow s ∧ ¬ MemoryExact s) ∧
      (∃ s : MongoTask Exact, run (mongoStep false) (.spawn m 0 (15 * 10 ^ 9))
        (oneReply (residentMemory (.int64 (2 ^ 43))) 7) = some s ∧
        s.state.residentMemoryBytes.value = -2 ^ 63 ∧ ¬ MemoryExact s) ∧
      ∃ s : MongoTask Exact, run (mongoStep true) (.spawn m 0 (15 * 10 ^ 9))
        (oneReply (residentMemory (.int32 512)) 7) = some s ∧
        s.state.residentMemoryBytes.value = 0 ∧ ¬ MemoryExact s := by
  obtain ⟨m, made⟩ : ∃ m : MongoMetrics Exact, MongoMetrics.new {} = .ok m := ⟨_, rfl⟩
  obtain ⟨s, c, ran, ended, only, heard⟩ : ∃ (s : MongoTask Exact) (c : Collection _ _ _ _ _),
      run (mongoStep true) (.spawn m 0 (15 * 10 ^ 9))
        (oneReply (residentMemory (.int64 (2 ^ 43))) 4) = some s ∧ s.phase = .panicked ∧
        s.collections = [c] ∧ c.replies = [.ok (residentMemory (.int64 (2 ^ 43)))] :=
    ⟨_, _, rfl, rfl, rfl, rfl⟩
  obtain ⟨s', c', ran', shown, only', heard', after⟩ :
      ∃ (s : MongoTask Exact) (c : Collection _ _ _ _ _),
      run (mongoStep false) (.spawn m 0 (15 * 10 ^ 9))
        (oneReply (residentMemory (.int64 (2 ^ 43))) 7) = some s ∧
        s.state.residentMemoryBytes.value = -2 ^ 63 ∧ s.collections = [c] ∧
        c.replies = [.ok (residentMemory (.int64 (2 ^ 43)))] ∧
        c.after.exported .resident = some (-2 ^ 63) := ⟨_, _, rfl, rfl, rfl, rfl, rfl⟩
  obtain ⟨t, b, ranInt32, zero, onlyInt32, heardInt32, afterInt32⟩ :
      ∃ (s : MongoTask Exact) (c : Collection _ _ _ _ _),
      run (mongoStep true) (.spawn m 0 (15 * 10 ^ 9))
        (oneReply (residentMemory (.int32 512)) 7) = some s ∧
        s.state.residentMemoryBytes.value = 0 ∧ s.collections = [c] ∧
        c.replies = [.ok (residentMemory (.int32 512))] ∧
        c.after.exported .resident = some 0 := ⟨_, _, rfl, rfl, rfl, rfl, rfl⟩
  have listed : Path.resident ∈ memoryPaths := by simp [memoryPaths]
  refine ⟨m, made, ⟨s, ran, ended, ?_, ?_⟩, ⟨s', ran', shown, ?_⟩, t, ranInt32, zero, ?_⟩
  · intro fits
    have overflow := (fits c (by simp [only]) _ ⟨[], heard⟩ (2 ^ 43) (by decide)).2
    exact overflow (by decide)
  · intro exact
    exact exact.running ended
  · intro exact
    have wanted := exact.exact c' (by simp [only']) _ ⟨[], heard'⟩ _ listed _ _ rfl rfl
    rw [after] at wanted
    exact absurd wanted (by decide)
  · intro exact
    have wanted := exact.exact b (by simp [onlyInt32]) _ ⟨[], heardInt32⟩ _ listed _ _ rfl rfl
    rw [afterInt32] at wanted
    exact absurd wanted (by decide)

end

end DrMetrix.Mongo
