import DrMetrix.Mongo.Encoding

/-! # Do earlier replies show through?

A field which a section lacks is exported as 0. A section which a reply lacks is
skipped, and its gauges keep what an earlier reply left in them.
-/

namespace DrMetrix.Mongo

open Prometheus

variable {F : Type}

/-- The reply contains the section of the path. -/
def Document.Covers (d : Document) (p : Path) : Prop := (d.descend p.sections).isSome

namespace MongoMetrics

theorem shown_covered {d : Document} {p : Path} (covered : d.Covers p) (before before' : Option Int) :
    d.shown p before = d.shown p before' := by
  obtain ⟨e, descended⟩ := Option.isSome_iff_exists.mp covered
  simp only [Document.shown, Document.reading, descended, Option.map_some]

theorem shown_uncovered {d : Document} {p : Path} (uncovered : ¬ d.Covers p) (before : Option Int) :
    d.shown p before = before := by
  have none : d.descend p.sections = none := Option.not_isSome_iff_eq_none.mp uncovered
  simp only [Document.shown, Document.reading, none, Option.map_none]

/-- The same value in every field. -/
def filled (k : Int64) : Document :=
  [("connections", .document
      [("current", .int64 k), ("available", .int64 k), ("totalCreated", .int64 k)]),
    ("opcounters", .document (ops.map fun op => (op, .int64 k))),
    ("network", .document
      [("bytesIn", .int64 k), ("bytesOut", .int64 k), ("numRequests", .int64 k)]),
    ("mem", .document [("resident", .int64 k), ("virtual", .int64 k)]),
    ("wiredTiger", .document [("cache", .document
      [("bytes currently in the cache", .int64 k), ("maximum bytes configured", .int64 k),
        ("tracked dirty bytes in the cache", .int64 k)])])]

theorem filled_at (k : Int64) (p : Path) : (filled k).at p = some (.int64 k) := by
  cases p with
  | opcounter op => cases op <;> rfl
  | _ => rfl

section
variable [LabelKey]

/-- Any earlier calls of `collect`, each with its replies. -/
def after (m : MongoMetrics F) (overflowChecks : Bool)
    (history : List (List (Except String Document))) : MongoMetrics F :=
  history.foldl (fun m replies => ((collect overflowChecks).exec m replies).1) m

/-- Two states show the same after a reply exactly if they did before, wherever
    the reply has no section. -/
theorem exported_eq_iff {overflowChecks : Bool} {m m' n n' : MongoMetrics F} {d : Document}
    (first : (collect overflowChecks).exec m [.ok d] = (m', .ok ()))
    (second : (collect overflowChecks).exec n [.ok d] = (n', .ok ())) :
    (∀ p, m'.exported p = n'.exported p) ↔
      ∀ p, ¬ d.Covers p → m.exported p = n.exported p := by
  have each : ∀ p, m'.exported p = n'.exported p ↔
      (¬ d.Covers p → m.exported p = n.exported p) := by
    intro p
    rw [collect_exported first, collect_exported second]
    by_cases covered : d.Covers p
    · simp only [shown_covered covered (m.exported p) (n.exported p), covered, not_true,
        false_implies]
    · simp only [shown_uncovered covered, covered, not_false_iff, true_implies]
  exact forall_congr' each

/-! ## Replies with every section -/

theorem collect_filled (overflowChecks : Bool) (m : MongoMetrics F) {k : Int64}
    (small : k = 0 ∨ k = 1) :
    ((collect overflowChecks).exec m [.ok (filled k)]).2 = .ok () := by
  rcases small with rfl | rfl <;> cases overflowChecks <;> rfl

theorem exported_filled (overflowChecks : Bool) (m : MongoMetrics F) {k : Int64}
    (small : k = 0 ∨ k = 1) (p : Path) :
    (m.after overflowChecks [[.ok (filled k)]]).exported p = some (p.unit * k.toInt) := by
  have collected : (collect overflowChecks).exec m [.ok (filled k)] =
      (m.after overflowChecks [[.ok (filled k)]], .ok ()) :=
    Prod.ext rfl (collect_filled overflowChecks m small)
  have fits : Fits (p.unit * k.toInt) := by
    rcases small with rfl | rfl
    · exact p.fits_int32 0
    · exact p.fits_int32 1
  rw [collect_exported collected, Document.shown_int64 (filled_at k p) fits]

/-! ## Independence -/

/-- The collector was constructed and then saw some history. -/
def Reached (overflowChecks : Bool) (m : MongoMetrics F) : Prop :=
  ∃ (config : CollectorConfig) (fresh : MongoMetrics F)
    (history : List (List (Except String Document))),
    new config = .ok fresh ∧ m = fresh.after overflowChecks history

/-- After the reply every reached state shows the same. -/
def HistoryIndependent (F : Type) (overflowChecks : Bool) (d : Document) : Prop :=
  ∀ m n : MongoMetrics F, Reached overflowChecks m → Reached overflowChecks n →
    ∀ p, (m.after overflowChecks [[.ok d]]).exported p =
      (n.after overflowChecks [[.ok d]]).exported p

theorem collect_ok_of_answer {overflowChecks : Bool} {d : Document}
    (returns : ((collect overflowChecks : Async (MongoMetrics F) _ _ _ _).answer [.ok d]).1 =
      .ok ()) (m : MongoMetrics F) :
    (collect overflowChecks).exec m [.ok d] = (m.after overflowChecks [[.ok d]], .ok ()) :=
  Prod.ext rfl ((Async.exec_answer _ m _).trans returns)

/-- A reply erases the past of two states exactly if they agree where it has no
    section, and of all reached states exactly if it has every section. -/
theorem history_independent_iff {overflowChecks : Bool} {d : Document}
    (returns : ((collect overflowChecks : Async (MongoMetrics F) _ _ _ _).answer [.ok d]).1 =
      .ok ()) :
    (∀ m n : MongoMetrics F, (∀ p, (m.after overflowChecks [[.ok d]]).exported p =
        (n.after overflowChecks [[.ok d]]).exported p) ↔
      ∀ p, ¬ d.Covers p → m.exported p = n.exported p) ∧
    (HistoryIndependent F overflowChecks d ↔ ∀ p, d.Covers p) := by
  have pairs := fun m n : MongoMetrics F =>
    exported_eq_iff (collect_ok_of_answer returns m) (collect_ok_of_answer returns n)
  refine ⟨pairs, ?_, ?_⟩
  · intro independent p
    by_contra uncovered
    obtain ⟨fresh, made⟩ : ∃ fresh : MongoMetrics F, new {} = .ok fresh := ⟨_, rfl⟩
    have reached : ∀ history, Reached overflowChecks (fresh.after overflowChecks history) :=
      fun history => ⟨{}, fresh, history, made, rfl⟩
    have zeros := reached [[.ok (filled 0)]]
    have ones := reached [[.ok (filled 1)]]
    have same := (pairs _ _).mp (independent _ _ zeros ones) p uncovered
    rw [exported_filled overflowChecks fresh (.inl rfl),
      exported_filled overflowChecks fresh (.inr rfl)] at same
    rw [Int64.toInt_zero, Int.mul_zero] at same
    exact absurd (Path.unit_mul_eq_zero.mp (Option.some.inj same).symm) (by decide)
  · intro covered m n _ _
    exact (pairs m n).mpr fun p uncovered => absurd (covered p) uncovered

end

section
attribute [local instance] LabelKey.tuples

theorem history_independent_filled : HistoryIndependent Exact true (filled 1) := by
  have returns : ((collect true : Async (MongoMetrics Exact) _ _ _ _).answer
      [.ok (filled 1)]).1 = .ok () := rfl
  apply (history_independent_iff returns).2.mpr
  intro p
  cases p <;> rfl

/-- A reply of a server without WiredTiger. -/
def withoutCache : Document := (filled 1).take 4

/-- The cache of a storage engine which is gone is still exported. -/
theorem history_independent_fails :
    ∃ m : MongoMetrics Exact, new {} = .ok m ∧
      let cold := m.after true [[.ok withoutCache]]
      let warm := (m.after true [[.ok (filled 1)]]).after true [[.ok withoutCache]]
      cold.exported .cacheInUse = some 0 ∧ warm.exported .cacheInUse = some 1 ∧
        ¬ HistoryIndependent Exact true withoutCache := by
  obtain ⟨m, made, zero⟩ : ∃ m : MongoMetrics Exact, new {} = .ok m ∧
      (m.after true [[.ok withoutCache]]).exported .cacheInUse = some 0 := ⟨_, rfl, rfl⟩
  have one : ((m.after true [[.ok (filled 1)]]).after true [[.ok withoutCache]]).exported
      .cacheInUse = some 1 := rfl
  refine ⟨m, made, zero, one, ?_⟩
  intro independent
  have same := independent m (m.after true [[.ok (filled 1)]])
    ⟨{}, m, [], made, rfl⟩ ⟨{}, m, _, made, rfl⟩ .cacheInUse
  rw [zero, one] at same
  exact absurd same (by decide)

end

end MongoMetrics

end DrMetrix.Mongo
