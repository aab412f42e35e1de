import DrMetrix.Postgres.Collection

/-! # The adapters are interchangeable

Given a connection and a completed query, what an adapter returns is a function
of the cells, the same for all three up to the texts of their errors. A
collection publishes the same series over any of them.
-/

namespace DrMetrix.Postgres

open Prometheus

variable {F : Type}

/-- The cell is not a text, or the text is not JSON. -/
def Libraries.Bad (libraries : Libraries F) : Cell → Prop
  | .text s => ∃ e, libraries.fromStr s = .error e
  | .null | .undecodable => True

theorem Libraries.json?_eq_none {libraries : Libraries F} {cell : Cell} :
    libraries.json? cell = none ↔ libraries.Bad cell := by
  cases cell with
  | text s =>
      change (libraries.fromStr s).toOption = none ↔ ∃ e, libraries.fromStr s = .error e
      cases libraries.fromStr s <;> simp [Except.toOption]
  | null | undecodable => exact iff_of_true rfl trivial

/-- The rows of a reply, unless a cell is bad. -/
def Libraries.rows? (libraries : Libraries F) (cells : List Cell) : Option (List (Row F)) :=
  (cells.mapM libraries.json?).map fun vals => vals.filterMap Value.object?

theorem mapM_eq_none {α β : Type} {f : α → Option β} {as : List α} :
    as.mapM f = none ↔ ∃ a ∈ as, f a = none := by
  induction as with
  | nil => simp
  | cons a as ih =>
      rw [List.mapM_cons, List.exists_mem_cons_iff, ← ih]
      cases f a with
      | none => simp
      | some b => cases as.mapM f <;> simp

/-- Without a bad cell, every cell stands for itself. -/
theorem Libraries.rows?_clean {libraries : Libraries F} {cells : List Cell}
    (clean : ∀ cell ∈ cells, ¬ libraries.Bad cell) :
    libraries.rows? cells = some (cells.filterMap fun cell =>
      (libraries.json? cell).bind Value.object?) := by
  unfold Libraries.rows?
  induction cells with
  | nil => rfl
  | cons cell cells ih =>
      obtain ⟨head, tail⟩ := List.forall_mem_cons.mp clean
      obtain ⟨val, known⟩ : ∃ val, libraries.json? cell = some val :=
        Option.ne_none_iff_exists'.mp fun none => head (Libraries.json?_eq_none.mp none)
      have rest := ih tail
      rw [List.mapM_cons, known]
      cases later : cells.mapM libraries.json? with
      | none =>
          rw [later] at rest
          cases rest
      | some vals =>
          rw [later] at rest
          have same := Option.some.inj rest
          simp only [Option.bind_eq_bind, Option.bind_some, Option.pure_def, Option.map_some,
            List.filterMap_cons, known, same]

/-! ## Whole collections -/

namespace PostgresMetrics

variable [Binary64 F] [LabelKey]

/-- What a collection publishes of the given results, and whether it gets to
    the end. -/
def published (rows : Group → Option (List (Row F))) :
    List Group → PostgresMetrics F → PostgresMetrics F × Bool
  | [], m => (m, true)
  | g :: gs, m =>
      match rows g with
      | some found => published rows gs (m.publishGroup g found)
      | none => (m, false)

/-- The published series depend on the series before and on the rows. -/
theorem published_vec (rows : Group → Option (List (Row F))) (gs : List Group)
    {m n : PostgresMetrics F} (same : ∀ f, m.vec f = n.vec f) :
    (∀ f, (published rows gs m).1.vec f = (published rows gs n).1.vec f) ∧
      (published rows gs m).2 = (published rows gs n).2 := by
  induction gs generalizing m n with
  | nil => exact ⟨same, rfl⟩
  | cons g gs ih =>
      unfold published
      cases rows g with
      | none => exact ⟨same, rfl⟩
      | some found =>
          apply ih
          intro f
          rw [publishGroup_vec, publishGroup_vec, same]

end PostgresMetrics

namespace Adapter

variable (libraries : Libraries F)

/-- The replies of a pool which connects and completes every query. -/
def completed (adapter : Adapter) (cells : Group → List Cell) (gs : List Group) :
    List PoolReply :=
  gs.flatMap fun g => adapter.connected ++ [.ok (cells g)]

theorem inStages_published [Binary64 F] [LabelKey] (adapter : Adapter) (cells : Group → List Cell)
    (gs : List Group) (m : PostgresMetrics F) :
    let collected := (Async.inStages (fun g : Group => adapter.queryJson libraries g.sql)
      PostgresMetrics.publishGroup gs).exec m (adapter.completed cells gs)
    let published := PostgresMetrics.published (fun g => libraries.rows? (cells g)) gs m
    collected.1 = published.1 ∧ (collected.2 = .ok () ↔ published.2 = true) := by
  induction gs generalizing m with
  | nil => exact ⟨rfl, iff_of_true rfl rfl⟩
  | cons g gs ih =>
      intro collected published
      have replies : adapter.completed cells (g :: gs) =
          adapter.connected ++ .ok (cells g) :: adapter.completed cells gs := by
        simp [completed]
      have still : ((adapter.queryJson libraries g.sql).exec m
          (adapter.completed cells (g :: gs))).1 = m :=
        (adapter.queryJson_frames libraries id g.sql).exec m _
      have unfolded := Async.exec_bind (adapter.queryJson libraries g.sql)
        (fun rows => do
          Async.modify (PostgresMetrics.publishGroup g rows)
          Async.inStages (fun g : Group => adapter.queryJson libraries g.sql)
            PostgresMetrics.publishGroup gs) m (adapter.completed cells (g :: gs))
      rw [still, replies, adapter.queryJson_answer libraries g.sql] at unfolded
      rw [← replies] at unfolded
      change collected = _ at unfolded
      have agrees := adapter.decoded_agrees libraries (cells g)
      change Agrees _ (libraries.rows? (cells g)) at agrees
      cases given : libraries.rows? (cells g) with
      | none =>
          rw [given] at agrees
          obtain ⟨e, failed⟩ := agrees
          rw [failed] at unfolded
          have none : published = (m, false) := by
            simp only [published, PostgresMetrics.published, given]
          rw [unfolded, none]
          exact ⟨rfl, iff_of_false (fun ok => nomatch ok) Bool.false_ne_true⟩
      | some rows =>
          rw [given] at agrees
          rw [show adapter.decoded libraries (cells g) = .ok rows from agrees] at unfolded
          have next : published = PostgresMetrics.published (fun g => libraries.rows? (cells g)) gs
              (m.publishGroup g rows) := by
            simp only [published, PostgresMetrics.published, given]
          rw [unfolded, next]
          exact ih (m.publishGroup g rows)

/-- Given a connection and a completed query, nothing is written and the outcome
    is that of reading the cells. -/
theorem queryJson_completed {σ : Type} (adapter : Adapter) (sql : String) (cells : List Cell)
    (s : σ) :
    let ran := (adapter.queryJson libraries sql : Async σ _ _ _ _).exec s
      (adapter.connected ++ [.ok cells])
    ran.1 = s ∧
      match libraries.rows? cells with
      | some rows => ran.2 = .ok rows
      | none => ∃ e, ran.2 = .err (.database e) := by
  intro ran
  refine ⟨(adapter.queryJson_frames libraries id sql).exec s _, ?_⟩
  have outcome : ran.2 = _ := Async.exec_answer _ s _
  rw [outcome, adapter.queryJson_answer libraries sql]
  have agrees : Agrees (adapter.decoded libraries cells) (libraries.rows? cells) :=
    adapter.decoded_agrees libraries cells
  cases given : libraries.rows? cells with
  | some rows =>
      rw [given] at agrees
      rw [show adapter.decoded libraries cells = .ok rows from agrees]
  | none =>
      rw [given] at agrees
      obtain ⟨e, failed⟩ := agrees
      exact ⟨e, by rw [failed]⟩

end Adapter

/-- A database error for a bad cell, and otherwise the objects in row order. -/
theorem Libraries.rows?_bad {libraries : Libraries F} {cells : List Cell} :
    libraries.rows? cells = none ↔ ∃ cell ∈ cells, libraries.Bad cell := by
  simp only [Libraries.rows?, Option.map_eq_none_iff, mapM_eq_none, Libraries.json?_eq_none]

/-- Whichever adapter is compiled in. -/
structure Interchangeable [Binary64 F] [LabelKey] (libraries : Libraries F) : Prop where
  statement : ∀ (adapter : Adapter) sql (m : PostgresMetrics F),
    ((adapter.queryJson libraries sql).exec m adapter.connected).2 =
      .waiting (.statement (wrap sql))
  /-- The query only reads. -/
  silent : ∀ (adapter : Adapter) sql cells (m : PostgresMetrics F),
    ((adapter.queryJson libraries sql).exec m (adapter.connected ++ [.ok cells])).1 = m
  fails : ∀ (adapter : Adapter) sql cells (m : PostgresMetrics F),
    (∃ e, ((adapter.queryJson libraries sql).exec m (adapter.connected ++ [.ok cells])).2 =
      .err (.database e)) ↔ ∃ cell ∈ cells, libraries.Bad cell
  /-- The objects in row order; a valid value which is no object is left out. -/
  returns : ∀ (adapter : Adapter) sql cells (m : PostgresMetrics F),
    (∀ cell ∈ cells, ¬ libraries.Bad cell) →
      ((adapter.queryJson libraries sql).exec m (adapter.connected ++ [.ok cells])).2 =
        .ok (cells.filterMap fun cell => (libraries.json? cell).bind Value.object?)
  /-- The pool gauges may differ, the labelled families do not. -/
  collects : ∀ (a b : Adapter) (cells : Group → List Cell) (statusA statusB : PoolStatus)
    (m n : PostgresMetrics F), (∀ f, m.vec f = n.vec f) →
      let collectedA := (PostgresMetrics.collectVia (a.queryJson libraries) statusA).exec m
        (a.completed cells Group.order)
      let collectedB := (PostgresMetrics.collectVia (b.queryJson libraries) statusB).exec n
        (b.completed cells Group.order)
      (∀ f, collectedA.1.vec f = collectedB.1.vec f) ∧
        (collectedA.2 = .ok () ↔ collectedB.2 = .ok ())

theorem adapters_interchangeable [Binary64 F] [LabelKey] (libraries : Libraries F) :
    Interchangeable libraries where
  statement adapter sql m := by
    rw [Async.exec_answer, adapter.queryJson_statement libraries sql]
  silent adapter sql cells m := (adapter.queryJson_completed libraries sql cells m).1
  fails adapter sql cells m := by
    have outcome := (adapter.queryJson_completed libraries sql cells m).2
    rw [← Libraries.rows?_bad]
    cases given : libraries.rows? cells with
    | none =>
        rw [given] at outcome
        exact iff_of_true outcome rfl
    | some rows =>
        rw [given] at outcome
        simp only at outcome
        simp [outcome]
  returns adapter sql cells m clean := by
    have outcome := (adapter.queryJson_completed libraries sql cells m).2
    rw [Libraries.rows?_clean clean] at outcome
    exact outcome
  collects a b cells statusA statusB m n same := by
    have ranA := a.inStages_published libraries cells Group.order (m.publishPool statusA)
    have ranB := b.inStages_published libraries cells Group.order (n.publishPool statusB)
    have pools : ∀ f, (m.publishPool statusA).vec f = (n.publishPool statusB).vec f := by
      intro f
      rw [PostgresMetrics.publishPool_vec, PostgresMetrics.publishPool_vec, same]
    have both := PostgresMetrics.published_vec (fun g => libraries.rows? (cells g)) Group.order
      pools
    simp only [PostgresMetrics.collectVia_stages, Async.exec]
    constructor
    · intro f
      rw [ranA.1, ranB.1]
      exact both.1 f
    · rw [ranA.2, ranB.2, both.2]

/-- A decoder with its messages. -/
def refusing (onNull onUndecodable : String) : TextDecoder where
  get
    | .text s => .ok s
    | .null => .error onNull
    | .undecodable => .error onUndecodable
  text := fun _ => rfl
  null := ⟨_, rfl⟩
  undecodable := ⟨_, rfl⟩

/-- A parser which knows two texts. -/
def twoTexts : Libraries Exact where
  fromStr
    | "\x7b\x7d" => .ok (.object [])
    | "1" => .ok (.posInt 1)
    | _ => .error "expected value at line 1 column 1"
  namedRowGet := refusing "Unexpected null for non-null column" "invalid utf-8 sequence"
  tryGet := refusing "A null value was encountered while decoding" "mismatched types"

attribute [local instance] LabelKey.tuples in
theorem adapters_interchangeable_two_texts :
    ∀ adapter : Adapter, ∀ m : PostgresMetrics Exact,
      ((adapter.queryJson twoTexts "SELECT 1").exec m
        (adapter.connected ++ [.ok [.text "1", .text "\x7b\x7d"]])).2 = .ok [[]] ∧
      ∃ e, ((adapter.queryJson twoTexts "SELECT 1").exec m
        (adapter.connected ++ [.ok [.text "\x7b\x7d", .null]])).2 = .err (.database e) := by
  intro adapter m
  have laws := adapters_interchangeable twoTexts
  constructor
  · rw [laws.returns adapter _ _ m]
    · rfl
    · intro cell member bad
      rw [← Libraries.json?_eq_none] at bad
      simp only [List.mem_cons, List.not_mem_nil, or_false] at member
      obtain rfl | rfl := member <;> cases bad
  · apply (laws.fails adapter _ _ m).mpr
    exact ⟨.null, by simp, trivial⟩

end DrMetrix.Postgres
