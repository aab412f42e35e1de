import DrMetrix.Postgres.Metrics

/-! # Does a Postgres collection show the latest rows?

Eleven families get one series for each row of one of the three queries. A row
overwrites its series, and nothing removes the series of a row which is gone.
-/

namespace DrMetrix.Postgres

open Prometheus

variable {F : Type}

/-- The three queries. -/
inductive Group where
  | databases
  | tables
  | locks
  deriving DecidableEq

/-- The labels of a row. -/
def Group.labels : Group → Row F → LabelValues
  | .databases, row => [row.getStr "datname"]
  | .tables, row => [row.getStr "schemaname", row.getStr "relname"]
  | .locks, row => [row.getStr "mode"]

/-- The labelled families which a collection writes. -/
inductive Vec where
  | dbNumbackends
  | dbXactCommit
  | dbXactRollback
  | dbBlksHit
  | dbBlksRead
  | dbSizeBytes
  | tableSeqScan
  | tableIdxScan
  | tableLiveTup
  | tableDeadTup
  | lockCount

namespace Vec

def group : Vec → Group
  | dbNumbackends | dbXactCommit | dbXactRollback | dbBlksHit | dbBlksRead | dbSizeBytes =>
      .databases
  | tableSeqScan | tableIdxScan | tableLiveTup | tableDeadTup => .tables
  | lockCount => .locks

def column : Vec → String
  | dbNumbackends => "numbackends"
  | dbXactCommit => "xact_commit"
  | dbXactRollback => "xact_rollback"
  | dbBlksHit => "blks_hit"
  | dbBlksRead => "blks_read"
  | dbSizeBytes => "size_bytes"
  | tableSeqScan => "seq_scan"
  | tableIdxScan => "idx_scan"
  | tableLiveTup => "n_live_tup"
  | tableDeadTup => "n_dead_tup"
  | lockCount => "cnt"

end Vec

namespace PostgresMetrics

def vec (m : PostgresMetrics F) : Vec → IntGaugeVec
  | .dbNumbackends => m.dbNumbackends
  | .dbXactCommit => m.dbXactCommit
  | .dbXactRollback => m.dbXactRollback
  | .dbBlksHit => m.dbBlksHit
  | .dbBlksRead => m.dbBlksRead
  | .dbSizeBytes => m.dbSizeBytes
  | .tableSeqScan => m.tableSeqScan
  | .tableIdxScan => m.tableIdxScan
  | .tableLiveTup => m.tableLiveTup
  | .tableDeadTup => m.tableDeadTup
  | .lockCount => m.lockCount

theorem publishPool_vec (status : PoolStatus) (m : PostgresMetrics F) (f : Vec) :
    (m.publishPool status).vec f = m.vec f := by
  cases f <;> rfl

theorem new_fresh {config : CollectorConfig} {m : PostgresMetrics F} (h : new config = .ok m)
    (f : Vec) : (m.vec f).children = ∅ := by
  simp only [new, bind_eq_ok, pure_eq_ok] at h
  obtain ⟨_, -, _, -, _, -, _, h4, _, h5, _, h6, _, h7, _, h8, _, h9, _, h10, _, h11, _, h12, _,
    h13, _, h14, _, -, _, -, rfl⟩ := h
  have inSub : "postgres" ≠ "" := by decide
  cases f with
  | dbNumbackends => exact (metricVec_ok inSub (by decide) h4).2
  | dbXactCommit => exact (metricVec_ok inSub (by decide) h5).2
  | dbXactRollback => exact (metricVec_ok inSub (by decide) h6).2
  | dbBlksHit => exact (metricVec_ok inSub (by decide) h7).2
  | dbBlksRead => exact (metricVec_ok inSub (by decide) h8).2
  | dbSizeBytes => exact (metricVec_ok inSub (by decide) h9).2
  | tableSeqScan => exact (metricVec_ok inSub (by decide) h10).2
  | tableIdxScan => exact (metricVec_ok inSub (by decide) h11).2
  | tableLiveTup => exact (metricVec_ok inSub (by decide) h12).2
  | tableDeadTup => exact (metricVec_ok inSub (by decide) h13).2
  | lockCount => exact (metricVec_ok inSub (by decide) h14).2

variable [Binary64 F]

/-- The exported series describe exactly the given rows. -/
structure Snapshot (rows : Group → List (Row F)) (m : PostgresMetrics F) : Prop where
  shown : ∀ f : Vec, ∀ row ∈ rows f.group,
    (m.vec f).series (f.group.labels row) = some (row.getI64 f.column).toInt
  /-- An integer cell is shown as that integer. -/
  exact : ∀ f : Vec, ∀ row ∈ rows f.group, ∀ n, (row.get f.column).bind Value.asI64 = some n →
    (m.vec f).series (f.group.labels row) = some n.toInt
  /-- Whatever has no row is absent or reads 0. -/
  gone : ∀ (f : Vec) k, (∀ row ∈ rows f.group, f.group.labels row ≠ k) → (m.vec f).read k = 0

section
variable [LabelKey]

/-- Any earlier calls of `collect`, each with its pool status and its replies. -/
def after (m : PostgresMetrics F) (history : List (PoolStatus × List (Reply F))) :
    PostgresMetrics F :=
  history.foldl (fun m call => ((collect call.1).exec m call.2).1) m

/-- A row goes to the families of its group and to no other. -/
def Feeds (publish : PostgresMetrics F → Row F → PostgresMetrics F) (g : Group) : Prop :=
  ∀ m row f, (publish m row).vec f =
    if f.group = g then (m.vec f).set (g.labels row) (row.getI64 f.column) else m.vec f

theorem Feeds.foldl_vec {publish : PostgresMetrics F → Row F → PostgresMetrics F} {g : Group}
    (feeds : Feeds publish g) (m : PostgresMetrics F) (rows : List (Row F)) (f : Vec) :
    (rows.foldl publish m).vec f =
      if f.group = g then (m.vec f).setRows g.labels (fun row => row.getI64 f.column) rows
      else m.vec f := by
  induction rows generalizing m with
  | nil =>
      rw [List.foldl_nil]
      split <;> rfl
  | cons row rows ih =>
      rw [List.foldl_cons, ih, feeds]
      split <;> rfl

theorem publishDb_feeds : Feeds (publishDb : PostgresMetrics F → _) .databases := by
  intro m row f
  cases f <;> rfl

theorem publishTable_feeds : Feeds (publishTable : PostgresMetrics F → _) .tables := by
  intro m row f
  cases f <;> rfl

theorem publishLock_feeds : Feeds (publishLock : PostgresMetrics F → _) .locks := by
  intro m row f
  cases f <;> rfl

/-- What a successful collection writes to the families. -/
def publish (rows : Group → List (Row F)) (m : PostgresMetrics F) : PostgresMetrics F :=
  (rows .locks).foldl publishLock
    ((rows .tables).foldl publishTable ((rows .databases).foldl publishDb m))

theorem publish_vec (rows : Group → List (Row F)) (m : PostgresMetrics F) (f : Vec) :
    (m.publish rows).vec f =
      (m.vec f).setRows f.group.labels (fun row => row.getI64 f.column) (rows f.group) := by
  rw [publish, publishLock_feeds.foldl_vec, publishTable_feeds.foldl_vec,
    publishDb_feeds.foldl_vec]
  cases f <;> rfl

theorem collect_ok (status : PoolStatus) (m : PostgresMetrics F)
    (rows : Group → List (Row F)) :
    (collect status).exec m [.ok (rows .databases), .ok (rows .tables), .ok (rows .locks)] =
      ((m.publishPool status).publish rows, .ok ()) := rfl

/-- With distinct labels in each result, a family shows the rows of its query
    unless it keeps an older value. -/
theorem snapshot_iff (each : LabelKey.OneChildEach) (rows : Group → List (Row F))
    (m : PostgresMetrics F) (distinct : ∀ g, ((rows g).map g.labels).Nodup) :
    Snapshot rows (m.publish rows) ↔
      ∀ f k, (m.vec f).read k ≠ 0 → ∃ row ∈ rows f.group, f.group.labels row = k := by
  have shows : ∀ (f : Vec) k, Family.ShowsAt 0 f.group.labels
      (fun row => (row.getI64 f.column).toInt) (rows f.group) ((m.publish rows).vec f).children k ↔
      ((m.vec f).read k ≠ 0 → ∃ row ∈ rows f.group, f.group.labels row = k) := by
    intro f k
    rw [publish_vec, IntGaugeVec.children_setRows]
    exact Family.setAll_showsAt_iff (each.alone k) 0 _ _ _ _
  constructor
  · intro snapshot f k
    rw [← shows]
    unfold Family.ShowsAt
    cases found : Family.latest f.group.labels k (rows f.group) with
    | some row =>
        obtain ⟨member, rfl⟩ := Family.latest_some found
        exact snapshot.shown f row member
    | none => exact snapshot.gone f k (Family.latest_eq_none.mp found)
  · intro covered
    have shown : ∀ f : Vec, ∀ row ∈ rows f.group,
        ((m.publish rows).vec f).series (f.group.labels row) =
          some (row.getI64 f.column).toInt := by
      intro f row member
      have at_row := (shows f _).mpr (covered f (f.group.labels row))
      rw [Family.ShowsAt, Family.latest_of_nodup (distinct _) member] at at_row
      exact at_row
    refine ⟨shown, ?_, ?_⟩
    · intro f row member n cell
      rw [shown f row member, Row.getI64_integer cell]
    · intro f k absent
      have at_key := (shows f k).mpr (covered f k)
      rw [Family.ShowsAt, Family.latest_eq_none.mpr absent] at at_key
      exact at_key

/-- The first collection is always exact. -/
theorem new_snapshot (each : LabelKey.OneChildEach) {config : CollectorConfig}
    {m : PostgresMetrics F} (h : new config = .ok m) (status : PoolStatus) (rows : Group → List (Row F))
    (distinct : ∀ g, ((rows g).map g.labels).Nodup) :
    Snapshot rows ((m.publishPool status).publish rows) := by
  apply (snapshot_iff each rows _ distinct).mpr
  intro f k stale
  rw [publishPool_vec, IntGaugeVec.read, new_fresh h f, Family.read, Family.get?_empty] at stale
  exact absurd rfl stale

/-- Whatever was collected before, a successful collection shows its rows
    exactly if every series which reads nonzero has a row in them. -/
theorem collect_latest_iff (each : LabelKey.OneChildEach) (m : PostgresMetrics F)
    (history : List (PoolStatus × List (Reply F))) (status : PoolStatus)
    (rows : Group → List (Row F)) (distinct : ∀ g, ((rows g).map g.labels).Nodup) :
    let before := m.after history
    let collected := (collect status).exec before
      [.ok (rows .databases), .ok (rows .tables), .ok (rows .locks)]
    collected.2 = .ok () ∧
      (Snapshot rows collected.1 ↔
        ∀ f k, (before.vec f).read k ≠ 0 → ∃ row ∈ rows f.group, f.group.labels row = k) := by
  intro before collected
  rw [show collected = _ from collect_ok status before rows]
  refine ⟨rfl, ?_⟩
  rw [snapshot_iff each rows _ distinct]
  simp only [publishPool_vec]

end

/-- The lock query with one mode in its result. -/
def heldLock (mode : String) (cnt : UInt64) : Group → List (Row F)
  | .locks => [[("mode", .string mode), ("cnt", .posInt cnt)]]
  | _ => []

section
attribute [local instance] LabelKey.tuples

theorem collect_latest_held :
    ∃ m : PostgresMetrics Exact, new {} = .ok m ∧
      let idle : PoolStatus := { maxSize := 4, available := 4, inUse := 0 }
      let earlier : Group → List (Row Exact) := heldLock "AccessShareLock" 3
      let latest : Group → List (Row Exact) := heldLock "AccessShareLock" 5
      let before := m.after
        [(idle, [.ok (earlier .databases), .ok (earlier .tables), .ok (earlier .locks)])]
      Snapshot latest ((collect idle).exec before
        [.ok (latest .databases), .ok (latest .tables), .ok (latest .locks)]).1 := by
  obtain ⟨m, built⟩ : ∃ m : PostgresMetrics Exact, new {} = .ok m := ⟨_, rfl⟩
  refine ⟨m, built, ?_⟩
  intro idle earlier latest before
  have distinct : ∀ g : Group, ((latest g).map g.labels).Nodup := by
    intro g
    cases g <;> decide +kernel
  apply (collect_latest_iff LabelKey.tuples_each m _ idle latest distinct).2.mpr
  intro f k stale
  have before_exact := new_snapshot LabelKey.tuples_each built idle earlier
    (by intro g; cases g <;> decide +kernel)
  have covered : ∃ row ∈ earlier f.group, f.group.labels row = k := by
    by_contra absent
    apply stale
    apply before_exact.gone
    intro row member same
    exact absent ⟨row, member, same⟩
  obtain ⟨row, member, rfl⟩ := covered
  cases f with
  | lockCount =>
      obtain rfl := List.mem_singleton.mp member
      exact ⟨_, List.mem_singleton_self _, by decide +kernel⟩
  | _ => cases member

/-- A lock mode which nobody holds any more is still reported as held. -/
theorem collect_latest_fails :
    ∃ m : PostgresMetrics Exact, new {} = .ok m ∧
      let idle : PoolStatus := { maxSize := 4, available := 4, inUse := 0 }
      let earlier : Group → List (Row Exact) := heldLock "AccessShareLock" 3
      let before := m.after
        [(idle, [.ok (earlier .databases), .ok (earlier .tables), .ok (earlier .locks)])]
      let collected := (collect idle).exec before [.ok [], .ok [], .ok []]
      collected.2 = .ok () ∧ collected.1.lockCount.read ["AccessShareLock"] = 3 ∧
        ¬ Snapshot (fun _ => []) collected.1 := by
  obtain ⟨m, built, three⟩ : ∃ m : PostgresMetrics Exact, new {} = .ok m ∧
      ((m.publish (heldLock "AccessShareLock" 3)).publish (fun _ => [])).lockCount.read
        ["AccessShareLock"] = 3 := by
    refine ⟨_, rfl, ?_⟩
    decide +kernel
  refine ⟨m, built, rfl, three, ?_⟩
  intro snapshot
  have absent := snapshot.gone .lockCount ["AccessShareLock"] fun row member => nomatch member
  exact absurd (absent.symm.trans three) (by decide)

end

end PostgresMetrics

end DrMetrix.Postgres
