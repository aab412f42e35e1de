import DrMetrix.Core.Replay
import DrMetrix.Postgres.Interchange
import DrMetrix.Collectors.Interruption
import DrMetrix.Redis.Snapshot
import DrMetrix.Mongo.History

/-! # What a collector reports after any run of its loop

One collection overwrites what its replies mention and leaves the rest. Over a
whole run this makes every exported number the latest one which any complete
reply of the run had for it, through all failures and cancellations in between.
-/

namespace DrMetrix

open Prometheus Postgres Redis Mongo

variable {F : Type}

/-- Overwriting with one value after the other leaves the last one. -/
theorem foldl_overwrite {α β : Type} (value : β → α) (start : α) (items : List β) :
    items.foldl (fun _ item => value item) start = (items.getLast?.map value).getD start := by
  induction items using List.reverseRecOn with
  | nil => rfl
  | append_singleton items item _ => simp

theorem Prometheus.IntGaugeVec.setRows_append [LabelKey] {β : Type} (labels : β → LabelValues)
    (value : β → Int64) (g : IntGaugeVec) (rows more : List β) :
    g.setRows labels value (rows ++ more) = (g.setRows labels value rows).setRows labels value more :=
  List.foldl_append

theorem Prometheus.IntGaugeVec.series_setRows_fresh [LabelKey] {β : Type} {k : LabelValues}
    (alone : LabelKey.Alone k) (labels : β → LabelValues) (value : β → Int64) {g : IntGaugeVec}
    (fresh : g.children = ∅) (rows : List β) :
    (g.setRows labels value rows).series k =
      (Family.latest labels k rows).map fun row => (value row).toInt := by
  rw [series_setRows alone, series, fresh, Family.get?_empty]
  cases Family.latest labels k rows <;> rfl

/-! ## Postgres -/

/-- The active, idle and maximal number of connections. -/
def Postgres.PoolStatus.shown (status : PoolStatus) : Int × Int × Int :=
  (status.inUse.toNat, status.available.toNat, status.maxSize.toNat)

namespace Postgres.PostgresMetrics

/-- The pool gauges, in the order in which they are set. -/
def pool (m : PostgresMetrics F) : Int × Int × Int :=
  (m.poolActive.value, m.poolIdle.value, m.poolMax.value)

/-- A `u32` never becomes negative as an `i64`. -/
theorem publishPool_pool (status : PoolStatus) (m : PostgresMetrics F) :
    (m.publishPool status).pool = status.shown := by
  have kept : ∀ n : UInt32, (Int64.ofNat n.toNat).toInt = n.toNat := by
    intro n
    have bound := n.toNat_lt
    exact Int64.toInt_ofNat_of_lt (by omega)
  simp only [publishPool, pool, PoolStatus.shown, IntGauge.set_value, kept]

theorem new_pool {config : CollectorConfig} {m : PostgresMetrics F} (h : new config = .ok m) :
    m.pool = (0, 0, 0) := by
  simp only [new, bind_eq_ok, pure_eq_ok] at h
  obtain ⟨_, h1, _, h2, _, h3, _, -, _, -, _, -, _, -, _, -, _, -, _, -, _, -, _, -, _, -, _, -, _,
    -, _, -, rfl⟩ := h
  have inSub : "postgres" ≠ "" := by decide
  simp only [pool, (gauge_ok inSub (by decide) h1).2, (gauge_ok inSub (by decide) h2).2,
    (gauge_ok inSub (by decide) h3).2]

section
variable [Binary64 F] [LabelKey] (libraries : Libraries F) (adapter : Adapter)

/-- The groups which a session's replies answer completely. -/
def answeredGroups (x : Session PoolStatus PoolReply) : List (Group × List (Row F)) :=
  Async.gathered (fun g : Group =>
    (adapter.queryJson libraries g.sql : Async (PostgresMetrics F) _ _ _ _)) Group.order x.replies

/-- The rows of one group in a session. -/
def answeredRows (g : Group) (x : Session PoolStatus PoolReply) : List (Row F) :=
  (answeredGroups libraries adapter x).flatMap fun item => if item.1 = g then item.2 else []

theorem session_exec (m : PostgresMetrics F) (x : Session PoolStatus PoolReply) :
    ((collectVia (adapter.queryJson libraries) x.env).exec m x.replies).1 =
      Async.writeAll publishGroup (answeredGroups libraries adapter x) (m.publishPool x.env) := by
  have silent : ∀ g : Group, (adapter.queryJson libraries g.sql :
      Async (PostgresMetrics F) _ _ _ _).Frames id :=
    fun g => adapter.queryJson_frames libraries id g.sql
  rw [collectVia_stages]
  exact Async.inStages_gathered publishGroup silent Group.order (m.publishPool x.env) x.replies

theorem vec_writeAll (items : List (Group × List (Row F))) (m : PostgresMetrics F) (f : Vec) :
    (Async.writeAll publishGroup items m).vec f =
      (m.vec f).setRows f.group.labels (fun row => row.getI64 f.column)
        (items.flatMap fun item => if item.1 = f.group then item.2 else []) := by
  induction items generalizing m with
  | nil => rfl
  | cons item items ih =>
      have step : Async.writeAll publishGroup (item :: items) m =
          Async.writeAll publishGroup items (m.publishGroup item.1 item.2) := rfl
      rw [step, ih, publishGroup_vec, List.flatMap_cons]
      by_cases mine : f.group = item.1
      · rw [if_pos mine, if_pos mine.symm, IntGaugeVec.setRows_append, mine]
      · rw [if_neg mine, if_neg (Ne.symm mine), List.nil_append]

theorem pool_writeAll (items : List (Group × List (Row F))) (m : PostgresMetrics F) :
    (Async.writeAll publishGroup items m).pool = m.pool := by
  induction items generalizing m with
  | nil => rfl
  | cons item items ih =>
      refine (ih (m.publishGroup item.1 item.2)).trans ?_
      cases item.1 with
      | databases => exact foldl_part publishDb pool (fun m row => rfl) item.2 m
      | tables => exact foldl_part publishTable pool (fun m row => rfl) item.2 m
      | locks => exact foldl_part publishLock pool (fun m row => rfl) item.2 m

/-- The reported state against all sessions of the run. -/
structure Reported (xs : List (Session PoolStatus PoolReply)) (n : PostgresMetrics F) : Prop where
  /-- The status at the last tick, whatever became of the queries. -/
  pool : n.pool = (xs.getLast?.map fun x => x.env.shown).getD (0, 0, 0)
  /-- The last row with the labels in all complete replies to the group's query. -/
  series : ∀ (f : Vec) k, (n.vec f).series k =
    (Family.latest f.group.labels k (xs.flatMap (answeredRows libraries adapter f.group))).map
      fun row => (row.getI64 f.column).toInt

theorem postgres_reports_latest (each : LabelKey.OneChildEach) {config : CollectorConfig}
    {m : PostgresMetrics F} {now interval : Nat} {actions : List (TaskAction PoolStatus PoolReply)}
    {s : CollectTask PoolStatus (PostgresMetrics F) PoolRequest PoolReply MetricsError}
    (built : new config = .ok m)
    (h : Transition.run (CollectTask.step fun status =>
      collectVia (adapter.queryJson libraries) status) (CollectTask.spawn m now interval) actions =
        some s)
    (suspended : s.Suspended) : Reported libraries adapter (sessions actions) s.state := by
  rw [CollectTask.run_suspended h suspended]
  constructor
  · have session : ∀ x ∈ sessions actions, ∀ m : PostgresMetrics F,
        (((collectVia (adapter.queryJson libraries) x.env).exec m x.replies).1).pool =
          [x.env].foldl (fun _ status => status.shown) m.pool := by
      intro x _ m
      rw [session_exec, pool_writeAll, publishPool_pool]
      rfl
    rw [replay_view _ pool (fun _ status => PoolStatus.shown status) (fun x => [x.env]) session,
      foldl_overwrite, new_pool built, ← List.map_eq_flatMap, List.getLast?_map, Option.map_map]
    rfl
  · intro f k
    have session : ∀ x ∈ sessions actions, ∀ m : PostgresMetrics F,
        (((collectVia (adapter.queryJson libraries) x.env).exec m x.replies).1).vec f =
          (answeredRows libraries adapter f.group x).foldl
            (fun g row => g.set (f.group.labels row) (row.getI64 f.column)) (m.vec f) := by
      intro x _ m
      rw [session_exec, vec_writeAll, publishPool_vec]
      rfl
    have shown := replay_view _ (fun m : PostgresMetrics F => m.vec f) _ _ session m
    refine (congrArg (fun g => g.series k) shown).trans ?_
    exact IntGaugeVec.series_setRows_fresh (each.alone k) _ _ (new_fresh built f) _

end

/-- Every text is one row of `pg_locks`. -/
def oneLock : Libraries Exact where
  fromStr _ := .ok (.object [("mode", .string "RowShareLock"), ("cnt", .posInt 3)])
  namedRowGet := refusing "Unexpected null for non-null column" "invalid utf-8 sequence"
  tryGet := refusing "A null value was encountered while decoding" "mismatched types"

/-- A collection which returned a lock, and one whose first query failed. -/
def heldThenDown : List (TaskAction PoolStatus PoolReply) :=
  [.tick ⟨4, 4, 0⟩, .work, .reply (.ok []), .work, .reply (.ok []), .work, .reply (.ok [.text "row"]),
    .work, .work, .wait 1, .tick ⟨4, 1, 3⟩, .work, .reply (.error "down"), .work]

attribute [local instance] LabelKey.tuples in
theorem postgres_reports_latest_down :
    ∃ n : PostgresMetrics Exact, Reported oneLock .r2d2 (sessions heldThenDown) n ∧
      n.pool = (3, 1, 4) ∧ n.lockCount.series ["RowShareLock"] = some 3 := by
  obtain ⟨m, built⟩ : ∃ m : PostgresMetrics Exact, new {} = .ok m := ⟨_, rfl⟩
  obtain ⟨s, ran, ended⟩ : ∃ s, Transition.run
      (CollectTask.step fun status => collectVia (Adapter.r2d2.queryJson oneLock) status)
      (CollectTask.spawn m 0 1) heldThenDown = some s ∧ s.phase = .ticking := ⟨_, rfl, rfl⟩
  have suspended : s.Suspended := by simp only [CollectTask.Suspended, ended]
  have reported := postgres_reports_latest oneLock .r2d2 LabelKey.tuples_each built ran suspended
  exact ⟨s.state, reported, reported.pool, reported.series .lockCount ["RowShareLock"]⟩

end Postgres.PostgresMetrics

/-! ## Redis -/

namespace Redis.RedisMetrics

def setPool (poolSize : UInt64) (m : RedisMetrics F) : RedisMetrics F :=
  { m with poolConnections := m.poolConnections.set poolSize.toInt64 }

theorem new_scalar [Binary64 F] {config : CollectorConfig} {m : RedisMetrics F}
    (h : new config = .ok m) (s : Scalar) :
    m.scalar s = ((RedisInfo.default : RedisInfo F).read s).map Int64.toInt id := by
  simp only [new, bind_eq_ok, pure_eq_ok] at h
  obtain ⟨_, -, _, h2, _, h3, _, h4, _, h5, _, h6, _, h7, _, h8, _, h9, _, h10, _, -, _, -, _, h13,
    _, h14, _, -, rfl⟩ := h
  have zero : ∀ {name help : String} {g : IntGauge}, name ≠ "" →
      gauge "redis" config.ns name help = .ok g → g.value = 0 :=
    fun named made => (gauge_ok (by decide) named made).2
  cases s with
  | connectedClients => exact congrArg Sum.inl (zero (by decide) h2)
  | blockedClients => exact congrArg Sum.inl (zero (by decide) h3)
  | usedMemory => exact congrArg Sum.inl (zero (by decide) h4)
  | usedMemoryRss => exact congrArg Sum.inl (zero (by decide) h5)
  | memFragmentationRatio => exact congrArg Sum.inr (fgauge_ok (by decide) (by decide) h6).2
  | keyspaceHits => exact congrArg Sum.inl (zero (by decide) h7)
  | keyspaceMisses => exact congrArg Sum.inl (zero (by decide) h8)
  | evictedKeys => exact congrArg Sum.inl (zero (by decide) h9)
  | totalCommandsProcessed => exact congrArg Sum.inl (zero (by decide) h10)
  | replicationOffset => exact congrArg Sum.inl (zero (by decide) h13)
  | connectedSlaves => exact congrArg Sum.inl (zero (by decide) h14)

theorem new_keyspace [Binary64 F] {config : CollectorConfig} {m : RedisMetrics F} (h : new config = .ok m) :
    m.poolConnections.value = 0 ∧ m.dbKeys.children = ∅ ∧ m.dbExpires.children = ∅ := by
  simp only [new, bind_eq_ok, pure_eq_ok] at h
  obtain ⟨_, h1, _, -, _, -, _, -, _, -, _, -, _, -, _, -, _, -, _, -, _, h11, _, h12, _, -, _, -, _,
    -, rfl⟩ := h
  have inSub : "redis" ≠ "" := by decide
  exact ⟨(gauge_ok inSub (by decide) h1).2, (metricVec_ok inSub (by decide) h11).2,
    (metricVec_ok inSub (by decide) h12).2⟩

section
variable [LabelKey]

/-- One series for the database of each entry. -/
def setEntries (value : UInt32 × Int64 × Int64 → Int64) (g : IntGaugeVec) (info : RedisInfo F) :
    IntGaugeVec :=
  g.setRows (fun entry => [dbLabel entry.1]) value info.keyspace

theorem publish_poolConnections (info : RedisInfo F) (m : RedisMetrics F) :
    (m.publish info).poolConnections.value = m.poolConnections.value := by
  have entries : ∀ (entries : List (UInt32 × Int64 × Int64)) (m : RedisMetrics F),
      (entries.foldl publishEntry m).poolConnections = m.poolConnections := by
    intro entries
    induction entries with
    | nil => exact fun m => rfl
    | cons entry entries ih => exact fun m => ih (m.publishEntry entry)
  rw [publish, entries]
  rfl

theorem series_entries (value : UInt32 × Int64 × Int64 → Int64) {g : IntGaugeVec}
    (fresh : g.children = ∅) (replies : List (RedisInfo F)) (i : UInt32) :
    (replies.foldl (setEntries value) g).series [dbLabel i] =
      (Family.latest (fun entry => entry.1) i (replies.flatMap RedisInfo.keyspace)).map fun entry =>
        (value entry).toInt := by
  have joined : replies.foldl (setEntries value) g =
      g.setRows (fun entry => [dbLabel entry.1]) value (replies.flatMap RedisInfo.keyspace) := by
    rw [IntGaugeVec.setRows, List.foldl_flatMap]
    rfl
  have renamed := Family.latest_rename dbLabel_injective
    (fun entry : UInt32 × Int64 × Int64 => entry.1) i (replies.flatMap RedisInfo.keyspace)
  simp only [joined, IntGaugeVec.series_setRows_fresh (LabelKey.alone_single _) _ _ fresh,
    renamed]

variable [Binary64 F]

/-- The reply of a session, if it was one. -/
def info? (x : Session UInt64 (Except String String)) : Option (RedisInfo F) :=
  match x.replies with
  | .ok raw :: _ => some (RedisInfo.parseInfo raw.toList)
  | _ => none

theorem session_exec (m : RedisMetrics F) (x : Session UInt64 (Except String String)) :
    ((collect x.env).exec m x.replies).1 =
      (info? x).toList.foldl (fun m info => m.publish info) (m.setPool x.env) := by
  obtain ⟨poolSize, replies⟩ := x
  cases replies with
  | nil => rfl
  | cons reply replies => cases reply <;> rfl

/-- The replies of all sessions which got one. -/
def infos (xs : List (Session UInt64 (Except String String))) : List (RedisInfo F) :=
  xs.filterMap info?

/-- The last entry of a database in all replies. -/
def latestEntry (xs : List (Session UInt64 (Except String String))) (i : UInt32) :
    Option (UInt32 × Int64 × Int64) :=
  Family.latest (fun entry => entry.1) i ((infos xs : List (RedisInfo F)).flatMap RedisInfo.keyspace)

/-- The reported state against all sessions of the run. -/
structure Reported (xs : List (Session UInt64 (Except String String))) (n : RedisMetrics F) :
    Prop where
  /-- The pool size at the last tick, whatever became of the query. -/
  pool : n.poolConnections.value = (xs.getLast?.map fun x => x.env.toInt64.toInt).getD 0
  /-- The fields of the last reply. -/
  scalars : ∀ s, n.scalar s =
    (((infos xs).getLast?.getD RedisInfo.default : RedisInfo F).read s).map Int64.toInt id
  dbKeys : ∀ i, n.dbKeys.series [dbLabel i] =
    (latestEntry (F := F) xs i).map fun entry => entry.2.1.toInt
  dbExpires : ∀ i, n.dbExpires.series [dbLabel i] =
    (latestEntry (F := F) xs i).map fun entry => entry.2.2.toInt

/-- A view which only a reply changes. -/
theorem replay_infos {τ : Type} (view : RedisMetrics F → τ) (update : τ → RedisInfo F → τ)
    (pool : ∀ size m, view (setPool size m) = view m)
    (reply : ∀ info m, view (publish info m) = update (view m) info) (m : RedisMetrics F)
    (xs : List (Session UInt64 (Except String String))) :
    view (replay collect m xs) = (infos xs).foldl update (view m) := by
  have each : ∀ x ∈ xs, ∀ m : RedisMetrics F,
      view ((collect x.env).exec m x.replies).1 = (info? x).toList.foldl update (view m) := by
    intro x _ m
    rw [session_exec]
    cases (info? x : Option (RedisInfo F)) with
    | none => exact pool x.env m
    | some info => exact (reply info _).trans (by rw [pool]; rfl)
  rw [replay_view _ view update _ each, infos, List.filterMap_eq_flatMap_toList]

theorem redis_reports_latest {config : CollectorConfig} {m : RedisMetrics F} {now interval : Nat}
    {actions : List (TaskAction UInt64 (Except String String))}
    {s : CollectTask UInt64 (RedisMetrics F) RedisQuery (Except String String) MetricsError}
    (built : new config = .ok m)
    (h : Transition.run (CollectTask.step collect) (CollectTask.spawn m now interval) actions =
      some s)
    (suspended : s.Suspended) : Reported (sessions actions) s.state := by
  obtain ⟨noPool, noKeys, noExpires⟩ := new_keyspace built
  rw [CollectTask.run_suspended h suspended]
  constructor
  · have each : ∀ x ∈ sessions actions, ∀ m : RedisMetrics F,
        (((collect x.env).exec m x.replies).1).poolConnections.value =
          [x.env].foldl (fun _ size => size.toInt64.toInt) m.poolConnections.value := by
      intro x _ m
      rw [session_exec]
      cases (info? x : Option (RedisInfo F)) with
      | none => rfl
      | some info => exact publish_poolConnections info _
    rw [replay_view _ (fun m : RedisMetrics F => m.poolConnections.value)
      (fun _ size => size.toInt64.toInt) (fun x => [x.env]) each, foldl_overwrite, noPool,
      ← List.map_eq_flatMap, List.getLast?_map, Option.map_map]
    rfl
  · intro s
    rw [replay_infos (fun m => m.scalar s) (fun _ info => (info.read s).map Int64.toInt id)
      (fun size m => by cases s <;> rfl) (fun info m => publish_scalar info m s),
      foldl_overwrite, new_scalar built]
    cases (infos (sessions actions) : List (RedisInfo F)).getLast? <;> rfl
  · intro i
    rw [replay_infos dbKeys (setEntries fun entry => entry.2.1) (fun size m => rfl) publish_dbKeys]
    exact series_entries _ noKeys _ i
  · intro i
    rw [replay_infos dbExpires (setEntries fun entry => entry.2.2) (fun size m => rfl)
      publish_dbExpires]
    exact series_entries _ noExpires _ i

end

/-- A reply with a database, one without it, and a failure. -/
def flushedThenDown : List (TaskAction UInt64 (Except String String)) :=
  [.tick 5, .work, .reply (.ok "db0:keys=5"), .work, .work, .wait 1, .tick 4, .work, .reply (.ok ""),
    .work, .work, .wait 1, .tick 3, .work, .reply (.error "down"), .work]

attribute [local instance] LabelKey.tuples in
theorem redis_reports_latest_down :
    ∃ n : RedisMetrics Exact, Reported (sessions flushedThenDown) n ∧
      n.poolConnections.value = 3 ∧ n.dbKeys.series [dbLabel 0] = some 5 := by
  obtain ⟨m, built⟩ : ∃ m : RedisMetrics Exact, new {} = .ok m := ⟨_, rfl⟩
  obtain ⟨s, ran, ended⟩ : ∃ s, Transition.run (CollectTask.step collect) (CollectTask.spawn m 0 1)
      flushedThenDown = some s ∧ s.phase = .ticking := ⟨_, rfl, rfl⟩
  have suspended : s.Suspended := by simp only [CollectTask.Suspended, ended]
  have reported := redis_reports_latest built ran suspended
  refine ⟨s.state, reported, reported.pool, (reported.dbKeys 0).trans ?_⟩
  decide +kernel

end Redis.RedisMetrics

/-! ## Mongo -/

namespace Mongo.MongoMetrics

def reply? (x : Session Unit (Except String Document)) : Option Document :=
  match x.replies with
  | .ok doc :: _ => some doc
  | _ => none

/-- What the replies of the run had for a path. -/
def readings (p : Path) (xs : List (Session Unit (Except String Document))) : List Int64 :=
  (xs.filterMap reply?).filterMap fun doc => doc.reading p

/-- A new collector exports 0 for every gauge, and no series. -/
def initial : Path → Option Int
  | .opcounter _ => none
  | _ => some 0

theorem new_exported {config : CollectorConfig} {m : MongoMetrics F} (h : new config = .ok m)
    (p : Path) : m.exported p = initial p := by
  simp only [new, bind_eq_ok, pure_eq_ok] at h
  obtain ⟨_, h1, _, h2, _, h3, _, h4, _, h5, _, h6, _, h7, _, h8, _, h9, _, h10, _, h11, _, h12, _,
    -, rfl⟩ := h
  have zero : ∀ {name help : String} {g : IntGauge}, name ≠ "" →
      gauge "mongo" config.ns name help = .ok g → some g.value = some 0 :=
    fun named made => congrArg some (gauge_ok (by decide) named made).2
  cases p with
  | current => exact zero (by decide) h1
  | available => exact zero (by decide) h2
  | totalCreated => exact zero (by decide) h3
  | opcounter op =>
      have empty := (metricVec_ok (by decide) (by decide) h4).2
      simp only [exported, IntGaugeVec.series, empty, Family.get?_empty, initial]
  | bytesIn => exact zero (by decide) h5
  | bytesOut => exact zero (by decide) h6
  | numRequests => exact zero (by decide) h7
  | resident => exact zero (by decide) h8
  | virtual => exact zero (by decide) h9
  | cacheInUse => exact zero (by decide) h10
  | cacheMax => exact zero (by decide) h11
  | cacheDirty => exact zero (by decide) h12

section
variable [LabelKey]

/-- A session which did not panic shows its reply. -/
theorem session_exported {overflowChecks : Bool} {x : Session Unit (Except String Document)}
    (fine : ((collect overflowChecks : Async (MongoMetrics F) _ _ _ _).answer x.replies).1 ≠
      .panicked)
    (m : MongoMetrics F) (p : Path) :
    ((collect overflowChecks).exec m x.replies).1.exported p =
      ((reply? x).toList.filterMap fun doc => doc.reading p).foldl (fun _ v => some v.toInt)
        (m.exported p) := by
  obtain ⟨env, replies⟩ := x
  cases replies with
  | nil => rfl
  | cons reply replies =>
      cases reply with
      | error e => rfl
      | ok doc =>
          have calm : ¬ ((collect overflowChecks).exec m [.ok doc]).2.Interrupted := by
            rw [collect_reply]
            exact (publishReply_settles overflowChecks doc).not_interrupted m []
          rw [← Async.exec_answer _ m, collect_one_reply] at fine
          rw [collect_one_reply]
          cases ran : (collect overflowChecks).exec m [.ok doc] with
          | mk m' outcome =>
              rw [ran] at fine calm
              cases outcome with
              | ok =>
                  rw [collect_exported ran, Document.shown]
                  cases found : doc.reading p <;> simp [reply?, found]
              | panicked => exact absurd rfl fine
              | err | waiting => exact absurd trivial calm

/-- Every path shows its last reading in the run, and what it showed at first if
    there was none. -/
theorem mongo_reports_latest {config : CollectorConfig} {m : MongoMetrics F} {overflowChecks : Bool}
    {now interval : Nat} {actions : List (TaskAction Unit (Except String Document))}
    {s : CollectTask Unit (MongoMetrics F) MongoQuery (Except String Document) MetricsError}
    (built : new config = .ok m) (positive : 0 < interval)
    (h : Transition.run (CollectTask.step fun _ => collect overflowChecks)
      (CollectTask.spawn m now interval) actions = some s)
    (suspended : s.Suspended) (alive : s.phase ≠ .panicked) (p : Path) :
    s.state.exported p = ((readings p (sessions actions)).getLast?.map Int64.toInt).or (initial p) := by
  obtain ⟨done, replayed⟩ := CollectTask.run_replayed h
  have fine := (CollectTask.run_sequential positive h).survived alive
  have each : ∀ x ∈ sessions actions, ∀ m : MongoMetrics F,
      ((collect overflowChecks).exec m x.replies).1.exported p =
        ((reply? x).toList.filterMap fun doc => doc.reading p).foldl (fun _ v => some v.toInt)
          (m.exported p) :=
    fun x member m => session_exported (replayed.survived fine suspended x member) m p
  have flat : (sessions actions).flatMap (fun x =>
      (reply? x).toList.filterMap fun doc => doc.reading p) = readings p (sessions actions) := by
    rw [readings, List.filterMap_eq_flatMap_toList reply?, List.filterMap_flatMap]
  have shown := replay_view (fun _ => collect overflowChecks)
    (fun m : MongoMetrics F => m.exported p) _ _ each m
  rw [replayed.suspended suspended]
  refine shown.trans ?_
  rw [flat, foldl_overwrite, new_exported built]
  cases (readings p (sessions actions)).getLast? <;> rfl

end

/-- A full reply, one without a cache section, and a failure. -/
def shrunkThenDown : List (TaskAction Unit (Except String Document)) :=
  [.tick (), .reply (.ok (filled 1)), .work, .work, .work, .work, .work, .work, .work, .wait 1,
    .tick (), .reply (.ok withoutCache), .work, .work, .work, .work, .work, .work, .work, .wait 1,
    .tick (), .reply (.error "down"), .work]

attribute [local instance] LabelKey.tuples in
theorem mongo_reports_latest_down :
    ∃ n : MongoMetrics Exact, n.exported .cacheMax = some 1 ∧
      n.exported .cacheMax = ((readings .cacheMax (sessions shrunkThenDown)).getLast?.map
        Int64.toInt).or (initial .cacheMax) := by
  obtain ⟨m, built⟩ : ∃ m : MongoMetrics Exact, new {} = .ok m := ⟨_, rfl⟩
  obtain ⟨s, ran, ended⟩ : ∃ s, Transition.run (CollectTask.step fun _ => collect true)
      (CollectTask.spawn m 0 1) shrunkThenDown = some s ∧ s.phase = .ticking := ⟨_, rfl, rfl⟩
  have suspended : s.Suspended := by simp only [CollectTask.Suspended, ended]
  have shown := mongo_reports_latest built (by decide) ran suspended (by simp [ended]) .cacheMax
  exact ⟨s.state, shown.trans rfl, shown⟩

end Mongo.MongoMetrics

end DrMetrix
