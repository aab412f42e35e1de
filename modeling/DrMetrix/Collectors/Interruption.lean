import DrMetrix.Mongo.Metrics
import DrMetrix.Postgres.Interchange
import DrMetrix.Redis.Metrics

/-! # Interrupted collections

A collection which fails, or whose task is aborted while it awaits, leaves a
prefix of its writes. The prefix ends where a request to the backend was made,
so no group of gauges shows a part of a reply.
-/

namespace DrMetrix

open Prometheus Postgres Redis Mongo

variable {F : Type}

/-! ## Postgres -/

namespace Postgres.PostgresMetrics

theorem foldl_part {τ : Type} (publish : PostgresMetrics F → Row F → PostgresMetrics F)
    (part : PostgresMetrics F → τ) (same : ∀ m row, part (publish m row) = part m)
    (rows : List (Row F)) (m : PostgresMetrics F) : part (rows.foldl publish m) = part m := by
  induction rows generalizing m with
  | nil => rfl
  | cons row rows ih => exact (ih (publish m row)).trans (same m row)

section
variable [Binary64 F] [LabelKey]

theorem writeAll_vec (items : List (Group × List (Row F))) (m : PostgresMetrics F)
    (distinct : (items.map Prod.fst).Nodup) (f : Vec) :
    (∀ rows, (f.group, rows) ∈ items → (Async.writeAll publishGroup items m).vec f =
        (m.vec f).setRows f.group.labels (fun row => row.getI64 f.column) rows) ∧
      (f.group ∉ items.map Prod.fst → (Async.writeAll publishGroup items m).vec f = m.vec f) := by
  induction items generalizing m with
  | nil => exact ⟨fun rows member => (nomatch member), fun _ => rfl⟩
  | cons item items ih =>
      obtain ⟨g, rows⟩ := item
      rw [List.map_cons, List.nodup_cons] at distinct
      obtain ⟨new, distinct⟩ := distinct
      have rest := ih (m.publishGroup g rows) distinct
      change (∀ given, _ → (Async.writeAll publishGroup items (m.publishGroup g rows)).vec f = _) ∧
        (_ → (Async.writeAll publishGroup items (m.publishGroup g rows)).vec f = _)
      simp only [List.mem_cons, Prod.mk.injEq, List.map_cons, not_or]
      constructor
      · rintro given (⟨rfl, rfl⟩ | later)
        · rw [rest.2 new, publishGroup_vec, if_pos rfl]
        · have other : f.group ≠ g := by
            rintro rfl
            exact new (List.mem_map.mpr ⟨_, later, rfl⟩)
          rw [rest.1 given later, publishGroup_vec, if_neg other]
      · rintro ⟨other, absent⟩
        rw [rest.2 absent, publishGroup_vec, if_neg other]

/-- The pool gauges and the given groups are written, everything else is as
    before. -/
structure Wrote (status : PoolStatus) (done : List (Group × List (Row F)))
    (m n : PostgresMetrics F) : Prop where
  state : n = Async.writeAll publishGroup done (m.publishPool status)
  written : ∀ f rows, (f.group, rows) ∈ done →
    n.vec f = (m.vec f).setRows f.group.labels (fun row => row.getI64 f.column) rows
  kept : ∀ f, f.group ∉ done.map Prod.fst → n.vec f = m.vec f

/-- The collection stopped at the first query which failed or is pending, with
    exactly the groups before it written. -/
theorem collectVia_interrupted (libraries : Libraries F) (adapter : Adapter) (status : PoolStatus)
    (m : PostgresMetrics F) (replies : List PoolReply)
    (stopped : ((collectVia (adapter.queryJson libraries) status).exec m replies).2.Interrupted) :
    let ask (g : Group) : Async (PostgresMetrics F) PoolRequest PoolReply _ _ :=
      adapter.queryJson libraries g.sql
    let ran := (collectVia (adapter.queryJson libraries) status).exec m replies
    ∃ done g left rest, Group.order = done.map Prod.fst ++ g :: left ∧
      Async.Answered ask done replies rest ∧ ran.2.stop? = ((ask g).answer rest).1.stop? ∧
      Wrote status done m ran.1 := by
  intro ask ran
  have unfinished : ran.2 ≠ .ok () := by
    intro finished
    rw [show ((collectVia (adapter.queryJson libraries) status).exec m replies).2 = _
      from finished] at stopped
    exact stopped
  have staged : ran = (Async.inStages ask publishGroup Group.order).exec (m.publishPool status)
      replies := rfl
  rw [staged] at unfinished ⊢
  have silent : ∀ g, (ask g).Frames id := fun g => adapter.queryJson_frames libraries id g.sql
  obtain ⟨done, g, left, rest, split, answered, stop, state⟩ :=
    Async.inStages_stopped silent unfinished
  have distinct : (done.map Prod.fst).Nodup := by
    have all : Group.order.Nodup := by decide
    rw [split] at all
    exact (List.nodup_append.mp all).1
  have vec := writeAll_vec done (m.publishPool status) distinct
  refine ⟨done, g, left, rest, split, answered, stop, state, ?_, ?_⟩
  · intro f rows member
    rw [state, (vec f).1 rows member, publishPool_vec]
  · intro f absent
    rw [state, (vec f).2 absent, publishPool_vec]

def histograms (m : PostgresMetrics F) : HistogramVec F × HistogramVec F :=
  (m.queryDurationSeconds, m.rowsReturned)

theorem publishGroup_histograms (g : Group) (rows : List (Row F)) (m : PostgresMetrics F) :
    (m.publishGroup g rows).histograms = m.histograms := by
  cases g with
  | databases => exact foldl_part publishDb histograms (fun m row => rfl) rows m
  | tables => exact foldl_part publishTable histograms (fun m row => rfl) rows m
  | locks => exact foldl_part publishLock histograms (fun m row => rfl) rows m

theorem collectVia_histograms (libraries : Libraries F) (adapter : Adapter) (status : PoolStatus) :
    (collectVia (adapter.queryJson libraries) status).Frames histograms := by
  rw [collectVia_stages]
  refine ⟨fun m => rfl, ?_⟩
  apply Async.inStages_frames
  · exact fun g => adapter.queryJson_frames libraries histograms g.sql
  · exact publishGroup_histograms

end

end Postgres.PostgresMetrics

/-! ## Redis -/

namespace Redis.RedisMetrics

theorem collect_interrupted [Binary64 F] [LabelKey] (poolSize : UInt64) (m : RedisMetrics F)
    (replies : List (Except String String))
    (stopped : ((collect poolSize).exec m replies).2.Interrupted) :
    ((collect poolSize).exec m replies).1 =
      { m with poolConnections := m.poolConnections.set poolSize.toInt64 } := by
  cases replies with
  | nil => rfl
  | cons reply replies =>
      cases reply with
      | error e => rfl
      | ok raw => exact stopped.elim

theorem publishEntries_histograms [LabelKey] (entries : List (UInt32 × Int64 × Int64))
    (m : RedisMetrics F) :
    (entries.foldl publishEntry m).commandDurationSeconds = m.commandDurationSeconds := by
  induction entries generalizing m with
  | nil => rfl
  | cons entry entries ih => exact ih (m.publishEntry entry)

theorem collect_histograms [Binary64 F] [LabelKey] (poolSize : UInt64) :
    (collect poolSize : Async (RedisMetrics F) _ _ _ _).Frames commandDurationSeconds := by
  refine ⟨fun m => rfl, fun reply => ?_⟩
  apply (Async.frames_liftExcept _ _).bind
  intro raw
  apply Async.frames_modify
  intro m
  exact publishEntries_histograms _ _

end Redis.RedisMetrics

/-! ## Mongo -/

namespace Mongo.MongoMetrics

/-- Nothing is written before the one reply, and nothing fails after it. -/
theorem collect_interrupted [LabelKey] (overflowChecks : Bool) (m : MongoMetrics F)
    (replies : List (Except String Document))
    (stopped : ((collect overflowChecks).exec m replies).2.Interrupted) :
    ((collect overflowChecks).exec m replies).1 = m := by
  cases replies with
  | nil => rfl
  | cons reply replies =>
      cases reply with
      | error e => rfl
      | ok doc =>
          rw [collect_reply] at stopped
          exact absurd stopped ((publishReply_settles overflowChecks doc).not_interrupted m replies)

theorem publishMemory_histograms {κ ρ ε : Type} (overflowChecks : Bool) (doc : Document) :
    (publishMemory overflowChecks doc : Async (MongoMetrics F) κ ρ ε Unit).Frames
      opDurationSeconds := by
  have multiplies : ∀ a b, (times overflowChecks a b : Async (MongoMetrics F) κ ρ ε _).Frames
      opDurationSeconds := by
    intro a b
    unfold times
    split <;> trivial
  have converts : ∀ v, (inBytes overflowChecks v : Async (MongoMetrics F) κ ρ ε _).Frames
      opDurationSeconds := fun v => (multiplies v 1024).bind fun kilobytes => multiplies kilobytes 1024
  unfold publishMemory
  split
  · exact (converts _).bind fun resident => ⟨fun m => rfl, (converts _).bind fun virtual =>
      ⟨fun m => rfl, trivial⟩⟩
  · trivial

theorem collect_histograms [LabelKey] (overflowChecks : Bool) :
    (collect overflowChecks : Async (MongoMetrics F) _ _ _ _).Frames opDurationSeconds := by
  intro reply
  apply (Async.frames_liftExcept _ _).bind
  intro doc
  refine ⟨?connections, ?opcounters, ?network, (publishMemory_histograms overflowChecks doc).bind
    fun _ => Async.frames_modify ?cache⟩
  case connections =>
    intro m
    unfold publishConnections
    split <;> rfl
  case opcounters =>
    intro m
    unfold publishOpcounters
    split <;> rfl
  case network =>
    intro m
    unfold publishNetwork
    split <;> rfl
  case cache =>
    intro m
    unfold publishCache
    split
    · split <;> rfl
    · rfl

end Mongo.MongoMetrics

/-! ## All three -/

section
variable [Binary64 F] [LabelKey]

/-- What an interrupted collection leaves behind, and what none ever touches. -/
structure GroupAtomic (libraries : Libraries F) : Prop where
  /-- The groups before the first query which failed or is pending are written
      from complete replies, the others are as before. -/
  postgres : ∀ (adapter : Adapter) (status : PoolStatus) (m : PostgresMetrics F)
    (replies : List PoolReply),
    let ask (g : Group) : Async (PostgresMetrics F) PoolRequest PoolReply MetricsError
      (List (Row F)) := adapter.queryJson libraries g.sql
    let ran := (PostgresMetrics.collectVia (adapter.queryJson libraries) status).exec m replies
    ran.2.Interrupted → ∃ done g left rest, Group.order = done.map Prod.fst ++ g :: left ∧
      Async.Answered ask done replies rest ∧ ran.2.stop? = ((ask g).answer rest).1.stop? ∧
      PostgresMetrics.Wrote status done m ran.1
  redis : ∀ (poolSize : UInt64) (m : RedisMetrics F) (replies : List (Except String String)),
    let ran := (RedisMetrics.collect poolSize).exec m replies
    ran.2.Interrupted → ran.1 = { m with poolConnections := m.poolConnections.set poolSize.toInt64 }
  mongo : ∀ (overflowChecks : Bool) (m : MongoMetrics F) (replies : List (Except String Document)),
    let ran := (MongoMetrics.collect overflowChecks).exec m replies
    ran.2.Interrupted → ran.1 = m
  postgresHistograms : ∀ (adapter : Adapter) (status : PoolStatus) (m : PostgresMetrics F)
    (replies : List PoolReply),
    ((PostgresMetrics.collectVia (adapter.queryJson libraries) status).exec m replies).1.histograms =
      m.histograms
  redisHistograms : ∀ (poolSize : UInt64) (m : RedisMetrics F)
    (replies : List (Except String String)),
    ((RedisMetrics.collect poolSize).exec m replies).1.commandDurationSeconds =
      m.commandDurationSeconds
  mongoHistograms : ∀ (overflowChecks : Bool) (m : MongoMetrics F)
    (replies : List (Except String Document)),
    ((MongoMetrics.collect overflowChecks).exec m replies).1.opDurationSeconds =
      m.opDurationSeconds

theorem collections_group_atomic (libraries : Libraries F) : GroupAtomic libraries where
  postgres := PostgresMetrics.collectVia_interrupted libraries
  redis := RedisMetrics.collect_interrupted
  mongo := MongoMetrics.collect_interrupted
  postgresHistograms adapter status :=
    (PostgresMetrics.collectVia_histograms libraries adapter status).exec
  redisHistograms poolSize := (RedisMetrics.collect_histograms poolSize).exec
  mongoHistograms overflowChecks := (MongoMetrics.collect_histograms overflowChecks).exec

end

/-- Every text is one row of `pg_stat_database`. -/
def oneDatabase : Libraries Exact where
  fromStr _ := .ok (.object [("datname", .string "app"), ("numbackends", .posInt 7)])
  namedRowGet := refusing "Unexpected null for non-null column" "invalid utf-8 sequence"
  tryGet := refusing "A null value was encountered while decoding" "mismatched types"

/-- The databases arrive, and the connection is gone at the second query. -/
def goneAfterDatabases : List PoolReply := [.ok [], .ok [.text "row"], .ok [], .error "gone"]

attribute [local instance] LabelKey.tuples in
theorem collections_group_atomic_gone :
    ∃ m : PostgresMetrics Exact, PostgresMetrics.new {} = .ok m ∧
      let ask (g : Group) : Async (PostgresMetrics Exact) PoolRequest PoolReply MetricsError
        (List (Row Exact)) := Adapter.deadpool.queryJson oneDatabase g.sql
      let ran := (PostgresMetrics.collectVia (Adapter.deadpool.queryJson oneDatabase) ⟨4, 4, 0⟩).exec
        m goneAfterDatabases
      ran.2 = .err (.database "gone") ∧ ran.1.dbNumbackends.series ["app"] = some 7 ∧
        ∃ done g left rest, Group.order = done.map Prod.fst ++ g :: left ∧
          Async.Answered ask done goneAfterDatabases rest ∧
          ran.2.stop? = ((ask g).answer rest).1.stop? ∧
          PostgresMetrics.Wrote ⟨4, 4, 0⟩ done m ran.1 := by
  obtain ⟨m, built, failed, seven⟩ : ∃ m : PostgresMetrics Exact, PostgresMetrics.new {} = .ok m ∧
      let ran := (PostgresMetrics.collectVia (Adapter.deadpool.queryJson oneDatabase) ⟨4, 4, 0⟩).exec
        m goneAfterDatabases
      ran.2 = .err (.database "gone") ∧ ran.1.dbNumbackends.series ["app"] = some 7 :=
    ⟨_, rfl, rfl, rfl⟩
  refine ⟨m, built, failed, seven, ?_⟩
  apply (collections_group_atomic oneDatabase).postgres .deadpool ⟨4, 4, 0⟩ m goneAfterDatabases
  rw [failed]
  trivial

end DrMetrix
