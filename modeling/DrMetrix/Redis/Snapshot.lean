import DrMetrix.Redis.Metrics

/-! # Does a Redis collection show the latest reply?

The scalar gauges are overwritten by every reply. A keyspace entry overwrites
the two series of its database, and nothing touches the series of a database
which the reply no longer mentions.
-/

namespace DrMetrix.Redis

open Prometheus

variable {F : Type}

/-- The exported value of a scalar field. -/
def RedisMetrics.scalar (m : RedisMetrics F) : Scalar → Int ⊕ F
  | .connectedClients => .inl m.connectedClients.value
  | .blockedClients => .inl m.blockedClients.value
  | .usedMemory => .inl m.usedMemoryBytes.value
  | .usedMemoryRss => .inl m.usedMemoryRss.value
  | .memFragmentationRatio => .inr m.memFragmentationRatio.value
  | .totalCommandsProcessed => .inl m.totalCommandsProcessed.value
  | .keyspaceHits => .inl m.keyspaceHits.value
  | .keyspaceMisses => .inl m.keyspaceMisses.value
  | .evictedKeys => .inl m.evictedKeys.value
  | .replicationOffset => .inl m.replicationOffset.value
  | .connectedSlaves => .inl m.connectedSlaves.value

/-- The last keyspace entry of a database. -/
def RedisInfo.lastEntry (info : RedisInfo F) (i : UInt32) : Option (UInt32 × Int64 × Int64) :=
  Family.latest (fun entry => entry.1) i info.keyspace

/-- The series of a database holds the value of its last entry, and without an
    entry it is absent or 0. -/
def RedisInfo.ShownBy (info : RedisInfo F) (value : UInt32 × Int64 × Int64 → Int64)
    (g : IntGaugeVec) (i : UInt32) : Prop :=
  match info.lastEntry i with
  | some entry => g.series [dbLabel i] = some (value entry).toInt
  | none => g.read [dbLabel i] = 0

/-- The exported state is that of one parsed reply. -/
structure Snapshot (info : RedisInfo F) (m : RedisMetrics F) : Prop where
  scalars : ∀ s, m.scalar s = (info.read s).map Int64.toInt id
  dbKeys : ∀ i, info.ShownBy (fun entry => entry.2.1) m.dbKeys i
  dbExpires : ∀ i, info.ShownBy (fun entry => entry.2.2) m.dbExpires i

theorem dbLabel_injective : (fun i => [dbLabel i]).Injective := by
  intro i j same
  have labels := congrArg String.toList (List.cons.inj same).1
  rw [dbLabel, dbLabel, String.toList_append, String.toList_append] at labels
  exact Decimal.showU32_injective (List.append_cancel_left labels)

namespace RedisMetrics

section
variable [LabelKey]

theorem publishEntry_scalar (m : RedisMetrics F) (entries : List (UInt32 × Int64 × Int64))
    (s : Scalar) : (entries.foldl publishEntry m).scalar s = m.scalar s := by
  induction entries generalizing m with
  | nil => rfl
  | cons entry entries ih =>
      rw [List.foldl_cons, ih]
      cases s <;> rfl

theorem publish_scalar (info : RedisInfo F) (m : RedisMetrics F) (s : Scalar) :
    (m.publish info).scalar s = (info.read s).map Int64.toInt id := by
  rw [publish, publishEntry_scalar]
  cases s <;> rfl

theorem publish_dbKeys (info : RedisInfo F) (m : RedisMetrics F) :
    (m.publish info).dbKeys =
      m.dbKeys.setRows (fun entry => [dbLabel entry.1]) (fun entry => entry.2.1) info.keyspace :=
  (List.foldl_hom dbKeys fun _ _ => rfl).symm

theorem publish_dbExpires (info : RedisInfo F) (m : RedisMetrics F) :
    (m.publish info).dbExpires =
      m.dbExpires.setRows (fun entry => [dbLabel entry.1]) (fun entry => entry.2.2)
        info.keyspace :=
  (List.foldl_hom dbExpires fun _ _ => rfl).symm

/-- One entry after the other, a family shows the entries of a database unless
    it keeps an older value of it. -/
theorem shownBy_iff (g : IntGaugeVec) (value : UInt32 × Int64 × Int64 → Int64)
    (info : RedisInfo F) (i : UInt32) :
    info.ShownBy value (g.setRows (fun entry => [dbLabel entry.1]) value info.keyspace) i ↔
      (g.read [dbLabel i] ≠ 0 → ∃ entry ∈ info.keyspace, entry.1 = i) := by
  have shows := Family.setAll_showsAt_iff (LabelKey.alone_single (dbLabel i)) (0 : Int)
    (fun entry : UInt32 × Int64 × Int64 => [dbLabel entry.1]) (fun entry => (value entry).toInt) g.children info.keyspace
  have renamed := Family.latest_rename dbLabel_injective
    (fun entry : UInt32 × Int64 × Int64 => entry.1) i info.keyspace
  simp only [Family.ShowsAt, renamed, ← IntGaugeVec.children_setRows,
    dbLabel_injective.eq_iff] at shows
  unfold RedisInfo.ShownBy RedisInfo.lastEntry
  split at shows
  · next found =>
      simp only [found]
      exact shows
  · next found =>
      simp only [found]
      exact shows

variable [Binary64 F]

/-- Any earlier calls of `collect`, each with its pool size and its replies. -/
def after (m : RedisMetrics F) (history : List (UInt64 × List (Except String String))) :
    RedisMetrics F :=
  history.foldl (fun m call => ((collect call.1).exec m call.2).1) m

theorem collect_ok (m : RedisMetrics F) (poolSize : UInt64) (raw : String) :
    (collect poolSize).exec m [.ok raw] =
      (publish (RedisInfo.parseInfo raw.toList)
        { m with poolConnections := m.poolConnections.set poolSize.toInt64 }, .ok ()) := rfl

/-- Whatever was collected before, a successful collection shows its reply
    exactly if every database with a nonzero series has an entry in it. -/
theorem collect_snapshot_iff (m : RedisMetrics F)
    (history : List (UInt64 × List (Except String String))) (poolSize : UInt64) (raw : String) :
    let before := m.after history
    let info := RedisInfo.parseInfo raw.toList
    let collected := (collect poolSize).exec before [.ok raw]
    collected.2 = .ok () ∧
      (Snapshot info collected.1 ↔
        ∀ i, before.dbKeys.read [dbLabel i] ≠ 0 ∨ before.dbExpires.read [dbLabel i] ≠ 0 →
          ∃ entry ∈ info.keyspace, entry.1 = i) := by
  intro before info collected
  rw [show collected = _ from collect_ok before poolSize raw]
  refine ⟨rfl, ?_⟩
  have keys := shownBy_iff before.dbKeys (fun entry => entry.2.1) info
  have expires := shownBy_iff before.dbExpires (fun entry => entry.2.2) info
  constructor
  · rintro ⟨-, shownKeys, shownExpires⟩ i stale
    rw [publish_dbKeys] at shownKeys
    rw [publish_dbExpires] at shownExpires
    rcases stale with staleKeys | staleExpires
    · exact (keys i).mp (shownKeys i) staleKeys
    · exact (expires i).mp (shownExpires i) staleExpires
  · intro covered
    refine ⟨publish_scalar info _, ?_, ?_⟩
    · intro i
      rw [publish_dbKeys]
      exact (keys i).mpr fun stale => covered i (.inl stale)
    · intro i
      rw [publish_dbExpires]
      exact (expires i).mpr fun stale => covered i (.inr stale)

end

attribute [local instance] LabelKey.tuples in
/-- After `FLUSHDB` the old number of keys is still exported. -/
theorem collect_snapshot_fails :
    ∃ m : RedisMetrics Exact, new {} = .ok m ∧
      let before := m.after [(1, [.ok "db0:keys=5,expires=1"])]
      let collected := (collect 1).exec before [.ok "# Keyspace"]
      collected.2 = .ok () ∧ collected.1.dbKeys.read [dbLabel 0] = 5 ∧
        ¬ Snapshot (RedisInfo.parseInfo "# Keyspace".toList) collected.1 := by
  have noEntry : (RedisInfo.parseInfo "# Keyspace".toList : RedisInfo Exact).lastEntry 0 = none := by
    decide +kernel
  have stale : ∃ m : RedisMetrics Exact, new {} = .ok m ∧
      ((collect 1).exec (m.after [(1, [.ok "db0:keys=5,expires=1"])])
        [.ok "# Keyspace"]).1.dbKeys.read [dbLabel 0] = 5 := by
    refine ⟨_, rfl, ?_⟩
    decide +kernel
  obtain ⟨m, built, five⟩ := stale
  refine ⟨m, built, rfl, five, ?_⟩
  rintro ⟨-, shown, -⟩
  have absent := shown 0
  rw [RedisInfo.ShownBy, noEntry] at absent
  cases absent.symm.trans five

end RedisMetrics

end DrMetrix.Redis
