import DrMetrix.Lib.Binary64

/-! # The `INFO ALL` parser

One pass over the lines. A `db<u32>:` line adds a keyspace entry, a line with a
recognised key before its first colon writes one scalar field, and every other
line is skipped. A malformed number reads as 0.
-/

namespace DrMetrix.Redis

structure RedisInfo (F : Type) where
  connectedClients : Int64
  blockedClients : Int64
  usedMemory : Int64
  usedMemoryRss : Int64
  memFragmentationRatio : F
  totalCommandsProcessed : Int64
  keyspaceHits : Int64
  keyspaceMisses : Int64
  evictedKeys : Int64
  replicationOffset : Int64
  connectedSlaves : Int64
  /-- (db_index, keys, expires) -/
  keyspace : List (UInt32 × Int64 × Int64)
  deriving DecidableEq

/-- The fields which one line sets. -/
inductive Scalar where
  | connectedClients
  | blockedClients
  | usedMemory
  | usedMemoryRss
  | memFragmentationRatio
  | totalCommandsProcessed
  | keyspaceHits
  | keyspaceMisses
  | evictedKeys
  | replicationOffset
  | connectedSlaves
  deriving DecidableEq

namespace Scalar

def all : List Scalar :=
  [connectedClients, blockedClients, usedMemory, usedMemoryRss, memFragmentationRatio,
    totalCommandsProcessed, keyspaceHits, keyspaceMisses, evictedKeys, replicationOffset,
    connectedSlaves]

def key : Scalar → String
  | connectedClients => "connected_clients"
  | blockedClients => "blocked_clients"
  | usedMemory => "used_memory"
  | usedMemoryRss => "used_memory_rss"
  | memFragmentationRatio => "mem_fragmentation_ratio"
  | totalCommandsProcessed => "total_commands_processed"
  | keyspaceHits => "keyspace_hits"
  | keyspaceMisses => "keyspace_misses"
  | evictedKeys => "evicted_keys"
  | replicationOffset => "master_repl_offset"
  | connectedSlaves => "connected_slaves"

/-- The match on the key. -/
def ofKey (t : Text) : Option Scalar := all.find? fun s => s.key.toList = t

theorem ofKey_key (s : Scalar) : ofKey s.key.toList = some s := by
  cases s <;> decide

end Scalar

/-- A scalar field as an integer or as the float. -/
def RedisInfo.read {F : Type} (info : RedisInfo F) : Scalar → Int64 ⊕ F
  | .connectedClients => .inl info.connectedClients
  | .blockedClients => .inl info.blockedClients
  | .usedMemory => .inl info.usedMemory
  | .usedMemoryRss => .inl info.usedMemoryRss
  | .memFragmentationRatio => .inr info.memFragmentationRatio
  | .totalCommandsProcessed => .inl info.totalCommandsProcessed
  | .keyspaceHits => .inl info.keyspaceHits
  | .keyspaceMisses => .inl info.keyspaceMisses
  | .evictedKeys => .inl info.evictedKeys
  | .replicationOffset => .inl info.replicationOffset
  | .connectedSlaves => .inl info.connectedSlaves

/-- A value is its scalar fields and its keyspace. -/
theorem RedisInfo.ext_read {F : Type} {a b : RedisInfo F} (scalars : ∀ s, a.read s = b.read s)
    (keyspace : a.keyspace = b.keyspace) : a = b := by
  have integers : ∀ s m n, a.read s = .inl m → b.read s = .inl n → m = n := by
    intro s m n left right
    exact Sum.inl.inj (left.symm.trans ((scalars s).trans right))
  have ratio : a.memFragmentationRatio = b.memFragmentationRatio :=
    Sum.inr.inj (scalars .memFragmentationRatio)
  cases a
  cases b
  simp only [RedisInfo.mk.injEq]
  exact ⟨integers .connectedClients _ _ rfl rfl, integers .blockedClients _ _ rfl rfl,
    integers .usedMemory _ _ rfl rfl, integers .usedMemoryRss _ _ rfl rfl, ratio,
    integers .totalCommandsProcessed _ _ rfl rfl, integers .keyspaceHits _ _ rfl rfl,
    integers .keyspaceMisses _ _ rfl rfl, integers .evictedKeys _ _ rfl rfl,
    integers .replicationOffset _ _ rfl rfl, integers .connectedSlaves _ _ rfl rfl, keyspace⟩

/-- `parse().unwrap_or(0)`. -/
def integer (t : Text) : Int64 := (Decimal.parseI64 t).getD 0

def readField (entry : Int64 × Int64) (field : Text) : Int64 × Int64 :=
  match Text.stripPrefix "keys=".toList field with
  | some v => (integer v, entry.2)
  | none =>
      match Text.stripPrefix "expires=".toList field with
      | some v => (entry.1, integer v)
      | none => entry

/-- The keys and expires of a keyspace line. -/
def keyspaceFields (fields : Text) : Int64 × Int64 :=
  (Text.split ',' fields).foldl readField (0, 0)

/-- The entry of a `db<u32>:` line; no other line has one. -/
def keyspaceEntry (line : Text) : Option (UInt32 × Int64 × Int64) :=
  (Text.stripPrefix "db".toList line).bind fun rest =>
    (Text.splitOnce ':' rest).bind fun parts =>
      (Decimal.parseU32 parts.1).map fun dbIdx => (dbIdx, keyspaceFields parts.2)

/-- The first colon of a keyspace line ends `db` and the index. -/
theorem keyspaceEntry_split {line : Text} {entry : UInt32 × Int64 × Int64}
    (found : keyspaceEntry line = some entry) :
    ∃ index fields, line = ("db".toList ++ index) ++ ':' :: fields ∧
      ':' ∉ "db".toList ++ index ∧ Decimal.parseU32 index = some entry.1 := by
  obtain ⟨tail, stripped, split⟩ := Option.bind_eq_some_iff.mp found
  obtain ⟨⟨index, fields⟩, once, read⟩ := Option.bind_eq_some_iff.mp split
  obtain ⟨i, number, rfl⟩ := Option.map_eq_some_iff.mp read
  obtain ⟨shape, clean⟩ := Text.splitOnce_eq_some.mp once
  refine ⟨index, fields, ?_, ?_, number⟩
  · rw [Text.stripPrefix_eq_some.mp stripped, shape, List.append_assoc]
  · intro member
    rcases List.mem_append.mp member with label | digit
    · revert label
      decide
    · exact clean digit

theorem keyspaceEntry_scalar (s : Scalar) (value : Text) :
    keyspaceEntry (s.key.toList ++ ':' :: value) = none := by
  cases s <;> rfl

theorem Scalar.colon_not_mem_key (s : Scalar) : ':' ∉ s.key.toList := by
  cases s <;> decide

namespace RedisInfo

variable {F : Type} [Binary64 F]

def default : RedisInfo F where
  connectedClients := 0
  blockedClients := 0
  usedMemory := 0
  usedMemoryRss := 0
  memFragmentationRatio := Binary64.zero
  totalCommandsProcessed := 0
  keyspaceHits := 0
  keyspaceMisses := 0
  evictedKeys := 0
  replicationOffset := 0
  connectedSlaves := 0
  keyspace := []

def assign (info : RedisInfo F) (value : Text) : Scalar → RedisInfo F
  | .connectedClients => { info with connectedClients := integer value }
  | .blockedClients => { info with blockedClients := integer value }
  | .usedMemory => { info with usedMemory := integer value }
  | .usedMemoryRss => { info with usedMemoryRss := integer value }
  | .memFragmentationRatio =>
      { info with memFragmentationRatio := (Binary64.parse value).getD Binary64.zero }
  | .totalCommandsProcessed => { info with totalCommandsProcessed := integer value }
  | .keyspaceHits => { info with keyspaceHits := integer value }
  | .keyspaceMisses => { info with keyspaceMisses := integer value }
  | .evictedKeys => { info with evictedKeys := integer value }
  | .replicationOffset => { info with replicationOffset := integer value }
  | .connectedSlaves => { info with connectedSlaves := integer value }

def pushEntry (info : RedisInfo F) (entry : UInt32 × Int64 × Int64) : RedisInfo F :=
  { info with keyspace := info.keyspace ++ [entry] }

/-- The body of the loop. -/
def parseLine (info : RedisInfo F) (line : Text) : RedisInfo F :=
  let line := Text.trim line
  if line.head? = some '#' ∨ line = [] then info
  else
    match keyspaceEntry line with
    | some entry => info.pushEntry entry
    | none =>
        match Text.splitOnce ':' line with
        | none => info
        | some (key, value) =>
            match Scalar.ofKey key with
            | some s => info.assign (Text.trim value) s
            | none => info

def parseInfo (raw : Text) : RedisInfo F := (Text.lines raw).foldl parseLine default

theorem parseLine_trim (info : RedisInfo F) (line : Text) :
    info.parseLine line = info.parseLine (Text.trim line) := by
  simp only [parseLine, Text.trim_trim]

theorem parseLine_nil (info : RedisInfo F) : info.parseLine [] = info := rfl

/-- The parser may read the pieces between newlines instead of the lines. -/
theorem parseInfo_split (raw : Text) :
    (parseInfo raw : RedisInfo F) = (Text.split '\n' raw).foldl parseLine default :=
  Text.foldl_lines parseLine parseLine_trim parseLine_nil default raw

/-- A line with a recognised key writes its field. -/
theorem parseLine_scalar (info : RedisInfo F) {line value : Text} {s : Scalar}
    (trimmed : Text.trim line = s.key.toList ++ ':' :: value) :
    info.parseLine line = info.assign (Text.trim value) s := by
  have shown : ¬ ((s.key.toList ++ ':' :: value).head? = some '#' ∨
      s.key.toList ++ ':' :: value = []) := by
    cases s <;> simp [Scalar.key]
  simp only [parseLine, trimmed, if_neg shown, keyspaceEntry_scalar,
    Text.splitOnce_append s.colon_not_mem_key, Scalar.ofKey_key]

/-- A keyspace line adds its entry. -/
theorem parseLine_entry (info : RedisInfo F) {line fields : Text} {i : UInt32}
    (trimmed : Text.trim line = "db".toList ++ (Decimal.showU32 i ++ ':' :: fields)) :
    info.parseLine line = info.pushEntry (i, keyspaceFields fields) := by
  have shown : ¬ ((("db".toList ++ (Decimal.showU32 i ++ ':' :: fields)).head? = some '#') ∨
      "db".toList ++ (Decimal.showU32 i ++ ':' :: fields) = []) := by
    simp
  have noColon : ':' ∉ Decimal.showU32 i := by
    intro member
    cases Decimal.mem_showU32 member
  have entry : keyspaceEntry ("db".toList ++ (Decimal.showU32 i ++ ':' :: fields)) =
      some (i, keyspaceFields fields) := by
    simp only [keyspaceEntry, Text.stripPrefix_append, Option.bind_some,
      Text.splitOnce_append noColon, Decimal.parseU32_showU32, Option.map_some]
  simp only [parseLine, trimmed, if_neg shown, entry]

end RedisInfo

end DrMetrix.Redis
