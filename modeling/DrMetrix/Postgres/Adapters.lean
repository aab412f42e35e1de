import DrMetrix.Postgres.Snapshot

/-! # The pool adapters

Three hand-written `query_json` over three client libraries. Two build every row
before they parse the first one, the third decodes and parses row by row. The
libraries' text decoders and the JSON parser are parameters.
-/

namespace DrMetrix.Postgres

/-- What a raw row has in the `row_json` column. -/
inductive Cell where
  | text (text : String)
  | null
  | undecodable

/-- Reading a cell as a `String`, which a NULL or an undecodable value refuses. -/
structure TextDecoder where
  get : Cell → Except String String
  text : ∀ s, get (.text s) = .ok s
  null : ∃ e, get .null = .error e
  undecodable : ∃ e, get .undecodable = .error e

/-- The code outside the repository: `serde_json::from_str`, `NamedRow::get` of
    diesel and `QueryResult::try_get` of sea-orm. -/
structure Libraries (F : Type) where
  fromStr : String → Except String (Value F)
  namedRowGet : TextDecoder
  tryGet : TextDecoder

inductive PoolRequest where
  /-- Take a connection from the pool. -/
  | connection
  /-- Run a statement and fetch all its rows. -/
  | statement (wrapped : String)

/-- The cells of all rows; a connection has none. -/
abbrev PoolReply := Except String (List Cell)

def wrap (sql : String) : String := "SELECT row_to_json(t)::text AS row_json FROM (" ++ sql ++ ") t"

/-! ## Pool status -/

/-- `saturating_sub` on `u32`. -/
def saturatingSub (a b : UInt32) : UInt32 := if a ≤ b then 0 else a - b

/-- deadpool counts in `usize` and truncates. -/
def deadpoolStatus (maxSize size available : UInt64) : PoolStatus where
  maxSize := maxSize.toUInt32
  available := available.toUInt32
  inUse := (if size ≤ available then 0 else size - available).toUInt32

def r2d2Status (maxSize connections idleConnections : UInt32) : PoolStatus where
  maxSize := maxSize
  available := idleConnections
  inUse := saturatingSub connections idleConnections

/-- sea-orm tells nothing. -/
def seaOrmStatus : PoolStatus where
  maxSize := 0
  available := 0
  inUse := 0

/-! ## `query_json` -/

structure JsonRow where
  rowJson : String

/-- `QueryableByName::build`. -/
def JsonRow.build (decoder : TextDecoder) (row : Cell) : Except String JsonRow := do
  let rowJson ← decoder.get row
  return { rowJson }

/-- `load::<JsonRow>`. -/
def load (decoder : TextDecoder) (rows : List Cell) : Except String (List JsonRow) :=
  rows.mapM (JsonRow.build decoder)

section
variable {F σ : Type} (libraries : Libraries F)

/-- Parse one row and keep it if it is an object. -/
def pushObject (out : List (Row F)) (rowJson : String) : Except MetricsError (List (Row F)) := do
  let val ← (libraries.fromStr rowJson).mapError .database
  match val with
  | .object map => return out ++ [map]
  | _ => return out

/-- `.await.map_err(MetricsError::database)?`. -/
def backend (request : PoolRequest) : Async σ PoolRequest PoolReply MetricsError (List Cell) :=
  .await request fun reply => Async.liftExcept (reply.mapError .database)

/-- The loop of the two diesel adapters. -/
def parseRows (rows : List JsonRow) : Except MetricsError (List (Row F)) :=
  rows.foldlM (fun result row => pushObject libraries result row.rowJson) []

def queryJsonDeadpool (sql : String) :
    Async σ PoolRequest PoolReply MetricsError (List (Row F)) := do
  let wrapped := wrap sql
  let _ ← backend .connection
  let cells ← backend (.statement wrapped)
  let rows ← Async.liftExcept ((load libraries.namedRowGet cells).mapError .database)
  Async.liftExcept (parseRows libraries rows)

/-- The blocking task takes the connection itself, so there is one await. -/
def queryJsonR2d2 (sql : String) :
    Async σ PoolRequest PoolReply MetricsError (List (Row F)) := do
  let wrapped := wrap sql
  let cells ← backend (.statement wrapped)
  let rows ← Async.liftExcept ((load libraries.namedRowGet cells).mapError .database)
  Async.liftExcept (parseRows libraries rows)

def queryJsonSeaOrm (sql : String) :
    Async σ PoolRequest PoolReply MetricsError (List (Row F)) := do
  let wrapped := wrap sql
  let rows ← backend (.statement wrapped)
  Async.liftExcept <| rows.foldlM (fun out row => do
    let jsonStr ← (libraries.tryGet.get row).mapError .database
    pushObject libraries out jsonStr) []

end

inductive Adapter where
  | deadpool
  | r2d2
  | seaOrm

namespace Adapter

variable {F σ : Type}

def queryJson (libraries : Libraries F) :
    Adapter → String → Async σ PoolRequest PoolReply MetricsError (List (Row F))
  | .deadpool => queryJsonDeadpool libraries
  | .r2d2 => queryJsonR2d2 libraries
  | .seaOrm => queryJsonSeaOrm libraries

/-- The replies up to and without the rows. -/
def connected : Adapter → List PoolReply
  | .deadpool => [.ok []]
  | .r2d2 | .seaOrm => []

end Adapter

/-! ## What a completed query returns -/

def Value.object? {F : Type} : Value F → Option (Row F)
  | .object map => some map
  | _ => none

def Cell.text? : Cell → Option String
  | .text s => some s
  | .null | .undecodable => none

/-- The JSON value of a cell, if it is a text and the text is JSON. -/
def Libraries.json? {F : Type} (libraries : Libraries F) (cell : Cell) : Option (Value F) :=
  cell.text?.bind fun s => (libraries.fromStr s).toOption

/-- The same outcome up to the text of a database error. -/
def Agrees {α : Type} (result : Except MetricsError α) : Option α → Prop
  | some a => result = .ok a
  | none => ∃ e, result = .error (.database e)

section
variable {α β γ : Type}

theorem Agrees.bind {x : Except MetricsError α} {o : Option α} {f : α → Except MetricsError β}
    {g : α → Option β} (first : Agrees x o) (rest : ∀ a, Agrees (f a) (g a)) :
    Agrees (x >>= f) (o.bind g) := by
  cases o with
  | none =>
      obtain ⟨e, rfl⟩ := first
      exact ⟨e, rfl⟩
  | some a =>
      obtain rfl : x = .ok a := first
      exact rest a

theorem Agrees.mapM {f : α → Except MetricsError β} {g : α → Option β}
    (each : ∀ a, Agrees (f a) (g a)) (as : List α) : Agrees (as.mapM f) (as.mapM g) := by
  induction as with
  | nil => rfl
  | cons a as ih =>
      rw [List.mapM_cons, List.mapM_cons]
      exact (each a).bind fun b => ih.bind fun bs => rfl

theorem Agrees.map {x : Except MetricsError α} {o : Option α} (same : Agrees x o) (f : α → β) :
    Agrees (x.map f) (o.map f) := by
  cases o with
  | none =>
      obtain ⟨e, rfl⟩ := same
      exact ⟨e, rfl⟩
  | some a =>
      obtain rfl : x = .ok a := same
      rfl

theorem mapError_mapM {ε δ : Type} (f : α → Except ε β) (g : ε → δ) (as : List α) :
    (as.mapM f).mapError g = as.mapM fun a => (f a).mapError g := by
  induction as with
  | nil => rfl
  | cons a as ih =>
      simp only [List.mapM_cons, ← ih]
      cases f a with
      | error e => rfl
      | ok b => cases as.mapM f <;> rfl

/-- Decoding everything first and parsing afterwards is decoding and parsing
    item by item. -/
theorem mapM_fused (f : α → Option β) (g : β → Option γ) (as : List α) :
    ((as.mapM f).bind fun bs => bs.mapM g) = as.mapM fun a => (f a).bind g := by
  induction as with
  | nil => rfl
  | cons a as ih =>
      simp only [List.mapM_cons, Option.bind_eq_bind, Option.pure_def, ← ih]
      cases f a with
      | none => rfl
      | some b =>
          cases as.mapM f with
          | none => cases found : g b <;> simp [found]
          | some bs => simp [List.mapM_cons]

/-- Reading row by row into an accumulator is reading all rows. -/
theorem foldlM_objects {F : Type} (read : α → Except MetricsError (Value F)) (rows : List α)
    (out : List (Row F)) :
    (rows.foldlM (fun out row => do
        let val ← read row
        match val with
        | .object map => return out ++ [map]
        | _ => return out) out : Except MetricsError (List (Row F))) =
      (rows.mapM read).map fun vals => out ++ vals.filterMap Value.object? := by
  induction rows generalizing out with
  | nil => simp [Except.map, pure, Except.pure]
  | cons row rows ih =>
      rw [List.foldlM_cons, List.mapM_cons]
      cases read row with
      | error e => rfl
      | ok val =>
          cases val with
          | object map =>
              refine (ih (out ++ [map])).trans ?_
              cases rows.mapM read with
              | error e => rfl
              | ok vals => exact congrArg Except.ok (List.append_assoc out [map] _)
          | _ =>
              refine (ih out).trans ?_
              cases rows.mapM read <;> rfl

end

theorem TextDecoder.agrees (decoder : TextDecoder) (cell : Cell) :
    Agrees ((decoder.get cell).mapError .database) cell.text? := by
  cases cell with
  | text s =>
      rw [decoder.text]
      rfl
  | null =>
      obtain ⟨e, refused⟩ := decoder.null
      exact ⟨e, by rw [refused]; rfl⟩
  | undecodable =>
      obtain ⟨e, refused⟩ := decoder.undecodable
      exact ⟨e, by rw [refused]; rfl⟩

section
variable {F σ : Type} (libraries : Libraries F)

theorem fromStr_agrees (s : String) :
    Agrees ((libraries.fromStr s).mapError .database) (libraries.fromStr s).toOption := by
  cases libraries.fromStr s with
  | ok val => rfl
  | error e => exact ⟨e, rfl⟩

/-- What an adapter makes of the cells of a completed query. -/
def Adapter.decoded : Adapter → List Cell → Except MetricsError (List (Row F))
  | .deadpool, cells | .r2d2, cells => do
      let rows ← (load libraries.namedRowGet cells).mapError .database
      parseRows libraries rows
  | .seaOrm, cells =>
      cells.foldlM (fun out row => do
        let jsonStr ← (libraries.tryGet.get row).mapError .database
        pushObject libraries out jsonStr) []

theorem load_agrees (decoder : TextDecoder) (cells : List Cell) :
    Agrees ((load decoder cells).mapError .database)
      (cells.mapM fun cell => cell.text?.map JsonRow.mk) := by
  rw [load, mapError_mapM]
  apply Agrees.mapM
  intro cell
  have built : ((JsonRow.build decoder cell).mapError .database : Except MetricsError JsonRow) =
      ((decoder.get cell).mapError .database).map JsonRow.mk := by
    unfold JsonRow.build
    cases decoder.get cell <;> rfl
  rw [built]
  exact (decoder.agrees cell).map JsonRow.mk

theorem parseRows_agrees (rows : List JsonRow) :
    Agrees (parseRows libraries rows)
      ((rows.mapM fun row => (libraries.fromStr row.rowJson).toOption).map fun vals =>
        vals.filterMap Value.object?) := by
  have read := Agrees.mapM (fun row : JsonRow => fromStr_agrees libraries row.rowJson) rows
  have looped := foldlM_objects
    (fun row : JsonRow => (libraries.fromStr row.rowJson).mapError .database) rows []
  rw [parseRows]
  exact looped ▸ read.map _

/-- All objects in row order, or a database error if some cell is bad. -/
theorem Adapter.decoded_agrees (adapter : Adapter) (cells : List Cell) :
    Agrees (adapter.decoded libraries cells)
      ((cells.mapM libraries.json?).map fun vals => vals.filterMap Value.object?) := by
  have split : Agrees (do
      let rows ← (load libraries.namedRowGet cells).mapError .database
      parseRows libraries rows)
      ((cells.mapM libraries.json?).map fun vals => vals.filterMap Value.object?) := by
    have both := (load_agrees libraries.namedRowGet cells).bind (parseRows_agrees libraries)
    have fused := mapM_fused (fun cell : Cell => cell.text?.map JsonRow.mk)
      (fun row => (libraries.fromStr row.rowJson).toOption) cells
    have cell : (fun cell : Cell => (cell.text?.map JsonRow.mk).bind fun row =>
        (libraries.fromStr row.rowJson).toOption) = libraries.json? := by
      funext cell
      cases cell <;> rfl
    rw [cell] at fused
    rw [← fused, Option.map_bind]
    exact both
  cases adapter with
  | deadpool => exact split
  | r2d2 => exact split
  | seaOrm =>
      let read (cell : Cell) : Except MetricsError (Value F) := do
        let jsonStr ← (libraries.tryGet.get cell).mapError .database
        (libraries.fromStr jsonStr).mapError .database
      have each : ∀ cell, Agrees (read cell) (libraries.json? cell) :=
        fun cell => (libraries.tryGet.agrees cell).bind (fromStr_agrees libraries)
      have body : (fun (out : List (Row F)) (row : Cell) => do
          let jsonStr ← (libraries.tryGet.get row).mapError MetricsError.database
          pushObject libraries out jsonStr) = fun out row => do
          let val ← read row
          match val with
          | .object map => return out ++ [map]
          | _ => return out := by
        funext out row
        simp only [read]
        cases libraries.tryGet.get row <;> rfl
      have looped := foldlM_objects read cells []
      rw [Adapter.decoded, body]
      exact looped ▸ (Agrees.mapM each cells).map _

/-- A query whose statement completed returns what the adapter decodes. -/
theorem Adapter.queryJson_answer (adapter : Adapter) (sql : String) (cells : List Cell)
    (rest : List PoolReply) :
    (adapter.queryJson libraries sql : Async σ _ _ _ _).answer
        (adapter.connected ++ .ok cells :: rest) =
      match adapter.decoded libraries cells with
      | .ok rows => (.ok rows, rest)
      | .error e => (.err e, rest) := by
  have lifted : ∀ x : Except MetricsError (List (Row F)),
      (Async.liftExcept x : Async σ PoolRequest PoolReply MetricsError (List (Row F))).answer rest =
        match x with
        | .ok rows => (.ok rows, rest)
        | .error e => (.err e, rest) := by
    intro x
    cases x <;> rfl
  rw [← lifted]
  cases adapter with
  | seaOrm => rfl
  | deadpool | r2d2 =>
      exact congrArg (fun x => Async.answer x rest) (Async.liftExcept_bind _ _)

/-- All adapters send one and the same statement. -/
theorem Adapter.queryJson_statement (adapter : Adapter) (sql : String) :
    (adapter.queryJson libraries sql : Async σ _ _ _ _).answer adapter.connected =
      (.waiting (.statement (wrap sql)), []) := by
  cases adapter <;> rfl

/-- A query never writes. -/
theorem Adapter.queryJson_frames {τ : Type} (part : σ → τ) (adapter : Adapter) (sql : String) :
    (adapter.queryJson libraries sql).Frames part := by
  have asks : ∀ request, (backend request : Async σ _ _ _ _).Frames part :=
    fun request reply => Async.frames_liftExcept part _
  cases adapter with
  | deadpool =>
      exact (asks _).bind fun _ => (asks _).bind fun _ =>
        (Async.frames_liftExcept part _).bind fun _ => Async.frames_liftExcept part _
  | r2d2 =>
      exact (asks _).bind fun _ =>
        (Async.frames_liftExcept part _).bind fun _ => Async.frames_liftExcept part _
  | seaOrm => exact (asks _).bind fun _ => Async.frames_liftExcept part _

end

end DrMetrix.Postgres
