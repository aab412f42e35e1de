import DrMetrix.Redis.InfoParser

/-! # Well-formed `INFO` texts

What a server may send for a given `RedisInfo`: one line for each scalar field
and each keyspace entry, between lines which the parser has to skip. The data of
a rendering carry their own conditions, and parsing any rendering gives the
rendered value back.
-/

namespace DrMetrix.Redis

open Text

/-! ## Lines -/

/-- Whitespace which does not end the line. -/
structure Padding where
  text : Text
  blank : Blank text
  inline : '\n' ∉ text

/-- A field of a keyspace line which the parser ignores. -/
structure OtherField where
  text : Text
  inline : '\n' ∉ text
  single : ',' ∉ text
  notKeys : stripPrefix "keys=".toList text = none
  notExpires : stripPrefix "expires=".toList text = none

inductive Field where
  | keys
  | expires
  | other (field : OtherField)

structure KeyspaceLine where
  entry : UInt32 × Int64 × Int64
  lead : Padding
  fields : List Field
  keysOnce : (fields.countP fun | .keys => true | _ => false) = 1
  expiresOnce : (fields.countP fun | .expires => true | _ => false) = 1
  trail : Padding

/-- A line which says nothing about any field: blank, a comment, without a
    colon, or with a key which is neither recognised nor `db<u32>`. -/
inductive Noise : Text → Prop where
  | blank {t : Text} (blank : Blank t) : Noise t
  | comment {lead : Text} (before : Blank lead) (rest : Text) : Noise (lead ++ '#' :: rest)
  | bare {t : Text} (noColon : ':' ∉ t) : Noise t
  | unknown {lead : Text} (before : Blank lead) (key rest : Text) (noColon : ':' ∉ key)
      (start : trimStart key = key) (notScalar : Scalar.ofKey key = none)
      (notDb : ∀ t, key = "db".toList ++ t → Decimal.parseU32 t = none) :
      Noise (lead ++ key ++ ':' :: rest)

structure NoiseLine where
  text : Text
  inline : '\n' ∉ text
  noise : Noise text

inductive Line where
  | scalar (s : Scalar) (lead gap trail : Padding)
  | keyspace (line : KeyspaceLine)
  | noise (line : NoiseLine)

inductive Ending where
  | lf
  | crlf

/-- What an ending puts before its newline. -/
def Ending.cr : Ending → Text
  | .lf => []
  | .crlf => ['\r']

variable {F : Type}

/-- The printed value of a scalar field; the ratio is printed as the given text. -/
def RedisInfo.shown (info : RedisInfo F) (ratio : Text) (s : Scalar) : Text :=
  match info.read s with
  | .inl n => Decimal.showI64 n
  | .inr _ => ratio

def Field.text (entry : UInt32 × Int64 × Int64) : Field → Text
  | .keys => "keys=".toList ++ Decimal.showI64 entry.2.1
  | .expires => "expires=".toList ++ Decimal.showI64 entry.2.2
  | .other field => field.text

namespace Field

variable (entry : UInt32 × Int64 × Int64)

theorem text_keys : keys.text entry = "keys=".toList ++ Decimal.showI64 entry.2.1 := rfl

theorem text_expires : expires.text entry = "expires=".toList ++ Decimal.showI64 entry.2.2 := rfl

theorem text_other (field : OtherField) : (other field).text entry = field.text := rfl

end Field

def KeyspaceLine.joined (line : KeyspaceLine) : Text :=
  [','].intercalate (line.fields.map (Field.text line.entry))

def Line.text (info : RedisInfo F) (ratio : Text) : Line → Text
  | .scalar s lead gap trail =>
      lead.text ++ s.key.toList ++ ':' :: (gap.text ++ info.shown ratio s ++ trail.text)
  | .keyspace line =>
      line.lead.text ++ "db".toList ++ Decimal.showU32 line.entry.1 ++
        ':' :: (line.joined ++ line.trail.text)
  | .noise line => line.text

def Line.isScalar (s : Scalar) : Line → Bool
  | .scalar t .. => s = t
  | _ => false

def Line.entry? : Line → Option (UInt32 × Int64 × Int64)
  | .keyspace line => some line.entry
  | _ => none

/-- A well-formed rendering of a value. -/
structure Rendering [Binary64 F] (info : RedisInfo F) where
  ratio : Text
  accepted : Binary64.parse ratio = some info.memFragmentationRatio
  inline : '\n' ∉ ratio
  trimmed : Trimmed ratio
  ended : List (Line × Ending)
  last : Option Line
  scalars : ∀ s, (ended.map Prod.fst ++ last.toList).countP (Line.isScalar s) = 1
  entries : (ended.map Prod.fst ++ last.toList).filterMap Line.entry? = info.keyspace

namespace Rendering

variable [Binary64 F] {info : RedisInfo F}

def lines (r : Rendering info) : List Line := r.ended.map Prod.fst ++ r.last.toList

def text (r : Rendering info) : Text :=
  (r.ended.flatMap fun l => l.1.text info r.ratio ++ l.2.cr ++ ['\n']) ++
    (r.last.map (Line.text info r.ratio)).getD []

end Rendering

/-! ## Keyspace fields -/

/-- What reading the field does to the entry under construction. -/
def Field.effect (entry : UInt32 × Int64 × Int64) (acc : Int64 × Int64) : Field → Int64 × Int64
  | .keys => (entry.2.1, acc.2)
  | .expires => (acc.1, entry.2.2)
  | .other _ => acc

theorem Field.single (entry : UInt32 × Int64 × Int64) (f : Field) : ',' ∉ f.text entry := by
  have printed : ∀ n : Int64, ',' ∉ Decimal.showI64 n := by
    intro n member
    rcases Decimal.mem_showI64 member with same | digit
    · cases same
    · cases digit
  cases f with
  | keys =>
      intro member
      rcases List.mem_append.mp member with label | number
      · revert label; decide
      · exact printed _ number
  | expires =>
      intro member
      rcases List.mem_append.mp member with label | number
      · revert label; decide
      · exact printed _ number
  | other field => exact field.single

theorem readField_keys (acc : Int64 × Int64) (n : Int64) :
    readField acc ("keys=".toList ++ Decimal.showI64 n) = (n, acc.2) := by
  simp only [readField, stripPrefix_append, integer, Decimal.parseI64_showI64, Option.getD_some]

theorem readField_expires (acc : Int64 × Int64) (n : Int64) :
    readField acc ("expires=".toList ++ Decimal.showI64 n) = (acc.1, n) := by
  have other : stripPrefix "keys=".toList ("expires=".toList ++ Decimal.showI64 n) = none := rfl
  simp only [readField, other, stripPrefix_append, integer, Decimal.parseI64_showI64,
    Option.getD_some]

theorem readField_trimmed (entry : UInt32 × Int64 × Int64) (acc : Int64 × Int64) (f : Field) :
    readField acc (trimEnd (f.text entry)) = f.effect entry acc := by
  have solid : ∀ (label : Text) (n : Int64), (∀ c ∈ label, isWhitespace c = false) →
      trimEnd (label ++ Decimal.showI64 n) = label ++ Decimal.showI64 n := by
    intro label n clean
    exact trimEnd_of_solid (List.forall_mem_append.mpr ⟨clean, Decimal.solid_showI64 n⟩)
  have keysSolid : ∀ c ∈ "keys=".toList, isWhitespace c = false := by simp [isWhitespace]
  have expiresSolid : ∀ c ∈ "expires=".toList, isWhitespace c = false := by simp [isWhitespace]
  cases f with
  | keys => simp only [Field.text_keys, solid _ _ keysSolid, readField_keys, Field.effect]
  | expires => simp only [Field.text_expires, solid _ _ expiresSolid, readField_expires, Field.effect]
  | other field =>
      -- Trimming cannot make a field start with a label it did not start with.
      have still : ∀ p, stripPrefix p field.text = none →
          stripPrefix p (trimEnd field.text) = none := by
        intro p absent
        cases found : stripPrefix p (trimEnd field.text) with
        | none => rfl
        | some rest =>
            obtain ⟨ws, -, parts⟩ := trimEnd_split field.text
            have whole : field.text = p ++ (rest ++ ws) := by
              rw [← List.append_assoc, ← stripPrefix_eq_some.mp found]
              exact parts
            rw [stripPrefix_eq_some.mpr whole] at absent
            cases absent
      simp only [Field.text_other, readField, still _ field.notKeys, still _ field.notExpires,
        Field.effect]

theorem readField_text (entry : UInt32 × Int64 × Int64) (acc : Int64 × Int64) (f : Field) :
    readField acc (f.text entry) = f.effect entry acc := by
  cases f with
  | keys => simp only [Field.text_keys, readField_keys, Field.effect]
  | expires => simp only [Field.text_expires, readField_expires, Field.effect]
  | other field => simp only [Field.text_other, readField, field.notKeys, field.notExpires, Field.effect]

/-- Splitting at the commas finds the fields again; only the last one is trimmed. -/
theorem foldl_fields (entry : UInt32 × Int64 × Int64) (fields : List Field)
    (nonempty : fields ≠ []) (acc : Int64 × Int64) :
    (split ',' (trimEnd ([','].intercalate (fields.map (Field.text entry))))).foldl readField acc =
      fields.foldl (Field.effect entry) acc := by
  induction fields generalizing acc with
  | nil => exact absurd rfl nonempty
  | cons f rest ih =>
      cases rest with
      | nil =>
          have clean : ',' ∉ trimEnd (f.text entry) :=
            fun member => f.single entry ((trimEnd_front _).subset member)
          simp only [List.map_cons, List.map_nil, List.intercalate_singleton,
            split_of_not_mem clean, List.foldl_cons, List.foldl_nil, readField_trimmed]
      | cons g rest =>
          have joined : [','].intercalate ((f :: g :: rest).map (Field.text entry)) =
              f.text entry ++ ',' :: [','].intercalate ((g :: rest).map (Field.text entry)) :=
            intercalate_cons_cons ',' _ _ _
          rw [joined, trimEnd_append_cons rfl, split_append, List.foldl_append,
            split_of_not_mem (f.single entry), ih (List.cons_ne_nil _ _)]
          simp only [List.foldl_cons, List.foldl_nil, readField_text]

/-- Both labels are there, and every occurrence of one writes the same value. -/
theorem foldl_effect (entry : UInt32 × Int64 × Int64) (fields : List Field)
    (acc : Int64 × Int64) :
    fields.foldl (Field.effect entry) acc =
      (if fields.any (fun | .keys => true | _ => false) then entry.2.1 else acc.1,
        if fields.any (fun | .expires => true | _ => false) then entry.2.2 else acc.2) := by
  induction fields generalizing acc with
  | nil => rfl
  | cons f rest ih =>
      rw [List.foldl_cons, ih]
      cases f <;> simp [Field.effect]

theorem KeyspaceLine.fields_read (line : KeyspaceLine) :
    keyspaceFields (trimEnd line.joined) = line.entry.2 := by
  have some_of_once : ∀ p : Field → Bool, line.fields.countP p = 1 → line.fields.any p = true := by
    intro p once
    obtain ⟨f, member, holds⟩ := List.countP_pos_iff.mp (once ▸ Nat.one_pos)
    exact List.any_eq_true.mpr ⟨f, member, holds⟩
  have nonempty : line.fields ≠ [] := by
    intro empty
    have once := line.keysOnce
    rw [empty] at once
    cases once
  rw [keyspaceFields, KeyspaceLine.joined, foldl_fields line.entry line.fields nonempty,
    foldl_effect, some_of_once _ line.keysOnce, some_of_once _ line.expiresOnce]
  rfl

/-! ## Lines -/

/-- Copy one scalar field. -/
def RedisInfo.put (acc info : RedisInfo F) : Scalar → RedisInfo F
  | .connectedClients => { acc with connectedClients := info.connectedClients }
  | .blockedClients => { acc with blockedClients := info.blockedClients }
  | .usedMemory => { acc with usedMemory := info.usedMemory }
  | .usedMemoryRss => { acc with usedMemoryRss := info.usedMemoryRss }
  | .memFragmentationRatio => { acc with memFragmentationRatio := info.memFragmentationRatio }
  | .totalCommandsProcessed => { acc with totalCommandsProcessed := info.totalCommandsProcessed }
  | .keyspaceHits => { acc with keyspaceHits := info.keyspaceHits }
  | .keyspaceMisses => { acc with keyspaceMisses := info.keyspaceMisses }
  | .evictedKeys => { acc with evictedKeys := info.evictedKeys }
  | .replicationOffset => { acc with replicationOffset := info.replicationOffset }
  | .connectedSlaves => { acc with connectedSlaves := info.connectedSlaves }

theorem RedisInfo.read_put (acc info : RedisInfo F) (s t : Scalar) :
    (acc.put info s).read t = if s = t then info.read t else acc.read t := by
  cases s <;> cases t <;> rfl

theorem RedisInfo.keyspace_put (acc info : RedisInfo F) (s : Scalar) :
    (acc.put info s).keyspace = acc.keyspace := by
  cases s <;> rfl

/-- What parsing a line of a rendering does. -/
def Line.effect (info acc : RedisInfo F) : Line → RedisInfo F
  | .scalar s .. => acc.put info s
  | .keyspace line => acc.pushEntry line.entry
  | .noise _ => acc

/-- All lines together: the scalar fields which have a line, and every entry. -/
theorem effects_read (info acc : RedisInfo F) (lines : List Line) :
    (∀ s, (lines.foldl (Line.effect info) acc).read s =
      if lines.any (Line.isScalar s) then info.read s else acc.read s) ∧
    (lines.foldl (Line.effect info) acc).keyspace =
      acc.keyspace ++ lines.filterMap Line.entry? := by
  induction lines generalizing acc with
  | nil => simp
  | cons line lines ih =>
      obtain ⟨scalars, keyspace⟩ := ih (line.effect info acc)
      rw [List.foldl_cons]
      refine ⟨?_, ?_⟩
      · intro s
        rw [scalars s]
        cases line with
        | scalar t lead gap trail =>
            simp only [Line.effect, RedisInfo.read_put, List.any_cons, Line.isScalar]
            by_cases same : t = s
            · simp [same]
            · simp [same, Ne.symm same]
        | keyspace line => cases s <;> rfl
        | noise line => rfl
      · rw [keyspace]
        cases line with
        | scalar t lead gap trail =>
            simp only [Line.effect, RedisInfo.keyspace_put]
            rfl
        | keyspace line => exact List.append_assoc _ _ _
        | noise line => rfl

/-! Newlines end lines and occur nowhere else. -/

theorem newline_not_mem_showI64 (n : Int64) : '\n' ∉ Decimal.showI64 n := by
  intro member
  have solid := Decimal.solid_showI64 n '\n' member
  cases solid

theorem Field.inline (entry : UInt32 × Int64 × Int64) (f : Field) : '\n' ∉ f.text entry := by
  cases f with
  | keys =>
      rw [text_keys, List.mem_append, not_or]
      exact ⟨by decide, newline_not_mem_showI64 _⟩
  | expires =>
      rw [text_expires, List.mem_append, not_or]
      exact ⟨by decide, newline_not_mem_showI64 _⟩
  | other field => exact field.inline

theorem Line.inline {info : RedisInfo F} {ratio : Text} (inline : '\n' ∉ ratio) (line : Line) :
    '\n' ∉ line.text info ratio := by
  cases line with
  | noise noise => exact noise.inline
  | scalar s lead gap trail =>
      have key : '\n' ∉ s.key.toList := by
        cases s <;> decide
      have value : '\n' ∉ info.shown ratio s := by
        unfold RedisInfo.shown
        split
        · exact newline_not_mem_showI64 _
        · exact inline
      simp only [Line.text, List.mem_append, List.mem_cons, not_or]
      exact ⟨⟨lead.inline, key⟩, by decide, ⟨gap.inline, value⟩, trail.inline⟩
  | keyspace line =>
      have index : '\n' ∉ Decimal.showU32 line.entry.1 := by
        intro member
        cases Decimal.mem_showU32 member
      have joined : '\n' ∉ line.joined := by
        apply not_mem_intercalate (by decide)
        intro t member
        obtain ⟨f, -, rfl⟩ := List.mem_map.mp member
        exact f.inline line.entry
      simp only [Line.text, List.mem_append, List.mem_cons, not_or]
      exact ⟨⟨⟨line.lead.inline, by decide⟩, index⟩, by decide, joined, line.trail.inline⟩

variable [Binary64 F]

theorem RedisInfo.assign_shown {info : RedisInfo F} {ratio : Text}
    (accepted : Binary64.parse ratio = some info.memFragmentationRatio) (acc : RedisInfo F)
    (s : Scalar) : acc.assign (info.shown ratio s) s = acc.put info s := by
  cases s <;>
    simp only [assign, shown, read, put, integer, Decimal.parseI64_showI64, accepted,
      Option.getD_some]

theorem solid_colon : isWhitespace ':' = false := rfl

theorem keyspaceEntry_bare {t : Text} (absent : ':' ∉ t) : keyspaceEntry t = none := by
  cases found : keyspaceEntry t with
  | none => rfl
  | some entry =>
      obtain ⟨index, fields, shape, -, -⟩ := keyspaceEntry_split found
      simp [shape] at absent

theorem keyspaceEntry_unknown {key : Text} (noColon : ':' ∉ key)
    (notDb : ∀ t, key = "db".toList ++ t → Decimal.parseU32 t = none) (rest : Text) :
    keyspaceEntry (key ++ ':' :: rest) = none := by
  cases found : keyspaceEntry (key ++ ':' :: rest) with
  | none => rfl
  | some entry =>
      obtain ⟨index, fields, shape, clean, number⟩ := keyspaceEntry_split found
      -- Both sides are split at their first colon.
      have again := splitOnce_append clean fields
      rw [← shape, splitOnce_append noColon] at again
      have none := notDb index (congrArg Prod.fst (Option.some.inj again))
      rw [none] at number
      cases number

theorem Noise.skipped {t : Text} (noise : Noise t) {cr : Text} (blank : Blank cr)
    (acc : RedisInfo F) : acc.parseLine (t ++ cr) = acc := by
  rw [RedisInfo.parseLine_trim, trim_append_blank blank]
  cases noise with
  | blank white =>
      rw [trim_blank white]
      rfl
  | comment before rest =>
      have trimmed : trim ('#' :: rest) = '#' :: trimEnd rest :=
        trimEnd_append_cons rfl [] rest
      rw [trim_blank_append before, trimmed, RedisInfo.parseLine, ← trimmed, trim_trim, trimmed]
      exact if_pos (.inl rfl)
  | bare noColon =>
      have absent : ':' ∉ trim t := fun member => noColon (mem_of_mem_trim member)
      simp only [RedisInfo.parseLine, trim_trim, keyspaceEntry_bare absent,
        splitOnce_eq_none.mpr absent, ite_self]
  | unknown before key rest noColon start notScalar notDb =>
      have trimmed := trim_keyed solid_colon before start rest
      have found : splitOnce ':' (key ++ ':' :: trimEnd rest) = some (key, trimEnd rest) :=
        splitOnce_append noColon _
      have noEntry := keyspaceEntry_unknown noColon notDb (trimEnd rest)
      rw [trimmed, RedisInfo.parseLine, ← trimmed, trim_trim, trimmed]
      simp only [noEntry, found, notScalar, ite_self]

/-- Every line of a rendering, under either ending. -/
theorem Line.parsed {info : RedisInfo F} {ratio : Text}
    (accepted : Binary64.parse ratio = some info.memFragmentationRatio) (trimmed : Trimmed ratio)
    (line : Line) {cr : Text} (blank : Blank cr) (acc : RedisInfo F) :
    acc.parseLine (line.text info ratio ++ cr) = line.effect info acc := by
  cases line with
  | noise noise => exact noise.noise.skipped blank acc
  | scalar s lead gap trail =>
      have start : trimStart s.key.toList = s.key.toList := by
        cases s <;> decide
      have value : Trimmed (info.shown ratio s) := by
        unfold RedisInfo.shown
        split
        · exact trimmed_of_solid (Decimal.solid_showI64 _)
        · exact trimmed
      have padding : Blank (trail.text ++ cr) := List.forall_mem_append.mpr ⟨trail.blank, blank⟩
      have regroup : (Line.scalar s lead gap trail).text info ratio ++ cr =
          lead.text ++ s.key.toList ++
            ':' :: (gap.text ++ info.shown ratio s ++ (trail.text ++ cr)) := by
        simp [Line.text]
      rw [regroup, RedisInfo.parseLine_scalar acc (trim_keyed solid_colon lead.blank start _), trim_trimEnd,
        trim_padded gap.blank padding value, RedisInfo.assign_shown accepted]
      rfl
  | keyspace line =>
      have start : trimStart ("db".toList ++ Decimal.showU32 line.entry.1) =
          "db".toList ++ Decimal.showU32 line.entry.1 := rfl
      have regroup : (Line.keyspace line).text info ratio ++ cr =
          line.lead.text ++ ("db".toList ++ Decimal.showU32 line.entry.1) ++
            ':' :: (line.joined ++ (line.trail.text ++ cr)) := by
        simp [Line.text]
      have padding : Blank (line.trail.text ++ cr) :=
        List.forall_mem_append.mpr ⟨line.trail.blank, blank⟩
      have trimmed := trim_keyed solid_colon line.lead.blank start (line.joined ++ (line.trail.text ++ cr))
      rw [trimEnd_append_blank padding] at trimmed
      have labelled := trimmed.trans (List.append_assoc _ _ _)
      rw [regroup, RedisInfo.parseLine_entry acc labelled, line.fields_read]
      rfl

/-! ## Whole texts -/

/-- Splitting at the newlines finds the ended lines again. -/
theorem foldl_ended {info : RedisInfo F} {ratio : Text}
    (accepted : Binary64.parse ratio = some info.memFragmentationRatio) (inline : '\n' ∉ ratio)
    (trimmed : Trimmed ratio) (ended : List (Line × Ending)) (tail : Text) (acc : RedisInfo F) :
    (split '\n' ((ended.flatMap fun l => l.1.text info ratio ++ l.2.cr ++ ['\n']) ++ tail)).foldl
        RedisInfo.parseLine acc =
      (split '\n' tail).foldl RedisInfo.parseLine
        ((ended.map Prod.fst).foldl (Line.effect info) acc) := by
  induction ended generalizing acc with
  | nil => rfl
  | cons l ended ih =>
      obtain ⟨line, ending⟩ := l
      have blank : Blank ending.cr := by
        cases ending <;> simp [Ending.cr, Blank, isWhitespace]
      have clean : '\n' ∉ line.text info ratio ++ ending.cr := by
        rw [List.mem_append, not_or]
        refine ⟨line.inline inline, ?_⟩
        cases ending <;> decide
      have regroup : ((⟨line, ending⟩ :: ended).flatMap fun l =>
          l.1.text info ratio ++ l.2.cr ++ ['\n']) ++ tail =
            (line.text info ratio ++ ending.cr) ++ '\n' ::
              ((ended.flatMap fun l => l.1.text info ratio ++ l.2.cr ++ ['\n']) ++ tail) := by
        simp
      rw [regroup, split_append, List.foldl_append, split_of_not_mem clean, List.foldl_cons,
        List.foldl_nil, Line.parsed accepted trimmed line blank, ih]
      rfl

theorem foldl_rendering {info : RedisInfo F} (r : Rendering info) :
    (split '\n' r.text).foldl RedisInfo.parseLine RedisInfo.default =
      r.lines.foldl (Line.effect info) RedisInfo.default := by
  rw [Rendering.text, foldl_ended r.accepted r.inline r.trimmed, Rendering.lines, List.foldl_append]
  cases r.last with
  | none => rfl
  | some line =>
      have noCr : Blank [] := fun _ none => absurd none List.not_mem_nil
      have parsed := fun acc => line.parsed r.accepted r.trimmed noCr acc
      simp only [List.append_nil] at parsed
      simp only [Option.map_some, Option.getD_some, split_of_not_mem (line.inline r.inline),
        List.foldl_cons, List.foldl_nil, parsed, Option.toList_some]

/-- Parsing undoes rendering. -/
theorem parseInfo_rendering (info : RedisInfo F) (r : Rendering info) :
    RedisInfo.parseInfo r.text = info := by
  obtain ⟨scalars, keyspace⟩ := effects_read info RedisInfo.default r.lines
  rw [RedisInfo.parseInfo_split, foldl_rendering]
  apply RedisInfo.ext_read
  · intro s
    obtain ⟨line, member, found⟩ := List.countP_pos_iff.mp (r.scalars s ▸ Nat.one_pos)
    have present : r.lines.any (Line.isScalar s) = true :=
      List.any_eq_true.mpr ⟨line, member, found⟩
    rw [scalars s, if_pos present]
  · rw [keyspace]
    exact r.entries

/-- The rendering without padding and noise. -/
def Rendering.canonical (info : RedisInfo F) {ratio : Text}
    (accepted : Binary64.parse ratio = some info.memFragmentationRatio) (inline : '\n' ∉ ratio)
    (trimmed : Trimmed ratio) : Rendering info :=
  let none : Padding := ⟨[], fun _ absent => absurd absent List.not_mem_nil, List.not_mem_nil⟩
  let scalars := Scalar.all.map fun s => (Line.scalar s none none none, Ending.crlf)
  let entries := info.keyspace.map fun entry =>
    (Line.keyspace ⟨entry, none, [.keys, .expires], rfl, rfl, none⟩, Ending.crlf)
  { ratio, accepted, inline, trimmed, ended := scalars ++ entries, last := .none
    scalars := by
      intro s
      have once : (scalars.map Prod.fst).countP (Line.isScalar s) = 1 := by
        cases s <;> rfl
      have never : (entries.map Prod.fst).countP (Line.isScalar s) = 0 := by
        apply List.countP_eq_zero.mpr
        intro line member
        obtain ⟨pair, inside, rfl⟩ := List.mem_map.mp member
        obtain ⟨entry, -, rfl⟩ := List.mem_map.mp inside
        exact Bool.false_ne_true
      rw [List.map_append, Option.toList_none, List.append_nil, List.countP_append, once, never]
    entries := by
      have silent : (scalars.map Prod.fst).filterMap Line.entry? = [] := rfl
      rw [List.map_append, Option.toList_none, List.append_nil, List.filterMap_append, silent,
        List.nil_append]
      simp [entries, List.filterMap_map, Function.comp_def, Line.entry?] }

/-- Every value whose ratio the float parser can produce has a rendering. -/
theorem Rendering.nonempty {info : RedisInfo F} {ratio : Text}
    (accepted : Binary64.parse ratio = some info.memFragmentationRatio) (inline : '\n' ∉ ratio)
    (trimmed : Trimmed ratio) : Nonempty (Rendering info) :=
  ⟨canonical info accepted inline trimmed⟩

example : (RedisInfo.parseInfo
    "# Keyspace\r\n\tdb3:avg_ttl=0,expires=2,keys=-5 \r\n\nrole:master\ndbsize\nused_memory: 9".toList :
      RedisInfo Exact) =
    { RedisInfo.default with usedMemory := 9, keyspace := [(3, -5, 2)] } := by
  decide +kernel

end DrMetrix.Redis
