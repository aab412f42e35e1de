import DrMetrix.Redis.InfoParser

/-! # Lines are read one by one

What a line does to the result depends on that line only: it adds one keyspace
entry, or it writes one scalar field, or it does nothing. A scalar field is what
the last line with its key made of it.
-/

namespace DrMetrix.Redis

variable {F : Type} [Binary64 F]

namespace Scalar

/-- What a value makes of the field; a malformed one makes it 0. -/
def parsed (value : Text) : Scalar → Int64 ⊕ F
  | memFragmentationRatio => .inr ((Binary64.parse value).getD Binary64.zero)
  | _ => .inl (integer value)

theorem ofKey_eq_some {t : Text} {s : Scalar} (h : ofKey t = some s) : t = s.key.toList := by
  have found := List.find?_some h
  simpa [eq_comm] using found

end Scalar

/-! ## What a line holds -/

/-- Comments and empty lines are skipped. -/
def Skipped (t : Text) : Prop := t.head? = some '#' ∨ t = []

instance (t : Text) : Decidable (Skipped t) := inferInstanceAs (Decidable (_ ∨ _))

/-- The keyspace entry of a line. -/
def entryOf (line : Text) : Option (UInt32 × Int64 × Int64) :=
  if Skipped (Text.trim line) then none else keyspaceEntry (Text.trim line)

/-- The recognised key before the first colon of a line, and the value behind. -/
def scalarOf (line : Text) : Option (Scalar × Text) :=
  (Text.splitOnce ':' (Text.trim line)).bind fun parts =>
    (Scalar.ofKey parts.1).map fun s => (s, Text.trim parts.2)

/-- Once trimmed, the line is no comment and has the key before its first colon. -/
def Mentions (s : Scalar) (line : Text) : Prop :=
  (Text.trim line).head? ≠ some '#' ∧
    (Text.splitOnce ':' (Text.trim line)).map Prod.fst = some s.key.toList

/-- The value which a line has for a field. -/
def valueOf (s : Scalar) (line : Text) : Option Text :=
  (scalarOf line).bind fun found => if found.1 = s then some found.2 else none

theorem scalarOf_eq_some {line value : Text} {s : Scalar} :
    scalarOf line = some (s, value) ↔
      ∃ rest, Text.trim line = s.key.toList ++ ':' :: rest ∧ value = Text.trim rest := by
  unfold scalarOf
  constructor
  · intro found
    obtain ⟨⟨key, rest⟩, split, named⟩ := Option.bind_eq_some_iff.mp found
    obtain ⟨t, known, same⟩ := Option.map_eq_some_iff.mp named
    cases same
    obtain rfl := Scalar.ofKey_eq_some known
    exact ⟨rest, (Text.splitOnce_eq_some.mp split).1, rfl⟩
  · rintro ⟨rest, trimmed, rfl⟩
    simp only [trimmed, Text.splitOnce_append s.colon_not_mem_key, Option.bind_some,
      Scalar.ofKey_key, Option.map_some]

theorem valueOf_eq_some {line value : Text} {s : Scalar} :
    valueOf s line = some value ↔ scalarOf line = some (s, value) := by
  unfold valueOf
  cases scalarOf line with
  | none => simp
  | some found =>
      obtain ⟨t, v⟩ := found
      by_cases same : t = s <;> simp [same]

theorem mentions_iff {line : Text} {s : Scalar} : Mentions s line ↔ ∃ v, valueOf s line = some v := by
  simp only [valueOf_eq_some, scalarOf_eq_some]
  constructor
  · rintro ⟨-, named⟩
    obtain ⟨⟨key, rest⟩, split, rfl⟩ := Option.map_eq_some_iff.mp named
    exact ⟨_, rest, (Text.splitOnce_eq_some.mp split).1, rfl⟩
  · rintro ⟨v, rest, trimmed, -⟩
    rw [Mentions, trimmed, Text.splitOnce_append s.colon_not_mem_key]
    refine ⟨?_, rfl⟩
    cases s <;> simp [Scalar.key]

/-- A line with a recognised key has no entry. -/
theorem entryOf_of_scalarOf {line value : Text} {s : Scalar}
    (found : scalarOf line = some (s, value)) : entryOf line = none := by
  obtain ⟨rest, trimmed, -⟩ := scalarOf_eq_some.mp found
  unfold entryOf
  split
  · rfl
  · rw [trimmed]
    exact keyspaceEntry_scalar s rest

namespace RedisInfo

theorem read_assign (info : RedisInfo F) (value : Text) (s t : Scalar) :
    (info.assign value t).read s = if t = s then s.parsed value else info.read s := by
  cases t <;> cases s <;> rfl

theorem keyspace_assign (info : RedisInfo F) (value : Text) (t : Scalar) :
    (info.assign value t).keyspace = info.keyspace := by
  cases t <;> rfl

omit [Binary64 F] in
theorem read_pushEntry (info : RedisInfo F) (entry : UInt32 × Int64 × Int64) (s : Scalar) :
    (info.pushEntry entry).read s = info.read s := by
  cases s <;> rfl

/-- A line adds its entry, or writes its field, or does nothing. -/
theorem parseLine_cases (info : RedisInfo F) (line : Text) :
    (∃ entry, entryOf line = some entry ∧ scalarOf line = none ∧
      info.parseLine line = info.pushEntry entry) ∨
    (∃ s value, entryOf line = none ∧ scalarOf line = some (s, value) ∧
      info.parseLine line = info.assign value s) ∨
    entryOf line = none ∧ scalarOf line = none ∧ info.parseLine line = info := by
  cases found : scalarOf line with
  | some keyed =>
      obtain ⟨s, value⟩ := keyed
      obtain ⟨rest, trimmed, rfl⟩ := scalarOf_eq_some.mp found
      exact .inr (.inl ⟨s, _, entryOf_of_scalarOf found, rfl, parseLine_scalar info trimmed⟩)
  | none =>
      by_cases skipped : Skipped (Text.trim line)
      · exact .inr (.inr ⟨if_pos skipped, rfl, if_pos skipped⟩)
      · have entry : entryOf line = keyspaceEntry (Text.trim line) := if_neg skipped
        have unskipped : info.parseLine line = _ := if_neg skipped
        rw [entry, unskipped]
        cases keyspaceEntry (Text.trim line) with
        | some entry => exact .inl ⟨entry, rfl, rfl, rfl⟩
        | none =>
            refine .inr (.inr ⟨rfl, rfl, ?_⟩)
            unfold scalarOf at found
            cases split : Text.splitOnce ':' (Text.trim line) with
            | none => rfl
            | some parts =>
                rw [split] at found
                have unknown : Scalar.ofKey parts.1 = none := by simpa using found
                simp only [unknown]

theorem parseLine_read (info : RedisInfo F) (line : Text) (s : Scalar) :
    (info.parseLine line).read s = ((valueOf s line).map s.parsed).getD (info.read s) := by
  rcases parseLine_cases info line with ⟨entry, -, no, parsed⟩ | ⟨t, v, -, yes, parsed⟩ |
    ⟨-, no, parsed⟩
  · simp [parsed, read_pushEntry, valueOf, no]
  · by_cases same : t = s <;> simp [parsed, read_assign, valueOf, yes, same]
  · simp [parsed, valueOf, no]

theorem parseLine_keyspace (info : RedisInfo F) (line : Text) :
    (info.parseLine line).keyspace = info.keyspace ++ (entryOf line).toList := by
  rcases parseLine_cases info line with ⟨entry, yes, -, parsed⟩ | ⟨t, v, no, -, parsed⟩ |
    ⟨no, -, parsed⟩
  · simp [parsed, yes, pushEntry]
  · simp [parsed, no, keyspace_assign]
  · simp [parsed, no]

/-! ## Many lines -/

/-- The last value which the lines have for a field. -/
def lastValue (s : Scalar) (lines : List Text) : Option Text := (lines.filterMap (valueOf s)).getLast?

omit [Binary64 F] in
theorem lastValue_append (s : Scalar) (ls ms : List Text) :
    lastValue s (ls ++ ms) = (lastValue s ms).or (lastValue s ls) := by
  rw [lastValue, List.filterMap_append, List.getLast?_append]
  rfl

omit [Binary64 F] in
theorem lastValue_eq_none {s : Scalar} {lines : List Text} :
    lastValue s lines = none ↔ ∀ line ∈ lines, ¬ Mentions s line := by
  rw [lastValue, List.getLast?_eq_none_iff, List.filterMap_eq_nil_iff]
  simp only [mentions_iff, not_exists, Option.eq_none_iff_forall_ne_some, ne_eq]

theorem foldl_read (info : RedisInfo F) (lines : List Text) (s : Scalar) :
    (lines.foldl parseLine info).read s = ((lastValue s lines).map s.parsed).getD (info.read s) := by
  induction lines generalizing info with
  | nil => rfl
  | cons line lines ih =>
      rw [List.foldl_cons, ih, parseLine_read, ← List.singleton_append, lastValue_append]
      have single : lastValue s [line] = valueOf s line := by
        cases found : valueOf s line <;> simp [lastValue, found]
      rw [single]
      cases lastValue s lines <;> rfl

theorem foldl_keyspace (info : RedisInfo F) (lines : List Text) :
    (lines.foldl parseLine info).keyspace = info.keyspace ++ lines.filterMap entryOf := by
  induction lines generalizing info with
  | nil => simp
  | cons line lines ih =>
      rw [List.foldl_cons, ih, parseLine_keyspace, List.append_assoc]
      cases found : entryOf line <;> simp [found]

/-! ## Texts -/

theorem parseInfo_read (t : Text) (s : Scalar) :
    (parseInfo t : RedisInfo F).read s =
      ((lastValue s (Text.split '\n' t)).map s.parsed).getD (default.read s) := by
  rw [parseInfo_split, foldl_read]

theorem parseInfo_keyspace (t : Text) :
    (parseInfo t : RedisInfo F).keyspace = (Text.split '\n' t).filterMap entryOf := by
  rw [parseInfo_split, foldl_keyspace]
  rfl

/-- A text is read line by line, whatever the lines are. -/
theorem parseInfo_join {lines : List Text} (inline : ∀ line ∈ lines, '\n' ∉ line) :
    (parseInfo (['\n'].intercalate lines) : RedisInfo F) = lines.foldl parseLine default := by
  rw [parseInfo_split]
  by_cases none : lines = []
  · rw [none]
    rfl
  · rw [Text.split_join none inline]

omit [Binary64 F] in
/-- Looking for a key in the lines or between the newlines is the same. -/
theorem mentioned_iff (s : Scalar) (t : Text) :
    (∃ line ∈ Text.lines t, Mentions s line) ↔ lastValue s (Text.split '\n' t) ≠ none := by
  have trims : ∀ line, valueOf s line = valueOf s (Text.trim line) := by
    intro line
    simp only [valueOf, scalarOf, Text.trim_trim]
  have same : lastValue s (Text.lines t) = lastValue s (Text.split '\n' t) := by
    rw [lastValue, lastValue, Text.filterMap_lines trims rfl]
  rw [← same, ne_eq, lastValue_eq_none]
  simp only [not_forall, not_not, exists_prop]

/-! ## Permutations -/

theorem distinct_keys_single {α β : Type} [DecidableEq α] (a : α) {pairs : List (α × β)}
    (distinct : (pairs.map Prod.fst).Nodup) :
    (pairs.filterMap fun pair => if pair.1 = a then some pair.2 else none).length ≤ 1 := by
  induction pairs with
  | nil => simp
  | cons pair pairs ih =>
      rw [List.map_cons, List.nodup_cons] at distinct
      obtain ⟨new, distinct⟩ := distinct
      by_cases here : pair.1 = a
      · have nowhere : (pairs.filterMap fun pair => if pair.1 = a then some pair.2 else none) = [] := by
          rw [List.filterMap_eq_nil_iff]
          intro other member
          have apart : other.1 ≠ a := by
            rintro rfl
            exact new (here ▸ List.mem_map_of_mem member)
          simp [apart]
        simp [here, nowhere]
      · simpa [here] using ih distinct

/-- The recognised keys of the lines. -/
def keys (lines : List Text) : List Scalar := (lines.filterMap scalarOf).map Prod.fst

omit [Binary64 F] in
/-- A field with one line only does not care where it stands. -/
theorem lastValue_perm {lines permuted : List Text} (perm : lines.Perm permuted)
    (distinct : (keys lines).Nodup) (s : Scalar) : lastValue s lines = lastValue s permuted := by
  have single := distinct_keys_single s distinct
  rw [List.filterMap_filterMap] at single
  change (lines.filterMap (valueOf s)).length ≤ 1 at single
  have values := perm.filterMap (valueOf s)
  unfold lastValue
  cases found : lines.filterMap (valueOf s) with
  | nil =>
      rw [found] at values
      rw [values.nil_eq]
  | cons v vs =>
      rw [found] at values single
      obtain rfl : vs = [] := by simpa using single
      rw [values.singleton_eq]

/-- The text with these lines. -/
def unlines (lines : List Text) : Text := ['\n'].intercalate lines

/-- The laws of `parse_info` on any text, well formed or not. -/
structure LineLaws (F : Type) [Binary64 F] : Prop where
  keyspace : ∀ a b : Text, (parseInfo (a ++ '\n' :: b) : RedisInfo F).keyspace =
    (parseInfo a : RedisInfo F).keyspace ++ (parseInfo b : RedisInfo F).keyspace
  later : ∀ (a b : Text) (s : Scalar), (∃ line ∈ Text.lines b, Mentions s line) →
    (parseInfo (a ++ '\n' :: b) : RedisInfo F).read s = (parseInfo b).read s
  earlier : ∀ (a b : Text) (s : Scalar), (¬ ∃ line ∈ Text.lines b, Mentions s line) →
    (parseInfo (a ++ '\n' :: b) : RedisInfo F).read s = (parseInfo a).read s
  /-- The last occurrence wins, malformed or not. -/
  last : ∀ (a line value : Text) (s : Scalar), '\n' ∉ line →
    Text.trim line = s.key.toList ++ ':' :: value →
    (parseInfo (a ++ '\n' :: line) : RedisInfo F).read s = s.parsed (Text.trim value)
  /-- With or without a line, at most one field differs. -/
  oneField : ∀ (before : List Text) (line : Text) (after : List Text),
    (∀ l ∈ before ++ line :: after, '\n' ∉ l) →
    let present : RedisInfo F := parseInfo (unlines (before ++ line :: after))
    let absent : RedisInfo F := parseInfo (unlines (before ++ after))
    (∀ s, present.read s = absent.read s) ∨
      present.keyspace = absent.keyspace ∧ ∃ s, ∀ t, t ≠ s → present.read t = absent.read t
  irrelevant : ∀ (before : List Text) (line : Text) (after : List Text),
    (∀ l ∈ before ++ line :: after, '\n' ∉ l) → entryOf line = none → (∀ s, ¬ Mentions s line) →
    (parseInfo (unlines (before ++ line :: after)) : RedisInfo F) =
      parseInfo (unlines (before ++ after))
  /-- Lines with distinct keys may stand in any order, up to the order of the
      entries. -/
  permuted : ∀ lines permuted : List Text, lines.Perm permuted → (∀ l ∈ lines, '\n' ∉ l) →
    (keys lines).Nodup →
    (∀ s, (parseInfo (unlines lines) : RedisInfo F).read s = (parseInfo (unlines permuted)).read s) ∧
      (parseInfo (unlines lines) : RedisInfo F).keyspace = lines.filterMap entryOf ∧
      (parseInfo (unlines permuted) : RedisInfo F).keyspace = permuted.filterMap entryOf

theorem concat_read (a b : Text) (s : Scalar) :
    (parseInfo (a ++ '\n' :: b) : RedisInfo F).read s =
      ((lastValue s (Text.split '\n' b)).map s.parsed).getD ((parseInfo a).read s) := by
  rw [parseInfo_read, Text.split_append, lastValue_append, parseInfo_read]
  cases lastValue s (Text.split '\n' b) <;> rfl

section
variable {lines : List Text} (inline : ∀ line ∈ lines, '\n' ∉ line)
include inline

theorem unlines_read (s : Scalar) : (parseInfo (unlines lines) : RedisInfo F).read s =
    ((lastValue s lines).map s.parsed).getD (default.read s) := by
  rw [unlines, parseInfo_join inline, foldl_read]

theorem unlines_keyspace :
    (parseInfo (unlines lines) : RedisInfo F).keyspace = lines.filterMap entryOf := by
  rw [unlines, parseInfo_join inline, foldl_keyspace]
  rfl

end

omit [Binary64 F] in
theorem lastValue_silent (before : List Text) (line : Text) (after : List Text) {s : Scalar}
    (silent : valueOf s line = none) :
    lastValue s (before ++ line :: after) = lastValue s (before ++ after) := by
  simp [lastValue, silent]

theorem parseInfo_lines : LineLaws F where
  keyspace a b := by
    simp only [parseInfo_keyspace, Text.split_append, List.filterMap_append]
  later a b s mentioned := by
    have known := (mentioned_iff s b).mp mentioned
    rw [concat_read, parseInfo_read b]
    cases found : lastValue s (Text.split '\n' b) with
    | none => exact absurd found known
    | some v => rfl
  earlier a b s unmentioned := by
    have unknown := (mentioned_iff s b).not_left.mp unmentioned
    rw [concat_read, unknown]
    rfl
  last a line value s inline trimmed := by
    have single : lastValue s (Text.split '\n' line) = some (Text.trim value) := by
      have here := valueOf_eq_some.mpr (scalarOf_eq_some.mpr ⟨value, trimmed, rfl⟩)
      rw [Text.split_of_not_mem inline]
      simp [lastValue, here]
    rw [concat_read, single]
    rfl
  oneField before line after inline := by
    have others : ∀ l ∈ before ++ after, '\n' ∉ l := fun l member => inline l (by grind)
    simp only [unlines_read inline, unlines_read others, unlines_keyspace inline,
      unlines_keyspace others]
    cases found : scalarOf line with
    | none =>
        left
        intro s
        rw [lastValue_silent before line after (by simp [valueOf, found])]
    | some keyed =>
        obtain ⟨s, value⟩ := keyed
        right
        have noEntry := entryOf_of_scalarOf found
        refine ⟨by simp [noEntry], s, ?_⟩
        intro t other
        rw [lastValue_silent before line after (by simp [valueOf, found, other.symm])]
  irrelevant before line after inline noEntry noScalar := by
    have others : ∀ l ∈ before ++ after, '\n' ∉ l := fun l member => inline l (by grind)
    apply ext_read
    · intro s
      have silent : valueOf s line = none := by
        rw [Option.eq_none_iff_forall_ne_some]
        exact fun v found => noScalar s (mentions_iff.mpr ⟨v, found⟩)
      rw [unlines_read inline, unlines_read others, lastValue_silent before line after silent]
    · rw [unlines_keyspace inline, unlines_keyspace others]
      simp [noEntry]
  permuted lines permuted perm inline distinct := by
    have permutedInline : ∀ l ∈ permuted, '\n' ∉ l := fun l member => inline l (perm.mem_iff.mpr member)
    refine ⟨?_, unlines_keyspace inline, unlines_keyspace permutedInline⟩
    intro s
    rw [unlines_read inline, unlines_read permutedInline, lastValue_perm perm distinct]

end RedisInfo

end DrMetrix.Redis
