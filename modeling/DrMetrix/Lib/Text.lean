import Mathlib.Data.List.DropRight

/-! # Text as a list of characters

Trimming, line splitting and separator splitting in the shape of Rust's `str`
methods. A text is the list of its Unicode scalar values, so every slice taken
at an ASCII separator is a list split.
-/

abbrev Text := List Char

namespace Text

/-- The Unicode `White_Space` property. -/
def isWhitespace (c : Char) : Bool :=
  let n := c.toNat
  (9 ≤ n && n ≤ 13) || n == 0x20 || n == 0x85 || n == 0xA0 || n == 0x1680 ||
    (0x2000 ≤ n && n ≤ 0x200A) || n == 0x2028 || n == 0x2029 || n == 0x202F ||
    n == 0x205F || n == 0x3000

def trimStart (t : Text) : Text := t.dropWhile isWhitespace

def trimEnd (t : Text) : Text := t.rdropWhile isWhitespace

def trim (t : Text) : Text := trimEnd (trimStart t)

def stripPrefix (p t : Text) : Option Text := p.isPrefixOf? t

/-- The texts before and after the first separator. -/
def splitOnce (sep : Char) : Text → Option (Text × Text)
  | [] => none
  | c :: t =>
      if c = sep then some ([], t)
      else (splitOnce sep t).map fun parts => (c :: parts.1, parts.2)

/-- `str::split` on one character. -/
def split (sep : Char) (t : Text) : List Text := t.splitOn sep

/-- A `\r` right before the `\n` belongs to the line ending. -/
def stripCr (t : Text) : Text :=
  if t.getLast? = some '\r' then t.dropLast else t

/-- `str::lines`: every `\n` ends a line, and a nonempty rest is a last line. -/
def lines (t : Text) : List Text :=
  let pieces := t.splitOn '\n'
  let last := pieces.getLastD []
  pieces.dropLast.map stripCr ++ if last = [] then [] else [last]

/-- Nothing but whitespace. -/
def Blank (t : Text) : Prop := ∀ c ∈ t, isWhitespace c = true

/-- No whitespace at either end. -/
def Trimmed (t : Text) : Prop := trim t = t

/-! ## Trimming -/

theorem trimStart_blank_append {ws : Text} (blank : Blank ws) (t : Text) :
    trimStart (ws ++ t) = trimStart t :=
  List.dropWhile_append_of_pos blank

theorem trimStart_cons {c : Char} (solid : isWhitespace c = false) (t : Text) :
    trimStart (c :: t) = c :: t := by
  simp only [trimStart, List.dropWhile_cons, solid, Bool.false_eq_true, if_false]

theorem trimEnd_append_blank {ws : Text} (blank : Blank ws) (t : Text) :
    trimEnd (t ++ ws) = trimEnd t := by
  induction ws using List.reverseRecOn with
  | nil => rw [List.append_nil]
  | append_singleton ws c ih =>
      have here : isWhitespace c = true := blank c (by simp)
      have there : Blank ws := fun d member => blank d (List.mem_append_left _ member)
      rw [← List.append_assoc, trimEnd, List.rdropWhile_concat_pos _ _ _ here]
      exact ih there

/-- Everything up to a solid character survives trimming on the right. -/
theorem trimEnd_append_cons {c : Char} (solid : isWhitespace c = false) (s t : Text) :
    trimEnd (s ++ c :: t) = s ++ c :: trimEnd t := by
  induction t using List.reverseRecOn with
  | nil =>
      have keep : ¬ isWhitespace c = true := by simp only [solid, Bool.false_eq_true, not_false_eq_true]
      simp only [trimEnd, List.rdropWhile_concat_neg _ _ _ keep, List.rdropWhile_nil]
  | append_singleton t d ih =>
      have regroup : s ++ c :: (t ++ [d]) = (s ++ c :: t) ++ [d] := by simp
      by_cases white : isWhitespace d = true
      · rw [regroup, trimEnd, List.rdropWhile_concat_pos _ _ _ white, trimEnd,
          List.rdropWhile_concat_pos _ _ _ white]
        exact ih
      · rw [regroup, trimEnd, List.rdropWhile_concat_neg _ _ _ white, trimEnd,
          List.rdropWhile_concat_neg _ _ _ white, regroup]

theorem trimEnd_front (t : Text) : trimEnd t <+: t := List.rdropWhile_prefix _ t

/-- What trimming on the right removes is blank. -/
theorem trimEnd_split (t : Text) : ∃ ws, Blank ws ∧ t = trimEnd t ++ ws :=
  ⟨t.rtakeWhile isWhitespace, fun _ member => List.mem_rtakeWhile_imp member,
    List.rdropWhile_append_rtakeWhile.symm⟩

theorem trim_append_blank {ws : Text} (blank : Blank ws) (t : Text) :
    trim (t ++ ws) = trim t := by
  induction t with
  | nil =>
      have gone : trimStart ws = trimStart [] := by
        simpa only [List.append_nil] using trimStart_blank_append blank []
      rw [List.nil_append, trim, trim, gone]
  | cons c t ih =>
      cases white : isWhitespace c with
      | true =>
          simpa only [trim, trimStart, List.cons_append, List.dropWhile_cons, white, if_true] using ih
      | false =>
          simp only [trim, List.cons_append, trimStart_cons white]
          exact trimEnd_append_blank blank (c :: t)

theorem trim_blank_append {ws : Text} (blank : Blank ws) (t : Text) :
    trim (ws ++ t) = trim t := by
  simp only [trim, trimStart_blank_append blank]

@[simp] theorem trim_trimEnd (t : Text) : trim (trimEnd t) = trim t := by
  obtain ⟨ws, blank, parts⟩ := trimEnd_split t
  calc
    trim (trimEnd t) = trim (trimEnd t ++ ws) := (trim_append_blank blank _).symm
    _ = trim t := by rw [← parts]

@[simp] theorem trim_trim (t : Text) : trim (trim t) = trim t := by
  have again : trimStart (trimStart t) = trimStart t := List.dropWhile_idempotent isWhitespace t
  calc
    trim (trim t) = trim (trimStart t) := trim_trimEnd (trimStart t)
    _ = trim t := by rw [trim, again, ← trim]

theorem trim_blank {ws : Text} (blank : Blank ws) : trim ws = [] := by
  rw [← List.append_nil ws, trim_blank_append blank]
  rfl

/-- Padding around a trimmed text is exactly what `trim` removes. -/
theorem trim_padded {lead t trail : Text} (before : Blank lead) (after : Blank trail)
    (trimmed : Trimmed t) : trim (lead ++ t ++ trail) = t := by
  rw [trim_append_blank after, trim_blank_append before, trimmed]

theorem trimEnd_of_solid {t : Text} (solid : ∀ c ∈ t, isWhitespace c = false) : trimEnd t = t := by
  rw [trimEnd, List.rdropWhile_eq_self_iff]
  intro nonempty white
  have fact := solid _ (List.getLast_mem nonempty)
  rw [fact] at white
  cases white

theorem trimmed_of_solid {t : Text} (solid : ∀ c ∈ t, isWhitespace c = false) : Trimmed t := by
  cases t with
  | nil => rfl
  | cons c t =>
      rw [Trimmed, trim, trimStart_cons (solid c List.mem_cons_self)]
      exact trimEnd_of_solid solid

/-- Trimming a line whose key starts it and ends at a solid separator. -/
theorem trim_keyed {sep : Char} (solid : isWhitespace sep = false) {lead : Text}
    (before : Blank lead) {key : Text} (start : trimStart key = key) (rest : Text) :
    trim (lead ++ key ++ sep :: rest) = key ++ sep :: trimEnd rest := by
  have untouched : trimStart (key ++ sep :: rest) = key ++ sep :: rest := by
    cases key with
    | nil => exact trimStart_cons solid rest
    | cons c key =>
        apply trimStart_cons
        cases white : isWhitespace c with
        | false => rfl
        | true =>
            simp only [trimStart, List.dropWhile_cons, white, if_true] at start
            have longer := congrArg List.length start
            have shorter := List.length_dropWhile_le isWhitespace key
            rw [List.length_cons] at longer
            omega
  rw [List.append_assoc, trim_blank_append before, trim, untouched, trimEnd_append_cons solid]

/-! ## Splitting -/

theorem stripPrefix_eq_some {p t r : Text} : stripPrefix p t = some r ↔ t = p ++ r := by
  simp only [stripPrefix, List.isPrefixOf?_eq_some_iff_append_eq, eq_comm]

theorem mem_of_mem_trim {t : Text} {c : Char} (member : c ∈ trim t) : c ∈ t :=
  (List.dropWhile_sublist isWhitespace).subset ((trimEnd_front _).subset member)

theorem stripPrefix_append (p t : Text) : stripPrefix p (p ++ t) = some t :=
  stripPrefix_eq_some.mpr rfl

theorem splitOnce_eq_some {sep : Char} {t a b : Text} :
    splitOnce sep t = some (a, b) ↔ t = a ++ sep :: b ∧ sep ∉ a := by
  induction t generalizing a with
  | nil => simp [splitOnce]
  | cons c t ih =>
      by_cases here : c = sep
      · subst here
        cases a with
        | nil => simp [splitOnce, eq_comm]
        | cons d a =>
            simp only [splitOnce, if_true, Option.some.injEq, Prod.mk.injEq, List.cons_append,
              List.cons.injEq, List.mem_cons, not_or]
            grind
      · cases a with
        | nil => simp [splitOnce, here]
        | cons d a =>
            simp only [splitOnce, here, if_false, Option.map_eq_some_iff, Prod.exists,
              Prod.mk.injEq, List.cons.injEq, List.cons_append, List.mem_cons, not_or]
            grind

theorem splitOnce_append {sep : Char} {a : Text} (absent : sep ∉ a) (b : Text) :
    splitOnce sep (a ++ sep :: b) = some (a, b) :=
  splitOnce_eq_some.mpr ⟨rfl, absent⟩

theorem splitOnce_eq_none {sep : Char} {t : Text} : splitOnce sep t = none ↔ sep ∉ t := by
  induction t with
  | nil => simp [splitOnce]
  | cons c t ih =>
      by_cases here : c = sep
      · simp [splitOnce, here]
      · simp [splitOnce, here, ih, Ne.symm here]

theorem intercalate_cons_cons (sep : Char) (a b : Text) (parts : List Text) :
    [sep].intercalate (a :: b :: parts) = a ++ sep :: [sep].intercalate (b :: parts) := by
  simp [List.intercalate]

/-- Joining clean parts brings in nothing but the separator. -/
theorem not_mem_intercalate {sep c : Char} (apart : c ≠ sep) {parts : List Text}
    (clean : ∀ t ∈ parts, c ∉ t) : c ∉ [sep].intercalate parts := by
  induction parts with
  | nil => exact List.not_mem_nil
  | cons a parts ih =>
      obtain ⟨head, tail⟩ := List.forall_mem_cons.mp clean
      cases parts with
      | nil => simpa only [List.intercalate_singleton] using head
      | cons b parts =>
          rw [intercalate_cons_cons, List.mem_append, List.mem_cons]
          rintro (first | rfl | later)
          · exact head first
          · exact apart rfl
          · exact ih tail later

theorem split_append (sep : Char) (a b : Text) :
    split sep (a ++ sep :: b) = split sep a ++ split sep b :=
  List.splitOn_append_cons_self a b

theorem split_of_not_mem {sep : Char} {t : Text} (absent : sep ∉ t) : split sep t = [t] :=
  List.splitOn_eq_singleton absent

/-! ## Lines -/

theorem trim_stripCr (t : Text) : trim (stripCr t) = trim t := by
  unfold stripCr
  split
  · next ends =>
      obtain ⟨s, rfl⟩ := List.getLast?_eq_some_iff.mp ends
      rw [List.dropLast_concat]
      exact (trim_append_blank (by simp [Blank, isWhitespace]) s).symm
  · rfl

/-- A reader which trims its lines and ignores empty ones cannot tell `lines`
    from a plain split at every newline. -/
theorem foldl_lines {σ : Type*} (step : σ → Text → σ)
    (trims : ∀ s t, step s t = step s (trim t)) (skips : ∀ s, step s [] = s)
    (s : σ) (t : Text) : (lines t).foldl step s = (split '\n' t).foldl step s := by
  have sameLine : ∀ s l, step s (stripCr l) = step s l := by
    intro s l
    rw [trims, trim_stripCr, ← trims]
  have pieces : split '\n' t = (split '\n' t).dropLast ++ [(split '\n' t).getLastD []] := by
    have nonempty : split '\n' t ≠ [] := List.splitOn_ne_nil '\n' t
    rw [List.getLastD_eq_getLast?, List.getLast?_eq_some_getLast nonempty, Option.getD_some,
      List.dropLast_append_getLast nonempty]
  rw [pieces]
  simp only [lines, List.foldl_append, List.foldl_map, sameLine]
  change List.foldl step (List.foldl step s (split '\n' t).dropLast)
      (if (split '\n' t).getLastD [] = [] then [] else [(split '\n' t).getLastD []]) = _
  split
  · next empty => simp only [empty, List.foldl_nil, List.foldl_cons, skips]
  · rfl

/-- The same for whatever is read from the lines one by one. -/
theorem filterMap_lines {α : Type*} {f : Text → Option α} (trims : ∀ t, f t = f (trim t))
    (skips : f [] = none) (t : Text) : (lines t).filterMap f = (split '\n' t).filterMap f := by
  have collected : ∀ (ls : List Text) (as : List α),
      ls.foldl (fun as l => as ++ (f l).toList) as = as ++ ls.filterMap f := by
    intro ls
    induction ls with
    | nil => simp
    | cons l ls ih =>
        intro as
        rw [List.foldl_cons, ih, List.append_assoc]
        cases found : f l <;> simp [found]
  have same := foldl_lines (fun as l => as ++ (f l).toList) (fun as l => by rw [trims l])
    (fun as => by simp [skips]) [] t
  simpa only [collected, List.nil_append] using same

/-- Joined lines come apart again. -/
theorem split_join {sep : Char} {ls : List Text} (nonempty : ls ≠ [])
    (clean : ∀ l ∈ ls, sep ∉ l) : split sep ([sep].intercalate ls) = ls :=
  List.splitOn_intercalate sep clean nonempty

end Text
