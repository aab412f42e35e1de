import DrMetrix.Lib.Binary64
import Mathlib.Algebra.Field.Rat
import Mathlib.Data.List.TakeDrop

/-! # The grammar of float literals

What `str::parse::<f64>` accepts, stated without a parser: an optional sign
before one of three words or a decimal number. The parser accepts exactly this,
and a nonempty text of digits alone is read as the number it denotes.
-/

namespace FloatLiteral

/-- Digits only, possibly none. -/
def Digits (t : Text) : Prop := ∀ c ∈ t, c.isDigit = true

def Sign (t : Text) : Prop := t = [] ∨ t = ['-'] ∨ t = ['+']

/-- `inf`, `infinity` or `nan`, in any case. -/
def Word (t : Text) : Prop :=
  t.map Char.toLower = "inf".toList ∨ t.map Char.toLower = "infinity".toList ∨
    t.map Char.toLower = "nan".toList

/-- At least one digit, and at most one point. -/
inductive Mantissa : Text → Prop where
  | whole {ds : Text} (digits : Digits ds) (nonempty : ds ≠ []) : Mantissa ds
  | point {ds fs : Text} (digits : Digits ds) (fraction : Digits fs)
      (nonempty : ds ≠ [] ∨ fs ≠ []) : Mantissa (ds ++ '.' :: fs)

inductive Exponent : Text → Prop where
  | absent : Exponent []
  | present {e : Char} {s ds : Text} (letter : e = 'e' ∨ e = 'E') (sign : Sign s)
      (digits : Digits ds) (nonempty : ds ≠ []) : Exponent (e :: (s ++ ds))

end FloatLiteral

inductive FloatLiteral : Text → Prop where
  | word {s w : Text} (sign : FloatLiteral.Sign s) (word : FloatLiteral.Word w) :
      FloatLiteral (s ++ w)
  | number {s m e : Text} (sign : FloatLiteral.Sign s) (mantissa : FloatLiteral.Mantissa m)
      (exponent : FloatLiteral.Exponent e) : FloatLiteral (s ++ (m ++ e))

namespace FloatLiteral

/-! ## The pieces of the parser -/

/-- The first character, if there is one, is neither sign. -/
def Unsigned (t : Text) : Prop := ∀ c ∈ t.head?, c ≠ '-' ∧ c ≠ '+'

/-- The first character, if there is one, is no digit. -/
def Stops (t : Text) : Prop := ∀ c ∈ t.head?, c.isDigit = false

theorem sign_append {s t : Text} (sign : Sign s) (unsigned : Unsigned t) :
    (Exact.sign (s ++ t)).2 = t := by
  rcases sign with rfl | rfl | rfl
  · cases t with
    | nil => rfl
    | cons c t =>
        have first := unsigned c rfl
        simp [Exact.sign, first]
  · rfl
  · rfl

theorem sign_split (t : Text) : ∃ s, Sign s ∧ t = s ++ (Exact.sign t).2 := by
  unfold Exact.sign
  split
  · exact ⟨['-'], by simp [Sign], rfl⟩
  · exact ⟨['+'], by simp [Sign], rfl⟩
  · exact ⟨[], by simp [Sign], rfl⟩

theorem span_append {ds t : Text} (digits : Digits ds) (stops : Stops t) :
    (ds ++ t).span Char.isDigit = (ds, t) := by
  have taken : t.takeWhile Char.isDigit = [] ∧ t.dropWhile Char.isDigit = t := by
    cases t with
    | nil => simp
    | cons c t => simp [stops c rfl]
  simp only [List.span_eq_takeWhile_dropWhile, List.takeWhile_append_of_pos digits,
    List.dropWhile_append_of_pos digits, taken, List.append_nil]

theorem digits_split (t : Text) : ∃ ds r, Digits ds ∧ Stops r ∧ t = ds ++ r := by
  refine ⟨t.takeWhile Char.isDigit, t.dropWhile Char.isDigit, ?_, ?_, ?_⟩
  · intro c member
    exact List.mem_takeWhile_imp member
  · intro c head
    have stopped := List.head?_dropWhile_not Char.isDigit t
    simpa [Option.mem_def.mp head] using stopped
  · exact List.takeWhile_append_dropWhile.symm

theorem digits_isSome {t : Text} : (Decimal.digits t).isSome ↔ Digits t ∧ t ≠ [] := by
  have all : t.all Char.isDigit = true ↔ Digits t := List.all_eq_true
  simp only [Decimal.digits, all, Option.isSome_ite, and_comm]

theorem Digits.unsigned {t : Text} (digits : Digits t) : Unsigned t := by
  cases t with
  | nil => simp [Unsigned]
  | cons c t =>
      have first : c.isDigit = true := digits c List.mem_cons_self
      intro d head
      cases head
      constructor <;> intro same <;> simp [same] at first

/-- The exponent after its letter. -/
theorem exponent_isSome {t : Text} :
    (Exact.exponent t).isSome ↔ ∃ s ds, Sign s ∧ Digits ds ∧ ds ≠ [] ∧ t = s ++ ds := by
  simp only [Exact.exponent, Option.isSome_map, digits_isSome]
  constructor
  · rintro ⟨digits, nonempty⟩
    obtain ⟨s, sign, split⟩ := sign_split t
    exact ⟨s, _, sign, digits, nonempty, split⟩
  · rintro ⟨s, ds, sign, digits, nonempty, rfl⟩
    rw [sign_append sign digits.unsigned]
    exact ⟨digits, nonempty⟩

theorem Exponent.stops {t : Text} (exponent : Exponent t) : Stops t := by
  cases exponent with
  | absent => simp [Stops]
  | present letter => rcases letter with rfl | rfl <;> simp [Stops]

theorem Exponent.pointless {t : Text} (exponent : Exponent t) : t.head? ≠ some '.' := by
  cases exponent with
  | absent => simp
  | present letter => rcases letter with rfl | rfl <;> simp

theorem exponent_cons {c : Char} {t : Text} :
    Exponent (c :: t) ↔ (c = 'e' ∨ c = 'E') ∧ (Exact.exponent t).isSome := by
  rw [exponent_isSome]
  constructor
  · intro exponent
    cases exponent with
    | present letter sign digits nonempty => exact ⟨letter, _, _, sign, digits, nonempty, rfl⟩
  · rintro ⟨letter, s, ds, sign, digits, nonempty, rfl⟩
    exact .present letter sign digits nonempty

/-- Digits before the end or the exponent. -/
theorem number_whole {ds t : Text} (digits : Digits ds) (stops : Stops t)
    (pointless : t.head? ≠ some '.') :
    (Exact.number (ds ++ t)).isSome ↔ ds ≠ [] ∧ Exponent t := by
  simp only [Exact.number, span_append digits stops]
  cases t with
  | nil => simp [Exponent.absent]
  | cons c t =>
      have other : c ≠ '.' := by simpa using pointless
      by_cases empty : ds = []
      · simp [empty, other]
      · by_cases letter : c = 'e' ∨ c = 'E' <;> simp [exponent_cons, other, empty, letter]

/-- Digits on both sides of a point. -/
theorem number_point {ds fs t : Text} (digits : Digits ds) (fraction : Digits fs)
    (stops : Stops t) :
    (Exact.number (ds ++ '.' :: (fs ++ t))).isSome ↔ (ds ≠ [] ∨ fs ≠ []) ∧ Exponent t := by
  have point : Stops ('.' :: (fs ++ t)) := by simp [Stops]
  simp only [Exact.number, span_append digits point, span_append fraction stops]
  cases t with
  | nil =>
      simp [Exponent.absent]
      grind
  | cons c t =>
      by_cases empty : ds = [] ∧ fs = []
      · simp [empty]
      · have nonempty : ds ≠ [] ∨ fs ≠ [] := by grind
        by_cases letter : c = 'e' ∨ c = 'E' <;> simp [exponent_cons, empty, nonempty, letter]

/-- The decimal numbers, without a sign in front. -/
theorem number_isSome {t : Text} :
    (Exact.number t).isSome ↔ ∃ m e, Mantissa m ∧ Exponent e ∧ t = m ++ e := by
  constructor
  · intro read
    obtain ⟨ds, r, digits, stops, rfl⟩ := digits_split t
    by_cases point : r.head? = some '.'
    · obtain ⟨r, rfl⟩ := List.head?_eq_some_iff.mp point
      obtain ⟨fs, e, fraction, ends, rfl⟩ := digits_split r
      obtain ⟨nonempty, exponent⟩ := (number_point digits fraction ends).mp read
      exact ⟨_, e, .point digits fraction nonempty, exponent, by simp⟩
    · obtain ⟨nonempty, exponent⟩ := (number_whole digits stops point).mp read
      exact ⟨ds, r, .whole digits nonempty, exponent, rfl⟩
  · rintro ⟨m, e, mantissa, exponent, rfl⟩
    cases mantissa with
    | whole digits nonempty =>
        exact (number_whole digits exponent.stops exponent.pointless).mpr ⟨nonempty, exponent⟩
    | point digits fraction nonempty =>
        rw [List.append_assoc, List.cons_append]
        exact (number_point digits fraction exponent.stops).mpr ⟨nonempty, exponent⟩

/-! ## The whole parser -/

theorem Word.unsigned {t : Text} (word : Word t) : Unsigned t := by
  intro c head
  obtain ⟨r, rfl⟩ := List.head?_eq_some_iff.mp head
  constructor <;> rintro rfl <;> simp [Word] at word

theorem Mantissa.unsigned {m e : Text} (mantissa : Mantissa m) : Unsigned (m ++ e) := by
  have head : ∀ {ds t : Text}, Digits ds → ds ≠ [] → Unsigned (ds ++ t) := by
    intro ds t digits nonempty
    obtain ⟨c, ds, rfl⟩ := List.exists_cons_of_ne_nil nonempty
    exact digits.unsigned
  cases mantissa with
  | whole digits nonempty => exact head digits nonempty
  | @point ds fs digits fraction nonempty =>
      by_cases empty : ds = []
      · simp [empty, Unsigned]
      · rw [List.append_assoc]
        exact head digits empty

/-- The parser accepts exactly the grammar. -/
theorem parse_isSome {t : Text} : (Exact.parse t).isSome ↔ FloatLiteral t := by
  have accepts : (Exact.parse t).isSome ↔
      Word (Exact.sign t).2 ∨ (Exact.number (Exact.sign t).2).isSome := by
    simp only [Exact.parse, Word]
    split
    · next infinite =>
        simp only [Option.isSome_some, true_iff]
        exact .inl (or_assoc.mp (.inl infinite))
    · next finite =>
        simp only [not_or] at finite
        split
        · next nan => simp only [Option.isSome_some, nan, or_true, true_or]
        · next number =>
            simp only [Option.isSome_map, finite, number, or_self, false_or]
  rw [accepts, number_isSome]
  constructor
  · obtain ⟨s, sign, split⟩ := sign_split t
    rintro (word | ⟨m, e, mantissa, exponent, body⟩)
    · rw [split]
      exact .word sign word
    · rw [split, body]
      exact .number sign mantissa exponent
  · intro literal
    cases literal with
    | word sign word =>
        rw [sign_append sign word.unsigned]
        exact .inl word
    | number sign mantissa exponent =>
        rw [sign_append sign mantissa.unsigned]
        exact .inr ⟨_, _, mantissa, exponent, rfl⟩

/-! ## Digits alone -/

theorem Digits.toLower {t : Text} (digits : Digits t) : t.map Char.toLower = t := by
  have same : ∀ c ∈ t, Char.toLower c = id c := by
    intro c member
    have range := Char.isDigit_iff_toNat.mp (digits c member)
    have lower : ¬ (c.val ≥ 'A'.val ∧ c.val ≤ 'Z'.val) := by
      simp only [Char.reduceToNat] at range
      simp [UInt32.le_iff_toNat_le]
      omega
    exact dif_neg lower
  rw [List.map_congr_left same, List.map_id]

theorem Digits.not_word {t : Text} (digits : Digits t) : ¬ Word t := by
  rw [Word, digits.toLower]
  rintro (rfl | rfl | rfl)
  · simpa using digits 'i' (by simp)
  · simpa using digits 'i' (by simp)
  · simpa using digits 'n' (by simp)

theorem number_digits {t : Text} (digits : Digits t) (nonempty : t ≠ []) :
    Exact.number t = some (Nat.ofDigitChars 10 t 0 : ℚ) := by
  have span := span_append digits (t := []) (by simp [Stops])
  rw [List.append_nil] at span
  simp only [Exact.number, span, nonempty, false_and, if_false, List.append_nil, List.length_nil,
    pow_zero, div_one]

/-- Digits alone are read as the number they denote, up to overflow. -/
theorem parse_digits {t : Text} (digits : Digits t) (nonempty : t ≠ []) :
    Exact.parse t = some (Exact.ofRat (Nat.ofDigitChars 10 t 0)) := by
  have sign : Exact.sign t = (false, t) := by
    obtain ⟨c, t, rfl⟩ := List.exists_cons_of_ne_nil nonempty
    have first := digits.unsigned c rfl
    simp [Exact.sign, first]
  have noWord := digits.not_word
  simp only [Word, not_or] at noWord
  simp only [Exact.parse, sign, noWord, or_self, if_false, number_digits digits nonempty,
    Option.map_some, Bool.false_eq_true]

theorem ofRat_natCast {n : Nat} (finite : (n : ℚ) < Exact.overflow) :
    Exact.ofRat n = .fin n := by
  have below : -Exact.overflow < (n : ℚ) := by
    have negative : -Exact.overflow < 0 := by decide +kernel
    exact lt_of_lt_of_le negative Rat.natCast_nonneg
  simp only [Exact.ofRat, not_le.mpr finite, not_le.mpr below, if_false]

theorem parse_digits_finite {t : Text} (digits : Digits t) (nonempty : t ≠ [])
    (finite : (Nat.ofDigitChars 10 t 0 : ℚ) < Exact.overflow) :
    Exact.parse t = some (.fin (Nat.ofDigitChars 10 t 0)) := by
  rw [parse_digits digits nonempty, ofRat_natCast finite]

end FloatLiteral
