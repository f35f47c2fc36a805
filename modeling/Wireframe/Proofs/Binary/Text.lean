import Wireframe.Proofs.Binary.Shortest

namespace Wireframe.Binary

def reading (text : List Char) : ℚ :=
  Nat.ofDigitChars 10 (text.filter (· ≠ '.')) 0 / 10 ^ ((text.dropWhile (· ≠ '.')).length - 1)

theorem ne_point_of_isDigit {c : Char} (digit : c.isDigit = true) : c ≠ '.' := by
  rintro rfl
  cases digit

theorem reading_whole {digits : List Char} (all : ∀ c ∈ digits, c.isDigit = true) :
    reading digits = Nat.ofDigitChars 10 digits 0 := by
  have kept : digits.filter (· ≠ '.') = digits := by
    rw [List.filter_eq_self]
    intro c present
    simpa using ne_point_of_isDigit (all c present)
  have past : digits.dropWhile (· ≠ '.') = [] := by
    rw [List.dropWhile_eq_nil_iff]
    intro c present
    simpa using ne_point_of_isDigit (all c present)
  rw [reading, kept, past]
  simp

theorem reading_point {whole fraction : List Char} (before : ∀ c ∈ whole, c.isDigit = true)
    (after : ∀ c ∈ fraction, c.isDigit = true) :
    reading (whole ++ '.' :: fraction) =
      Nat.ofDigitChars 10 (whole ++ fraction) 0 / 10 ^ fraction.length := by
  have early : ∀ c ∈ whole, decide (c ≠ '.') = true := by
    intro c present
    simpa using ne_point_of_isDigit (before c present)
  have kept : (whole ++ '.' :: fraction).filter (· ≠ '.') = whole ++ fraction := by
    have late : ∀ c ∈ fraction, decide (c ≠ '.') = true := by
      intro c present
      simpa using ne_point_of_isDigit (after c present)
    rw [List.filter_append, List.filter_eq_self.mpr early, List.filter_cons_of_neg (by simp),
      List.filter_eq_self.mpr late]
  have past : (whole ++ '.' :: fraction).dropWhile (· ≠ '.') = '.' :: fraction := by
    rw [List.dropWhile_append_of_pos early, List.dropWhile_cons_of_neg (by simp)]
  rw [reading, kept, past]
  simp

namespace Decimal

variable (d : Decimal)

theorem toList_text : d.text.toList = Nat.toDigits 10 d.digits := by
  rw [Decimal.text, Nat.toString_eq_ofList_toDigits, String.toList_ofList]

theorem isDigit_digits : ∀ c ∈ Nat.toDigits 10 d.digits, c.isDigit = true := by
  intro c present
  exact Nat.isDigit_of_mem_toDigits (by norm_num) (by norm_num) present

theorem isDigit_zeros (n : Nat) : ∀ c ∈ List.replicate n '0', c.isDigit = true := by
  intro c present
  rw [List.eq_of_mem_replicate present]
  rfl

theorem value_of_places {places : Nat} (behind : d.exponent = -(places : Int)) :
    (d.digits : ℚ) / 10 ^ places = d.value := by
  rw [value, behind, zpow_neg, zpow_natCast, div_eq_mul_inv]

/-- A text of digits, with a point in it or not, that is read as a number. -/
inductive Reads (text : List Char) (x : ℚ) : Prop
  | whole (digits : ∀ c ∈ text, c.isDigit = true) (some : text ≠ [])
      (value : (Nat.ofDigitChars 10 text 0 : ℚ) = x)
  | point (before after : List Char) (split : text = before ++ '.' :: after) (some : before ≠ [])
      (digits : ∀ c ∈ before ++ after, c.isDigit = true)
      (value : (Nat.ofDigitChars 10 (before ++ after) 0 : ℚ) / 10 ^ after.length = x)

theorem Reads.reading_eq {text : List Char} {x : ℚ} (reads : Reads text x) : reading text = x := by
  cases reads with
  | whole digits some value => rw [reading_whole digits, value]
  | point before after split some digits value =>
      have early : ∀ c ∈ before, c.isDigit = true :=
        fun c present => digits c (List.mem_append_left after present)
      have late : ∀ c ∈ after, c.isDigit = true :=
        fun c present => digits c (List.mem_append_right before present)
      rw [split, reading_point early late, value]

theorem Reads.chars {text : List Char} {x : ℚ} (reads : Reads text x) :
    (∃ first rest, text = first :: rest ∧ first.isDigit = true) ∧
      ∀ c ∈ text, c.isDigit = true ∨ c = '.' := by
  cases reads with
  | whole digits some value =>
      obtain ⟨first, rest, rfl⟩ := List.exists_cons_of_ne_nil some
      exact ⟨⟨first, rest, rfl, digits first List.mem_cons_self⟩,
        fun c present => Or.inl (digits c present)⟩
  | point before after split some digits value =>
      obtain ⟨first, rest, rfl⟩ := List.exists_cons_of_ne_nil some
      refine ⟨⟨first, _, split, digits first List.mem_cons_self⟩, ?_⟩
      intro c present
      rw [split] at present
      rcases List.mem_append.mp present with early | late
      · exact Or.inl (digits c (List.mem_append_left after early))
      · rcases List.mem_cons.mp late with point | late
        · exact Or.inr point
        · exact Or.inl (digits c (List.mem_append_right _ late))

theorem ofDigitChars_digits : Nat.ofDigitChars 10 (Nat.toDigits 10 d.digits) 0 = d.digits :=
  Nat.ofDigitChars_ten_toDigits

theorem plain_reads_whole (whole : 0 ≤ d.exponent) : Reads (d.plain false).toList d.value := by
  have text : (d.plain false).toList =
      Nat.toDigits 10 d.digits ++ List.replicate d.exponent.toNat '0' := by
    simp [plain, whole, toList_text, zeros]
  rw [text]
  apply Reads.whole
  · intro c present
    rcases List.mem_append.mp present with early | late
    · exact d.isDigit_digits c early
    · exact isDigit_zeros _ c late
  · simp [Nat.toDigits_ne_nil]
  · have power : (10 : ℚ) ^ d.exponent = 10 ^ d.exponent.toNat := by
      rw [← zpow_natCast, Int.toNat_of_nonneg whole]
    rw [Nat.ofDigitChars_append, Nat.ofDigitChars_replicate_zero, ofDigitChars_digits, value, power]
    push_cast
    ring

section

variable {d} {places : Nat} (behind : d.exponent = -(places : Int)) (some : 0 < places)

include behind some

theorem plain_reads_small (short : (Nat.toDigits 10 d.digits).length ≤ places) :
    Reads (d.plain false).toList d.value := by
  let fraction := List.replicate (places - (Nat.toDigits 10 d.digits).length) '0' ++
    Nat.toDigits 10 d.digits
  have text : (d.plain false).toList = ['0'] ++ '.' :: fraction := by
    simp [plain, behind, some.ne', short, toList_text, zeros, fraction]
  have length : fraction.length = places := by
    rw [List.length_append, List.length_replicate]
    omega
  apply Reads.point ['0'] fraction text (List.cons_ne_nil _ _)
  · intro c present
    rcases List.mem_cons.mp present with rfl | present
    · rfl
    · change c ∈ fraction at present
      rcases List.mem_append.mp present with early | late
      · exact isDigit_zeros _ c early
      · exact d.isDigit_digits c late
  · have value : Nat.ofDigitChars 10 (['0'] ++ fraction) 0 = d.digits := by
      rw [List.singleton_append, Nat.ofDigitChars_cons, Nat.ofDigitChars_append,
        Nat.ofDigitChars_replicate_zero]
      simp
    rw [value, length, d.value_of_places behind]

theorem plain_reads_split (long : places < (Nat.toDigits 10 d.digits).length) :
    Reads (d.plain false).toList d.value := by
  let before := (Nat.toDigits 10 d.digits).length - places
  have joined : (Nat.toDigits 10 d.digits).take before ++
      (Nat.toDigits 10 d.digits).drop before = Nat.toDigits 10 d.digits :=
    List.take_append_drop before _
  have text : (d.plain false).toList = (Nat.toDigits 10 d.digits).take before ++
      '.' :: (Nat.toDigits 10 d.digits).drop before := by
    simp [plain, behind, some.ne', long.not_ge, toList_text, before]
  have length : ((Nat.toDigits 10 d.digits).drop before).length = places := by
    rw [List.length_drop]
    omega
  apply Reads.point _ _ text
  · rw [Ne, List.take_eq_nil_iff]
    rintro (none | empty)
    · omega
    · exact Nat.toDigits_ne_nil empty
  · rw [joined]
    exact d.isDigit_digits
  · rw [joined, length, ofDigitChars_digits, d.value_of_places behind]

end

theorem plain_reads : Reads (d.plain false).toList d.value := by
  by_cases whole : 0 ≤ d.exponent
  · exact d.plain_reads_whole whole
  · obtain ⟨places, behind⟩ : ∃ places : Nat, d.exponent = -(places : Int) :=
      ⟨(-d.exponent).toNat, by omega⟩
    have some : 0 < places := by omega
    rcases le_or_gt (Nat.toDigits 10 d.digits).length places with short | long
    · exact plain_reads_small behind some short
    · exact plain_reads_split behind some long

end Decimal

def magnitudeText (significand : Nat) (exponent : Int) : List Char :=
  if significand = 0 then ['0']
  else ((shortest single .up significand exponent).plain false).toList

theorem datum_finite (negative : Bool) (significand : Nat) (exponent : Int) :
    (textLayout.datum single (.finite negative significand exponent)).toList =
      (if negative then ['-'] else []) ++ magnitudeText significand exponent := by
  by_cases zero : significand = 0
  · cases negative <;> simp [Layout.datum, magnitudeText, textLayout, zero]
  · cases negative <;> simp [Layout.datum, magnitudeText, textLayout, Layout.magnitude, zero]

theorem magnitude_reads {significand : Nat} {exponent : Int}
    (has : single.Has significand exponent) :
    ∃ x, Decimal.Reads (magnitudeText significand exponent) x ∧
      (significand = 0 ∧ x = 0 ∨
        0 < significand ∧ 0 < x ∧ (Interval.around single significand exponent).Covers x) := by
  unfold magnitudeText
  rcases Nat.eq_zero_or_pos significand with zero | some
  · rw [if_pos zero]
    have digits : ∀ c ∈ ['0'], c.isDigit = true := List.forall_mem_singleton.mpr rfl
    have value : Nat.ofDigitChars 10 ['0'] 0 = 0 := rfl
    exact ⟨0, .whole digits (List.cons_ne_nil _ _) (by simp [value]), Or.inl ⟨zero, rfl⟩⟩
  · rw [if_neg some.ne']
    have covers := covers_shortest some has .up
    have low := covers.within.1
    have least := Interval.low_around single some exponent
    have first : (1 : ℚ) ≤ significand := by exact_mod_cast some
    have unit : (0 : ℚ) < 2 ^ (exponent - 2) := by positivity
    rw [Interval.unit_around] at low
    exact ⟨_, Decimal.plain_reads _, Or.inr ⟨some, by nlinarith, covers⟩⟩

theorem magnitude_unique {significand other : Nat} {exponent otherExponent : Int}
    (has : single.Has significand exponent) (hasOther : single.Has other otherExponent)
    (same : magnitudeText significand exponent = magnitudeText other otherExponent) :
    significand = other ∧ exponent = otherExponent := by
  obtain ⟨x, reads, value⟩ := magnitude_reads has
  obtain ⟨y, readsOther, valueOther⟩ := magnitude_reads hasOther
  have equal : x = y := by rw [← reads.reading_eq, same, readsOther.reading_eq]
  subst equal
  have least {n : Nat} {e : Int} (has : single.Has n e) (zero : n = 0) :
      e = single.unitExponent := by
    rcases has.full with least | full
    · exact least
    · rw [zero] at full
      exact absurd full (by decide)
  rcases value with ⟨zero, null⟩ | ⟨some, above, covers⟩
  · rcases valueOther with ⟨zeroOther, _⟩ | ⟨_, above, _⟩
    · exact ⟨zero.trans zeroOther.symm, (least has zero).trans (least hasOther zeroOther).symm⟩
    · exact absurd null above.ne'
  · rcases valueOther with ⟨_, null⟩ | ⟨someOther, _, coversOther⟩
    · exact absurd null above.ne'
    · exact Interval.covers_unique some someOther has hasOther covers coversOther

def textMarks : List Char := ['.', '-', 'i', 'n', 'f', 'N', 'a']

theorem single_finite {x : Float32} {negative : Bool} {significand : Nat} {exponent : Int}
    (decoded : decodeSingle x = .finite negative significand exponent) :
    single.Has significand exponent :=
  (Format.decode_finite x.toBits.toNat_lt (by decide) decoded).1

theorem singleText_chars (x : Float32) :
    ∀ c ∈ (singleText x).toList, c.isDigit = true ∨ c ∈ textMarks := by
  intro c present
  unfold singleText at present
  cases decoded : decodeSingle x with
  | nan =>
      rw [decoded] at present
      right
      fin_cases present <;> decide
  | infinite negative =>
      rw [decoded] at present
      right
      cases negative <;> fin_cases present <;> decide
  | finite negative significand exponent =>
      obtain ⟨_, reads, _⟩ := magnitude_reads (single_finite decoded)
      rw [decoded, datum_finite] at present
      rcases List.mem_append.mp present with sign | digits
      · have minus : c = '-' := by cases negative <;> simp_all
        exact Or.inr (minus ▸ by decide)
      · rcases reads.chars.2 c digits with digit | point
        · exact Or.inl digit
        · exact Or.inr (point ▸ by decide)

def Datum.isNegative : Datum → Bool
  | .nan => false
  | .infinite negative | .finite negative _ _ => negative

def Datum.body : Datum → List Char
  | .nan => ['N', 'a', 'N']
  | .infinite _ => ['i', 'n', 'f']
  | .finite _ significand exponent => magnitudeText significand exponent

theorem datum_split (datum : Datum) :
    (textLayout.datum single datum).toList =
      (if datum.isNegative then ['-'] else []) ++ datum.body := by
  cases datum with
  | nan => rfl
  | infinite negative => cases negative <;> rfl
  | finite negative significand exponent => exact datum_finite negative significand exponent

def Datum.IsSingle (datum : Datum) : Prop :=
  ∀ negative significand exponent, datum = .finite negative significand exponent →
    single.Has significand exponent

theorem Datum.IsSingle.body_head {datum : Datum} (has : datum.IsSingle) :
    ∃ first rest, datum.body = first :: rest ∧ first ≠ '-' ∧
      (first.isDigit = true ↔ ∃ negative significand exponent,
        datum = .finite negative significand exponent) := by
  cases datum with
  | nan => exact ⟨'N', ['a', 'N'], rfl, by decide, by simp⟩
  | infinite negative => exact ⟨'i', ['n', 'f'], rfl, by decide, by simp⟩
  | finite negative significand exponent =>
      obtain ⟨_, reads, _⟩ := magnitude_reads (has _ _ _ rfl)
      obtain ⟨⟨first, rest, text, digit⟩, _⟩ := reads.chars
      refine ⟨first, rest, text, ?_, by simp [digit]⟩
      rintro rfl
      cases digit

theorem Datum.IsSingle.eq_of_text {datum other : Datum} (has : datum.IsSingle)
    (hasOther : other.IsSingle)
    (same : textLayout.datum single datum = textLayout.datum single other) : datum = other := by
  obtain ⟨first, rest, text, positive, digit⟩ := has.body_head
  obtain ⟨start, others, textOther, positiveOther, digitOther⟩ := hasOther.body_head
  have chars := congrArg String.toList same
  rw [datum_split, datum_split] at chars
  have signs : datum.isNegative = other.isNegative := by
    rw [text, textOther] at chars
    cases negative : datum.isNegative <;> cases negativeOther : other.isNegative
    · rfl
    · rw [negative, negativeOther] at chars
      exact absurd (List.cons.inj chars).1 positive
    · rw [negative, negativeOther] at chars
      exact absurd (List.cons.inj chars).1.symm positiveOther
    · rfl
  have bodies : datum.body = other.body := by
    rw [signs] at chars
    exact List.append_cancel_left chars
  have heads : first = start := by
    rw [text, textOther] at bodies
    exact (List.cons.inj bodies).1
  rw [heads] at digit
  have finite := digit.symm.trans digitOther
  cases datum with
  | nan =>
      cases other with
      | nan => rfl
      | infinite negative => cases bodies
      | finite => exact absurd (finite.mpr ⟨_, _, _, rfl⟩) (by simp)
  | infinite negative =>
      cases other with
      | nan => cases bodies
      | infinite other => exact congrArg Datum.infinite signs
      | finite => exact absurd (finite.mpr ⟨_, _, _, rfl⟩) (by simp)
  | finite negative significand exponent =>
      obtain ⟨negativeOther, significandOther, exponentOther, rfl⟩ :=
        finite.mp ⟨_, _, _, rfl⟩
      obtain ⟨sameSignificand, sameExponent⟩ :=
        magnitude_unique (has _ _ _ rfl) (hasOther _ _ _ rfl) bodies
      rw [sameSignificand, sameExponent]
      exact congrArg (Datum.finite · _ _) signs

/-- Numbers of 32 bits are told apart by their texts. -/
theorem singleText_injective {x y : Float32} (same : singleText x = singleText y) : x = y := by
  have has (x : Float32) : (decodeSingle x).IsSingle :=
    fun negative significand exponent decoded => single_finite decoded
  have decoded : decodeSingle x = decodeSingle y := (has x).eq_of_text (has y) same
  rw [← narrow_widen x, ← narrow_widen y, widen, widen, decoded]

end Wireframe.Binary
