import Wireframe.Proofs.Json.Distinct
import Wireframe.Proofs.Json.Printed

namespace Wireframe.Json

def Document.isBox : Document → Bool
  | .list .. | .record .. => true
  | _ => false

def Expect.Boxed : Expect → List Frame → Prop
  | .value, frames => frames ≠ []
  | .nothing document, _ => document.isBox = true
  | .commaOrEnd document, frames => document.isBox = true ∨ frames ≠ []
  | _, _ => True

def Progress.Boxed : Progress → Prop
  | .more expect frames => expect.Boxed frames
  | .done reading => reading.document.isBox = true

theorem fill_isBox (value : Document) (ending : Ending) (frame : Frame) :
    (frame.fill value ending).isBox = true := by
  cases frame <;> rfl

theorem unwind_isBox {value : Document} {frames : List Frame}
    (boxed : value.isBox = true ∨ frames ≠ []) (fault : Fault) :
    (unwind value fault frames).isBox = true := by
  induction frames generalizing value with
  | nil => exact boxed.resolve_right (· rfl)
  | cons frame outer ih => exact ih (.inl (fill_isBox value _ frame))

theorem complete_boxed {value : Document} {frames : List Frame}
    (boxed : value.isBox = true ∨ frames ≠ []) : (complete value frames).Boxed frames := by
  cases frames with
  | nil => exact boxed.resolve_right (· rfl)
  | cons frame outer => exact boxed

variable {lexeme : Lexeme} {next last : Place} {expect : Expect} {frames : List Frame}

theorem stepValue_boxed (within : frames ≠ []) : (stepValue lexeme next frames).Boxed := by
  unfold stepValue
  split
  · exact complete_boxed (.inr within)
  · split
    · trivial
    · trivial
    · exact unwind_isBox (.inr within) _
    · exact unwind_isBox (.inr within) _
    · exact unwind_isBox (.inr within) _

theorem stepKey_boxed (opening : Opening) (done : List (Label × Document)) :
    (stepKey opening lexeme next done frames).Boxed := by
  unfold stepKey
  split
  · trivial
  · exact unwind_isBox (.inl rfl) _
  · exact unwind_isBox (.inl rfl) _

theorem step_boxed (boxed : expect.Boxed frames) : (step lexeme next expect frames).Boxed := by
  unfold step
  split
  · split
    · exact unwind_isBox (.inl rfl) _
    · exact stepValue_boxed boxed
  · split
    · exact complete_boxed (.inl rfl)
    · exact stepValue_boxed (List.cons_ne_nil _ _)
  · split
    · exact complete_boxed (.inl rfl)
    · exact stepKey_boxed _ _
  · split
    · exact unwind_isBox (.inl rfl) _
    · exact stepKey_boxed _ _
  · split
    · exact List.cons_ne_nil _ _
    · exact unwind_isBox (.inr (List.cons_ne_nil _ _)) _
  · split
    · exact List.cons_ne_nil _ _
    · exact complete_boxed (.inl (fill_isBox _ _ _))
    · exact unwind_isBox (.inl (fill_isBox _ _ _)) _
    · trivial
    · exact complete_boxed (.inl (fill_isBox _ _ _))
    · exact unwind_isBox (.inl (fill_isBox _ _ _)) _
    · exact boxed.resolve_right (· rfl)
  · exact boxed

theorem atEnd_boxed (boxed : expect.Boxed frames) :
    (atEnd last expect frames).document.isBox = true := by
  unfold atEnd
  split
  · dsimp only
    split
    · exact unwind_isBox (.inr boxed) _
    · exact unwind_isBox (.inl rfl) _
  · exact unwind_isBox (.inr boxed) _
  · exact unwind_isBox (.inl rfl) _
  · exact unwind_isBox (.inl rfl) _
  · exact unwind_isBox (.inl rfl) _
  · exact unwind_isBox (.inr (List.cons_ne_nil _ _)) _
  · exact unwind_isBox (.inl (fill_isBox _ _ _)) _
  · exact unwind_isBox (.inl (fill_isBox _ _ _)) _
  · exact boxed.resolve_right (· rfl)
  · exact boxed

theorem assemble_boxed {lexemes : List Lexeme} (boxed : expect.Boxed frames) :
    (assemble last expect frames lexemes).document.isBox = true := by
  induction lexemes generalizing expect frames with
  | nil => exact atEnd_boxed boxed
  | cons lexeme more ih =>
      obtain ⟨next, stepped⟩ := assemble_cons last lexeme more
      rw [stepped]
      have later : (step lexeme next expect frames).Boxed := step_boxed boxed
      cases progress : step lexeme next expect frames with
      | more expect frames =>
          rw [progress] at later
          exact ih later
      | done reading =>
          rw [progress] at later
          exact later

/-- A text that holds a number is a single token. -/
theorem token_of_number {text : String} {m : Number} {span : Span}
    (reads : Reading.ofText text = ⟨.number (.ok m) span, none⟩) :
    (tokens text).1.map Lexeme.token = [.number (.ok m)] := by
  change assemble (tokens text).2 .value [] (tokens text).1 = _ at reads
  cases split : (tokens text).1 with
  | nil =>
      rw [split] at reads
      cases reads
  | cons lexeme more =>
      rw [split] at reads
      obtain ⟨next, stepped⟩ := assemble_cons (tokens text).2 lexeme more
      have alone : step lexeme next .value [] = stepValue lexeme next [] := rfl
      rw [stepped, alone, stepValue] at reads
      -- The first token is a value by itself, or all that follows stays inside a list or object.
      cases single : scalar? lexeme next with
      | some document =>
          rw [single] at reads
          cases more with
          | nil =>
              have shown : document = .number (.ok m) span := congrArg Reading.document reads
              rw [shown] at single
              unfold scalar? at single
              cases kind : lexeme.token <;> rw [kind] at single <;> cases single
              rw [List.map_singleton, kind]
          | cons => cases congrArg Reading.trailing reads
      | none =>
          rw [single] at reads
          have flat := congrArg (fun reading => reading.document.isBox) reads
          have boxed {expect : Expect} (opened : expect.Boxed []) :
              (assemble (tokens text).2 expect [] more).document.isBox = true :=
            assemble_boxed opened
          cases kind : lexeme.token <;> rw [kind] at reads flat
          case openList =>
            have opened : (Expect.valueOrEnd (Opening.at lexeme 0)).Boxed [] := trivial
            exact absurd ((boxed opened).symm.trans flat) Bool.false_ne_true.symm
          case openObject =>
            have opened : (Expect.keyOrEnd (Opening.at lexeme 0)).Boxed [] := trivial
            exact absurd ((boxed opened).symm.trans flat) Bool.false_ne_true.symm
          all_goals cases reads

theorem Number.Prints.unique {n m k : Number} (first : n.Prints m) (second : n.Prints k) :
    m = k := by
  have token {k : Number} (prints : n.Prints k) :
      (tokens n.text).1.map Lexeme.token = [.number (.ok k)] :=
    tokens_of_scanned (by simpa using prints [] nofun)
  cases (token first).symm.trans (token second)
  rfl

/-- A number that can be read back by itself is so as part of a longer text, too. -/
theorem prints_of_reading {n m : Number} {span : Span}
    (reading : Reading.ofText n.text = ⟨.number (.ok m) span, none⟩) : n.Prints m :=
  fun _ parted => scanned_of_number (le_refl _) (token_of_number reading) parted

theorem prints_single {x : Float32}
    (exact : Codec.single.ofText (Json.single x).compact = .ok x) :
    ∃ m, Number.Prints (.single x) m ∧ m.toSingle = x := by
  obtain ⟨document, reading, read⟩ := reading_of_readText exact
  cases document with
  | number value span =>
      cases value with
      | error fault => cases read
      | ok m => exact ⟨m, prints_of_reading reading, Except.ok.inj read⟩
  | _ => cases read

/-- A number that is read back as it is. -/
def Number.Lasts (n m : Number) : Prop :=
  m = n ∧ ofText (Json.number n).compact = .ok (.number n)

theorem Number.Lasts.prints {n m : Number} (lasts : n.Lasts m) : n.Prints m := by
  obtain ⟨rfl, reads⟩ := lasts
  obtain ⟨document, reading, read⟩ := reading_of_readText reads
  cases document with
  | number value span =>
      cases value with
      | error fault => cases read
      | ok k =>
          cases read
          exact prints_of_reading reading
  | string value => cases value <;> cases read
  | list opening items ending =>
      obtain ⟨_, _, made⟩ := array_of_toJson read
      cases made
  | record opening members ending =>
      obtain ⟨_, _, made⟩ := object_of_toJson read
      cases made
  | _ => cases read

theorem le_ofDigitChars (digits : List Char) (n : Nat) : n ≤ Nat.ofDigitChars 10 digits n := by
  induction digits generalizing n with
  | nil => exact le_refl n
  | cons c cs ih =>
      rw [Nat.ofDigitChars_cons]
      have later := ih (10 * n + (c.toNat - '0'.toNat))
      omega

theorem absorb_digits {digits : List Char} {n : Nat}
    (fits : Nat.ofDigitChars 10 digits n ≤ significandLimit) :
    absorb n digits = (Nat.ofDigitChars 10 digits n, []) := by
  induction digits generalizing n with
  | nil => rfl
  | cons c cs ih =>
      rw [Nat.ofDigitChars_cons] at fits ⊢
      have next : n * 10 + digitValue c = 10 * n + (c.toNat - '0'.toNat) := by
        rw [Nat.mul_comm]
        rfl
      have small := le_trans (le_ofDigitChars cs _) fits
      rw [absorb, next, if_neg (not_lt.mpr small), ih fits]

theorem value_whole {digits : List Char} {n : Nat} (value : Nat.ofDigitChars 10 digits 0 = n)
    (fits : n ≤ significandLimit) :
    (⟨false, digits, none, none⟩ : Numeral).value = .ok (.whole n) := by
  unfold Numeral.value
  dsimp only
  rw [absorb_digits (value ▸ fits), value]
  rfl

theorem toDigits_first {n : Nat} (positive : 0 < n) :
    (Nat.toDigits 10 n).head? ≠ some '0' := by
  induction n using Nat.strong_induction_on with
  | _ n ih =>
      by_cases small : n < 10
      · rw [Nat.toDigits_of_lt_base small]
        interval_cases n <;> decide
      · have large : 10 ≤ n := not_lt.mp small
        have less : n / 10 < n := Nat.div_lt_self positive (by norm_num)
        have first := ih (n / 10) less (Nat.div_pos large (by norm_num))
        rw [Nat.toDigits_of_base_le (by norm_num) large,
          List.head?_append_of_ne_nil _ Nat.toDigits_ne_nil]
        exact first

theorem isDigit_toDigits {n : Nat} : ∀ c ∈ Nat.toDigits 10 n, isDigit c = true := by
  intro c present
  have digit : c.isDigit = true := Nat.isDigit_of_mem_toDigits (by norm_num) (by norm_num) present
  simpa [isDigit, Char.isDigit, Char.le_def] using digit

theorem scanNumber_whole {n : Nat} (fits : n ≤ significandLimit) (place : Place) :
    ∃ stop, scanNumber false place (Nat.toDigits 10 n) =
      .token (.number (.ok (.whole n))) stop [] := by
  have value := value_whole (Nat.ofDigitChars_ten_toDigits (n := n)) fits
  obtain rfl | positive := Nat.eq_zero_or_pos n
  · exact ⟨_, finishNumber_of_value value (advance place 1) (advance place 1) []⟩
  · obtain ⟨c, cs, split⟩ := List.exists_cons_of_ne_nil (Nat.toDigits_ne_nil (b := 10) (n := n))
    have first := toDigits_first positive
    have digits := isDigit_toDigits (n := n)
    rw [split] at first digits value ⊢
    have others : cs.takeWhile isDigit = cs ∧ cs.dropWhile isDigit = [] :=
      ⟨List.takeWhile_eq_self_iff.mpr (List.forall_mem_cons.mp digits).2,
        List.dropWhile_eq_nil_iff.mpr (List.forall_mem_cons.mp digits).2⟩
    rw [scanNumber, if_neg (by simpa using first), if_pos (List.forall_mem_cons.mp digits).1,
      others.1, others.2]
    exact ⟨_, finishNumber_of_value value _ _ _⟩

theorem prints_whole {n : Nat} (fits : n ≤ significandLimit) :
    Number.Prints (.whole n) (.whole n) := by
  intro rest parted
  have text : (Number.whole n).text.toList = Nat.toDigits 10 n := by
    change (toString n).toList = _
    rw [Nat.toString_eq_ofList_toDigits, String.toList_ofList]
  obtain ⟨c, cs, split⟩ := List.exists_cons_of_ne_nil (Nat.toDigits_ne_nil (b := 10) (n := n))
  have digit : isDigit c = true := isDigit_toDigits c (split ▸ List.mem_cons_self)
  obtain ⟨stop, scanned⟩ := scanNumber_whole fits ⟨1, 0⟩
  rw [split, ← scanToken_digit digit] at scanned
  rw [text, split]
  refine .single ?_ rfl (scanToken_parted scanned fun _ => parted)
  rw [Bool.eq_false_iff]
  intro space
  have idle : isIdle c = true := by rw [isIdle, isBlank_of_isSpace space, Bool.true_or]
  exact absurd (idle.symm.trans (isIdle_of_isDigit digit)) Bool.false_ne_true.symm

end Wireframe.Json
