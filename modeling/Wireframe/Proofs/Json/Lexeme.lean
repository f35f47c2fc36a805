import Wireframe.Json.Token
import Wireframe.Proofs.Text.Trim
/-!
Where tokens start and end. A token that is whole takes characters of which the last is neither a
blank nor a backtick, so a text whose last mark is a backtick has a token in it that is not whole;
and if all are whole, the first mark of the text starts one.
-/

namespace Wireframe.Json

open Text (AllBlank isBlank)

/-- Whether nothing of a token is missing and it is one of JSON. -/
def Token.isWhole : Token → Bool
  | .broken .. | .brokenString .. | .stray => false
  | _ => true

def isIdle (c : Char) : Bool := isBlank c || c = '\x60'

/-- The characters `left` lie behind others of `cs`, the last of which is not idle. -/
def Takes (cs left : List Char) : Prop :=
  ∃ body last, cs = body ++ last :: left ∧ isIdle last = false

theorem Takes.one {c : Char} (busy : isIdle c = false) (left : List Char) :
    Takes (c :: left) left :=
  ⟨[], c, rfl, busy⟩

theorem Takes.behind {cs left : List Char} (takes : Takes cs left) (before : List Char) :
    Takes (before ++ cs) left := by
  obtain ⟨body, last, rfl, busy⟩ := takes
  exact ⟨before ++ body, last, (List.append_assoc ..).symm, busy⟩

theorem Takes.cons {cs left : List Char} (takes : Takes cs left) (c : Char) :
    Takes (c :: cs) left :=
  takes.behind [c]

theorem Takes.drop {cs left : List Char} {count : Nat} (takes : Takes (cs.drop count) left) :
    Takes cs left := by
  rw [← List.take_append_drop count cs]
  exact takes.behind _

theorem Takes.trans {cs middle left : List Char} (first : Takes cs middle)
    (later : Takes middle left) : Takes cs left := by
  obtain ⟨body, last, rfl, _⟩ := first
  exact (later.cons last).behind body

theorem Takes.length_lt {cs left : List Char} (takes : Takes cs left) :
    left.length < cs.length := by
  obtain ⟨body, last, rfl, _⟩ := takes
  rw [List.length_append, List.length_cons]
  omega

theorem isIdle_of_isDigit {c : Char} (digit : isDigit c = true) : isIdle c = false := by
  obtain ⟨low, high⟩ : 48 ≤ c.toNat ∧ c.toNat ≤ 57 := by
    simpa [isDigit, Char.le_def, UInt32.le_iff_toNat_le] using digit
  have apart : c ≠ '\x60' := by
    rintro rfl
    exact absurd high (by decide)
  simp only [isIdle, isBlank, decide_eq_false apart, Bool.or_false]
  simp
  omega

theorem takes_digits {cs : List Char} (some : cs.takeWhile isDigit ≠ []) :
    Takes cs (cs.dropWhile isDigit) := by
  obtain ⟨body, last, run⟩ := List.eq_nil_or_concat (cs.takeWhile isDigit) |>.resolve_left some
  have digit : isDigit last = true := by
    apply List.mem_takeWhile_imp (l := cs)
    rw [run]
    exact List.concat_eq_append ▸ List.mem_concat_self
  refine ⟨body, last, ?_, isIdle_of_isDigit digit⟩
  calc cs = cs.takeWhile isDigit ++ cs.dropWhile isDigit := List.takeWhile_append_dropWhile.symm
    _ = body ++ last :: cs.dropWhile isDigit := by rw [run]; simp

theorem takes_word {word : List Char} {token made : Token} {place stop : Place}
    {cs left : List Char} (scanned : scanWord token word place cs = .token made stop left) :
    made = token ∧ cs = word ++ left := by
  induction word generalizing place cs with
  | nil =>
      cases scanned
      exact ⟨rfl, rfl⟩
  | cons w ws ih =>
      cases cs with
      | nil => cases scanned
      | cons c cs =>
          rw [scanWord] at scanned
          split at scanned
          · rename_i same
            obtain ⟨made, taken⟩ := ih scanned
            exact ⟨made, by rw [same, taken, List.cons_append]⟩
          · cases scanned

theorem left_of_finishNumber {numeral : Numeral} {token : Token} {exponentPlace place stop : Place}
    {cs left : List Char}
    (scanned : finishNumber numeral exponentPlace place cs = .token token stop left) :
    left = cs := by
  cases scanned
  rfl

theorem takes_exponent {numeral : Numeral} {token : Token} {place stop : Place}
    {cs left : List Char} (scanned : scanExponent numeral place cs = .token token stop left) :
    left = cs ∨ Takes cs left := by
  unfold scanExponent at scanned
  split at scanned
  · split at scanned
    · split at scanned
      rename_i signed _ _ negative start unsigned parts
      have behind (takes : Takes unsigned left) : Takes signed left := by
        split at parts <;> cases parts
        · exact takes.cons '+'
        · exact takes.cons '-'
        · exact takes
      split at scanned
      · cases scanned
      · rename_i digit others
        split at scanned
        · rename_i first
          have run : (digit :: others).takeWhile isDigit ≠ [] := by
            rw [List.takeWhile_cons_of_pos first]
            exact List.cons_ne_nil _ _
          have digits := takes_digits run
          rw [← left_of_finishNumber scanned] at digits
          exact .inr ((behind digits).cons _)
        · cases scanned
    · exact .inl (left_of_finishNumber scanned)
  · exact .inl (left_of_finishNumber scanned)

theorem takes_fraction {numeral : Numeral} {token : Token} {place stop : Place}
    {cs left : List Char} (scanned : scanFraction numeral place cs = .token token stop left) :
    left = cs ∨ Takes cs left := by
  unfold scanFraction at scanned
  split at scanned
  · rename_i cs
    dsimp only at scanned
    split at scanned
    · cases scanned
    · rename_i some
      have digits := (takes_digits (mt List.isEmpty_iff.mpr some)).cons '.'
      rcases takes_exponent scanned with rfl | exponent
      · exact .inr digits
      · exact .inr (digits.trans exponent)
  · exact takes_exponent scanned

theorem takes_number {negative : Bool} {token : Token} {place stop : Place}
    {cs left : List Char} (scanned : scanNumber negative place cs = .token token stop left) :
    Takes cs left := by
  cases cs with
  | nil => cases scanned
  | cons c cs =>
      rw [scanNumber] at scanned
      split at scanned
      · rename_i zero
        have first : Takes (c :: cs) cs := .one (zero ▸ by decide) cs
        have takes (scanned : scanFraction ⟨negative, [c], none, none⟩ (advance place 1) cs =
            .token token stop left) : Takes (c :: cs) left := by
          rcases takes_fraction scanned with rfl | fraction
          · exact first
          · exact first.trans fraction
        split at scanned
        · split at scanned
          · cases scanned
          · exact takes scanned
        · exact takes scanned
      · split at scanned
        · rename_i digit
          have run : (c :: cs).takeWhile isDigit ≠ [] := by
            rw [List.takeWhile_cons_of_pos digit]
            exact List.cons_ne_nil _ _
          have digits := takes_digits run
          rw [List.dropWhile_cons_of_pos digit] at digits
          rcases takes_fraction scanned with rfl | fraction
          · exact digits
          · exact digits.trans fraction
        · cases scanned

theorem takes_string {fuel : Nat} {done : Except Fault (List Char)} {token : Token}
    {place stop : Place} {cs left : List Char}
    (scanned : scanString fuel place cs done = .token token stop left) :
    (∃ value, token = .string value) ∧ Takes cs left := by
  induction fuel generalizing place cs done with
  | zero => cases scanned
  | succ fuel ih =>
      unfold scanString at scanned
      extract_lets halt push at scanned
      have halts (cause : Cause) (read skip : Place) :
          halt cause read skip ≠ .token token stop left := by
        dsimp only [halt]
        split <;> nofun
      clear_value halt push
      split at scanned
      · exact absurd scanned (halts _ _ _)
      · cases scanned
        exact ⟨⟨_, rfl⟩, .one (by decide) _⟩
      · exact absurd scanned (halts _ _ _)
      · split at scanned
        · split at scanned <;> cases scanned
        · split at scanned
          · exact (ih scanned).imp_right fun takes => (takes.drop.cons _).cons _
          · dsimp only at scanned
            split at scanned
            · exact (ih scanned).imp_right fun takes => (takes.drop.drop.cons _).cons _
            · exact (ih scanned).imp_right fun takes => (takes.drop.cons _).cons _
      · split at scanned
        · exact (ih scanned).imp_right fun takes => (takes.cons _).cons _
        · exact absurd scanned (halts _ _ _)
      · split at scanned
        · exact absurd scanned (halts _ _ _)
        · exact (ih scanned).imp_right fun takes => takes.cons _

theorem takes_letters (word : List Char) {last : Char} {token made : Token} {place stop : Place}
    {cs left : List Char} (busy : isIdle last = false)
    (scanned : scanWord token (word ++ [last]) place cs = .token made stop left) :
    Takes cs left :=
  ⟨word, last, (takes_word scanned).2.trans (List.append_assoc ..), busy⟩

theorem takes_token {c : Char} {token : Token} {place stop : Place} {cs left : List Char}
    (scanned : scanToken place c cs = .token token stop left) (whole : token.isWhole = true) :
    Takes (c :: cs) left := by
  unfold scanToken at scanned
  split at scanned
  case h_7 => exact (takes_string scanned).2.cons _
  case h_8 => exact (takes_letters ['u', 'l'] (by decide) scanned).cons _
  case h_9 => exact (takes_letters ['r', 'u'] (by decide) scanned).cons _
  case h_10 => exact (takes_letters ['a', 'l', 's'] (by decide) scanned).cons _
  case h_11 => exact (takes_number scanned).cons _
  case h_12 =>
    split at scanned
    · exact takes_number scanned
    · cases scanned
      cases whole
  all_goals
    cases scanned
    exact .one (by decide) _

theorem scanToken_stray {c : Char} (outside : isIdle c = true ∨ c = 'j') (place : Place)
    (cs : List Char) : ∃ stop, scanToken place c cs = .token .stray stop cs := by
  unfold scanToken
  split
  case h_12 =>
    have other : ¬ isDigit c = true := by
      intro digit
      rcases outside with idle | rfl
      · exact absurd ((isIdle_of_isDigit digit).symm.trans idle) Bool.false_ne_true
      · exact absurd digit (by decide)
    exact ⟨_, if_neg other⟩
  all_goals exact absurd outside (by decide)

theorem isBlank_of_isSpace {c : Char} (space : isSpace c = true) : isBlank c = true := by
  simp only [isSpace, Bool.or_eq_true, decide_eq_true_eq] at space
  rcases space with ((rfl | rfl) | rfl) | rfl <;> rfl

/-- A text whose last character that is not blank is a backtick. -/
def EndsInTick (cs : List Char) : Prop :=
  ∃ before behind, cs = before ++ '\x60' :: behind ∧ AllBlank behind

theorem EndsInTick.behind {cs left : List Char} (ends : EndsInTick cs) (takes : Takes cs left) :
    EndsInTick left := by
  obtain ⟨before, behind, split, blank⟩ := ends
  obtain ⟨body, last, same, busy⟩ := takes
  have parts : before ++ '\x60' :: behind = (body ++ [last]) ++ left := by
    rw [← split, same, List.append_assoc, List.singleton_append]
  rcases List.append_eq_append_iff.mp parts with ⟨within, taken, rest⟩ | ⟨within, rfl, rest⟩
  · rcases List.eq_nil_or_concat within with rfl | ⟨others, other, rfl⟩
    · exact ⟨[], behind, rest.symm, blank⟩
    · -- The last character taken would be the backtick or a blank behind it.
      rw [List.concat_eq_append] at taken rest
      rw [← List.append_assoc] at taken
      have same : last = other := by simpa using (List.append_inj' taken rfl).2
      have idle : isIdle other = true := by
        have listed : other ∈ '\x60' :: behind := by
          rw [rest]
          simp
        rcases List.mem_cons.mp listed with rfl | later
        · rfl
        · rw [isIdle, blank other later, Bool.true_or]
      exact absurd (busy.symm.trans (same ▸ idle)) Bool.false_ne_true
  · exact ⟨within, behind, rest, blank⟩

theorem EndsInTick.tail {c : Char} {cs : List Char} (ends : EndsInTick (c :: cs))
    (space : isSpace c = true) : EndsInTick cs := by
  obtain ⟨before, behind, split, blank⟩ := ends
  cases before with
  | nil =>
      rw [(List.cons.inj split).1] at space
      cases space
  | cons first others => exact ⟨others, behind, (List.cons.inj split).2, blank⟩

theorem scanTokens_broken {fuel : Nat} {place : Place} {cs : List Char} (enough : cs.length ≤ fuel)
    (ends : EndsInTick cs) :
    ∃ lexeme ∈ (scanTokens fuel place cs).1, lexeme.token.isWhole = false := by
  induction fuel generalizing place cs with
  | zero =>
      obtain ⟨before, behind, rfl, _⟩ := ends
      simp at enough
  | succ fuel ih =>
      cases cs with
      | nil =>
          obtain ⟨before, behind, split, _⟩ := ends
          simp at split
      | cons c cs =>
          rw [List.length_cons] at enough
          rw [scanTokens]
          split
          · rename_i space
            exact ih (by omega) (ends.tail space)
          · split
            · refine ⟨_, List.mem_singleton.mpr rfl, ?_⟩
              dsimp only
              split <;> rfl
            · rename_i token stop left scanned
              cases whole : token.isWhole with
              | false => exact ⟨_, List.mem_cons_self, whole⟩
              | true =>
                  have takes := takes_token scanned whole
                  have shorter := takes.length_lt
                  rw [List.length_cons] at shorter
                  have later : ∃ lexeme ∈ (scanTokens fuel stop left).1,
                      lexeme.token.isWhole = false := ih (by omega) (ends.behind takes)
                  obtain ⟨lexeme, listed, broken⟩ := later
                  exact ⟨lexeme, List.mem_cons_of_mem _ listed, broken⟩

theorem scanTokens_first {fuel : Nat} {place : Place} {cs : List Char}
    (some : (scanTokens fuel place cs).1 ≠ [])
    (whole : ∀ lexeme ∈ (scanTokens fuel place cs).1, lexeme.token.isWhole = true) :
    ∃ before c rest, cs = before ++ c :: rest ∧ AllBlank before ∧
      isIdle c = false ∧ c ≠ 'j' := by
  induction fuel generalizing place cs with
  | zero => exact absurd rfl some
  | succ fuel ih =>
      cases cs with
      | nil => exact absurd rfl some
      | cons c cs =>
          rw [scanTokens] at some whole
          split at some
          · rename_i space
            rw [if_pos space] at whole
            obtain ⟨before, first, rest, rfl, blank, starts⟩ := ih some whole
            refine ⟨c :: before, first, rest, rfl, ?_, starts⟩
            exact List.forall_mem_cons.mpr ⟨isBlank_of_isSpace space, blank⟩
          · rename_i other
            rw [if_neg other] at whole
            have starts : ¬ (isIdle c = true ∨ c = 'j') := by
              intro outside
              obtain ⟨stop, scanned⟩ := scanToken_stray outside place cs
              rw [scanned] at whole
              exact absurd (whole _ List.mem_cons_self) Bool.false_ne_true
            rw [not_or, Bool.not_eq_true] at starts
            exact ⟨[], c, cs, rfl, List.forall_mem_nil _, starts⟩

end Wireframe.Json
