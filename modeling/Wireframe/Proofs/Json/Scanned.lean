import Mathlib.Tactic.IntervalCases
import Wireframe.Json.Printer
import Wireframe.Proofs.Json.Lexeme
/-!
Texts scanned part by part. What a part is scanned into depends neither on its place nor on what
follows, as long as a number is not followed by something that carries it on. Strings are scanned
into the characters that were escaped, and the text of a number into what it is read as by itself.
-/

namespace Wireframe.Json

/-- Characters are scanned into tokens, wherever they stand, up to the rest of the text. -/
inductive Scanned : List Char → List Token → List Char → Prop
  | done {rest : List Char} : Scanned rest [] rest
  | space {c : Char} {cs rest : List Char} {tokens : List Token} :
      isSpace c = true → Scanned cs tokens rest → Scanned (c :: cs) tokens rest
  | token {c : Char} {cs left rest : List Char} {token : Token} {tokens : List Token} :
      isSpace c = false → token.isWhole = true →
      (∀ place, ∃ stop, scanToken place c cs = .token token stop left) →
      Scanned left tokens rest → Scanned (c :: cs) (token :: tokens) rest

theorem Scanned.append {cs middle rest : List Char} {tokens others : List Token}
    (first : Scanned cs tokens middle) (later : Scanned middle others rest) :
    Scanned cs (tokens ++ others) rest := by
  induction first with
  | done => exact later
  | space space _ ih => exact .space space (ih later)
  | token visible whole scans _ ih => exact .token visible whole scans (ih later)

theorem Scanned.single {c : Char} {cs rest : List Char} {token : Token}
    (visible : isSpace c = false) (whole : token.isWhole = true)
    (scans : ∀ place, ∃ stop, scanToken place c cs = .token token stop rest) :
    Scanned (c :: cs) [token] rest :=
  .token visible whole scans .done

theorem Scanned.tokens {cs : List Char} {tokens : List Token} (scanned : Scanned cs tokens [])
    {fuel : Nat} (enough : cs.length ≤ fuel) (place : Place) :
    (scanTokens fuel place cs).1.map Lexeme.token = tokens := by
  generalize none : ([] : List Char) = rest at scanned
  induction scanned generalizing fuel place with
  | done =>
      subst none
      cases fuel <;> rfl
  | space space _ ih =>
      obtain ⟨fuel, rfl⟩ := Nat.exists_eq_add_of_le' (Nat.zero_lt_of_lt enough)
      rw [scanTokens, if_pos space]
      exact ih (Nat.le_of_succ_le_succ enough) _ none
  | token visible whole scans _ ih =>
      obtain ⟨fuel, rfl⟩ := Nat.exists_eq_add_of_le' (Nat.zero_lt_of_lt enough)
      obtain ⟨stop, scan⟩ := scans place
      have shorter := (takes_token scan whole).length_lt
      rw [scanTokens, if_neg (by simp [visible]), scan]
      exact congrArg (_ :: ·) (ih (by rw [List.length_cons] at enough shorter; omega) stop none)

theorem tokens_of_scanned {text : String} {kinds : List Token}
    (scanned : Scanned text.toList kinds []) :
    (tokens text).1.map Lexeme.token = kinds :=
  scanned.tokens (le_refl _) _

theorem scanned_null (rest : List Char) : Scanned ("null".toList ++ rest) [.null] rest :=
  .single rfl rfl fun _ => ⟨_, rfl⟩

theorem scanned_bool (value : Bool) (rest : List Char) :
    Scanned ((if value then "true" else "false").toList ++ rest) [.bool value] rest := by
  cases value <;> exact .single rfl rfl fun _ => ⟨_, rfl⟩

theorem scanString_plain {c : Char} (quote : c ≠ '"') (backslash : c ≠ '\\')
    (visible : ¬ c.toNat < 32) (fuel : Nat) (place : Place) (done rest : List Char) :
    scanString (fuel + 1) place (c :: rest) (.ok done) =
      scanString fuel (place.step c) rest (.ok (c :: done)) := by
  rw [scanString]
  · rw [if_neg visible]
    rfl
  all_goals
    intros
    contradiction

theorem scanString_control (fuel : Nat) (place : Place) (done rest : List Char) : ∀ n < 32,
    ∃ stop, scanString (fuel + 1) place (escape (Char.ofNat n) ++ rest) (.ok done) =
      scanString fuel stop rest (.ok (Char.ofNat n :: done)) := by
  intro n small
  interval_cases n <;> exact ⟨_, rfl⟩

theorem scanString_escape (c : Char) (fuel : Nat) (place : Place) (done rest : List Char) :
    ∃ stop, scanString (fuel + 1) place (escape c ++ rest) (.ok done) =
      scanString fuel stop rest (.ok (c :: done)) := by
  by_cases control : c.toNat < 32
  · have scanned := scanString_control fuel place done rest c.toNat control
    rwa [Char.ofNat_toNat] at scanned
  · unfold escape
    split
    case h_8 =>
      rename_i quote backslash _ _ _ _ _
      rw [if_neg control]
      exact ⟨_, scanString_plain quote backslash control fuel place done rest⟩
    all_goals exact ⟨_, rfl⟩

theorem escape_ne_nil (c : Char) : escape c ≠ [] := by
  unfold escape
  split
  case h_8 => split <;> exact List.cons_ne_nil _ _
  all_goals exact List.cons_ne_nil _ _

theorem scanString_escaped (s : List Char) {fuel : Nat} (place : Place) (done rest : List Char)
    (enough : (s.flatMap escape ++ '"' :: rest).length ≤ fuel) :
    ∃ stop, scanString fuel place (s.flatMap escape ++ '"' :: rest) (.ok done) =
      .token (.string (.ok (String.ofList (done.reverse ++ s)))) stop rest := by
  induction s generalizing fuel place done with
  | nil =>
      obtain ⟨fuel, rfl⟩ : ∃ n, fuel = n + 1 := ⟨fuel - 1, by simp at enough; omega⟩
      rw [List.append_nil]
      exact ⟨_, rfl⟩
  | cons c s ih =>
      have some := List.length_pos_iff.mpr (escape_ne_nil c)
      rw [List.flatMap_cons, List.append_assoc] at enough ⊢
      rw [List.length_append] at enough
      obtain ⟨fuel, rfl⟩ : ∃ n, fuel = n + 1 := ⟨fuel - 1, by omega⟩
      have less : (s.flatMap escape ++ '"' :: rest).length ≤ fuel := by omega
      obtain ⟨next, scanned⟩ :=
        scanString_escape c fuel place done (s.flatMap escape ++ '"' :: rest)
      obtain ⟨stop, later⟩ := ih next (c :: done) less
      refine ⟨stop, scanned.trans (later.trans ?_)⟩
      simp

theorem scanned_quote (s : String) (rest : List Char) :
    Scanned ((quote s).toList ++ rest) [.string (.ok s)] rest := by
  have text : (quote s).toList ++ rest = '"' :: (s.toList.flatMap escape ++ '"' :: rest) := by
    simp [quote]
  rw [text]
  refine .single rfl rfl fun place => ?_
  obtain ⟨stop, scanned⟩ := scanString_escaped s.toList (advance place 1) [] rest (Nat.le_succ _)
  refine ⟨stop, scanned.trans ?_⟩
  rw [List.reverse_nil, List.nil_append, String.ofList_toList]

def Parted (rest : List Char) : Prop :=
  ∀ c ∈ rest.head?, isDigit c = false ∧ c ≠ '.' ∧ c ≠ 'e' ∧ c ≠ 'E'

variable {numeral : Numeral} {negative : Bool} {m : Number} {cs left rest : List Char}
  {place last : Place}

theorem Parted.digits (parted : cs.dropWhile isDigit = [] → Parted rest) :
    (cs ++ rest).takeWhile isDigit = cs.takeWhile isDigit ∧
      (cs ++ rest).dropWhile isDigit = cs.dropWhile isDigit ++ rest := by
  rw [List.takeWhile_append, List.dropWhile_append]
  by_cases all : cs.dropWhile isDigit = []
  · have run : cs.takeWhile isDigit = cs := by
      have split := List.takeWhile_append_dropWhile (p := isDigit) (l := cs)
      rwa [all, List.append_nil] at split
    have none : rest.takeWhile isDigit = [] ∧ rest.dropWhile isDigit = rest := by
      cases rest with
      | nil => exact ⟨rfl, rfl⟩
      | cons c cs =>
          have other := (parted all c rfl).1
          exact ⟨List.takeWhile_cons_of_neg (by simp [other]),
            List.dropWhile_cons_of_neg (by simp [other])⟩
    rw [all, run, none.1, none.2]
    simp
  · have short : ¬ (cs.takeWhile isDigit).length = cs.length := by
      intro whole
      have run := (List.takeWhile_prefix isDigit).eq_of_length whole
      have split := List.takeWhile_append_dropWhile (p := isDigit) (l := cs)
      rw [run] at split
      exact all (by simpa using split)
    rw [if_neg short, if_neg (by simpa using all)]
    exact ⟨rfl, rfl⟩

theorem value_of_finishNumber {start stop : Place}
    (scanned : finishNumber numeral start stop cs = .token (.number (.ok m)) last left) :
    numeral.value = .ok m ∧ left = cs := by
  unfold finishNumber at scanned
  cases value : numeral.value with
  | ok n =>
      rw [value] at scanned
      cases scanned
      exact ⟨rfl, rfl⟩
  | error taken =>
      rw [value] at scanned
      cases taken <;> cases scanned

theorem finishNumber_of_value (value : numeral.value = .ok m) (start stop : Place)
    (rest : List Char) :
    finishNumber numeral start stop rest = .token (.number (.ok m)) stop rest := by
  unfold finishNumber
  rw [value]

def SignOf (minus : Bool) (sign : List Char) : Prop :=
  sign = ['+'] ∧ minus = false ∨ sign = ['-'] ∧ minus = true ∨ sign = [] ∧ minus = false

theorem scanExponent_digits {c digit : Char} {minus : Bool} {sign : List Char}
    (mark : c = 'e' ∨ c = 'E') (signed : SignOf minus sign) (first : isDigit digit = true)
    (numeral : Numeral) (place : Place) (others : List Char) :
    ∃ start stop, scanExponent numeral place (c :: (sign ++ digit :: others)) =
      finishNumber
        { numeral with exponent := some (minus, (digit :: others).takeWhile isDigit) }
        start stop ((digit :: others).dropWhile isDigit) := by
  rw [scanExponent.eq_def]
  dsimp only
  rw [if_pos mark]
  rcases signed with ⟨rfl, rfl⟩ | ⟨rfl, rfl⟩ | ⟨rfl, rfl⟩
  · exact ⟨_, _, if_pos first⟩
  · exact ⟨_, _, if_pos first⟩
  · have other : digit ≠ '+' ∧ digit ≠ '-' := by
      constructor <;> (rintro rfl; cases first)
    simp only [List.nil_append, List.cons.injEq, other.1, other.2, false_and, imp_self,
      implies_true, first, if_true]
    exact ⟨_, _, rfl⟩

theorem scanExponent_parted
    (scanned : scanExponent numeral place cs = .token (.number (.ok m)) last left)
    (parted : left = [] → Parted rest) (place : Place) :
    ∃ stop, scanExponent numeral place (cs ++ rest) =
      .token (.number (.ok m)) stop (left ++ rest) := by
  unfold scanExponent at scanned
  split at scanned
  · split at scanned
    · rename_i c _ mark
      split at scanned
      rename_i minus start unsigned parts
      split at scanned
      · cases scanned
      · rename_i digit others
        split at scanned
        · rename_i first
          obtain ⟨value, rfl⟩ := value_of_finishNumber scanned
          obtain ⟨run, later⟩ := Parted.digits parted
          have finishes {sign : List Char} (signed : SignOf minus sign) :
              ∃ stop, scanExponent numeral place (c :: (sign ++ digit :: (others ++ rest))) =
                .token (.number (.ok m)) stop ((digit :: others).dropWhile isDigit ++ rest) := by
            obtain ⟨start, stop, digits⟩ :=
              scanExponent_digits mark signed first numeral place (others ++ rest)
            rw [List.cons_append] at run later
            rw [run, later] at digits
            exact ⟨stop, digits.trans (finishNumber_of_value value _ _ _)⟩
          split at parts <;> cases parts
          · exact finishes (.inl ⟨rfl, rfl⟩)
          · exact finishes (.inr (.inl ⟨rfl, rfl⟩))
          · exact finishes (.inr (.inr ⟨rfl, rfl⟩))
        · cases scanned
    · rename_i other
      obtain ⟨value, rfl⟩ := value_of_finishNumber scanned
      rw [List.cons_append, scanExponent.eq_def]
      dsimp only
      rw [if_neg other]
      exact ⟨_, finishNumber_of_value value _ _ _⟩
  · obtain ⟨value, rfl⟩ := value_of_finishNumber scanned
    cases rest with
    | nil => exact ⟨_, finishNumber_of_value value _ _ _⟩
    | cons c cs =>
        obtain ⟨_, _, lower, upper⟩ := parted rfl c rfl
        rw [List.nil_append, scanExponent.eq_def]
        dsimp only
        rw [if_neg (not_or.mpr ⟨lower, upper⟩)]
        exact ⟨_, finishNumber_of_value value _ _ _⟩

theorem scanFraction_parted
    (scanned : scanFraction numeral place cs = .token (.number (.ok m)) last left)
    (parted : left = [] → Parted rest) (place : Place) :
    ∃ stop, scanFraction numeral place (cs ++ rest) =
      .token (.number (.ok m)) stop (left ++ rest) := by
  unfold scanFraction at scanned
  split at scanned
  · rename_i cs
    dsimp only at scanned
    split at scanned
    · cases scanned
    · rename_i some
      have within : cs.dropWhile isDigit = [] → Parted rest := by
        intro all
        rw [all] at scanned
        exact parted (value_of_finishNumber scanned).2
      obtain ⟨run, later⟩ := Parted.digits within
      obtain ⟨stop, exponent⟩ := scanExponent_parted scanned parted
        (advance (advance place 1) (cs.takeWhile isDigit).length)
      refine ⟨stop, Eq.trans ?_ exponent⟩
      rw [List.cons_append, scanFraction, run, later]
      exact if_neg some
  · rename_i unpointed
    obtain ⟨stop, exponent⟩ := scanExponent_parted scanned parted place
    refine ⟨stop, Eq.trans ?_ exponent⟩
    rw [scanFraction]
    intro others pointed
    cases cs with
    | nil =>
        rw [List.nil_append] at pointed
        exact (parted (value_of_finishNumber scanned).2 '.' (by simp [pointed])).2.1 rfl
    | cons c cs =>
        rw [List.cons_append] at pointed
        exact unpointed cs (by rw [(List.cons.inj pointed).1])

/-- A number is scanned in the same way when something follows that does not carry it on. -/
theorem scanNumber_parted
    (scanned : scanNumber negative place cs = .token (.number (.ok m)) last left)
    (parted : left = [] → Parted rest) (place : Place) :
    ∃ stop, scanNumber negative place (cs ++ rest) =
      .token (.number (.ok m)) stop (left ++ rest) := by
  cases cs with
  | nil => cases scanned
  | cons c cs =>
      rw [scanNumber] at scanned
      rw [List.cons_append, scanNumber]
      split at scanned
      · -- No digit may come behind a leading zero, whether from the number or from the rest.
        rename_i zero
        rw [if_pos zero]
        cases cs with
        | nil =>
            obtain ⟨stop, fraction⟩ := scanFraction_parted scanned parted (advance place 1)
            cases rest with
            | nil => exact ⟨stop, fraction⟩
            | cons d ds =>
                have none : left = [] := (value_of_finishNumber scanned).2
                refine ⟨stop, Eq.trans ?_ fraction⟩
                exact if_neg (by simp [(parted none d rfl).1])
        | cons d ds =>
            dsimp only at scanned
            split at scanned
            · cases scanned
            · rename_i other
              obtain ⟨stop, fraction⟩ := scanFraction_parted scanned parted (advance place 1)
              exact ⟨stop, (if_neg other).trans fraction⟩
      · rename_i other
        rw [if_neg other]
        split at scanned
        · rename_i digit
          rw [if_pos digit]
          have within : cs.dropWhile isDigit = [] → Parted rest := by
            intro all
            dsimp only at scanned
            rw [all] at scanned
            exact parted (value_of_finishNumber scanned).2
          obtain ⟨run, later⟩ := Parted.digits within
          obtain ⟨stop, fraction⟩ := scanFraction_parted scanned parted
            (advance place (c :: cs.takeWhile isDigit).length)
          refine ⟨stop, Eq.trans ?_ fraction⟩
          dsimp only
          rw [run, later]
        · cases scanned

theorem scanToken_digit {c : Char} (digit : isDigit c = true) :
    scanToken place c cs = scanNumber false place (c :: cs) := by
  rw [scanToken]
  · exact if_pos digit
  all_goals
    rintro rfl
    cases digit

theorem scanToken_parted {c : Char}
    (scanned : scanToken place c cs = .token (.number (.ok m)) last left)
    (parted : left = [] → Parted rest) (place : Place) :
    ∃ stop, scanToken place c (cs ++ rest) = .token (.number (.ok m)) stop (left ++ rest) := by
  unfold scanToken at scanned
  split at scanned
  case h_7 =>
    obtain ⟨⟨value, string⟩, _⟩ := takes_string scanned
    cases string
  case h_8 => cases (takes_word scanned).1
  case h_9 => cases (takes_word scanned).1
  case h_10 => cases (takes_word scanned).1
  case h_11 => exact scanNumber_parted scanned parted (advance place 1)
  case h_12 =>
    split at scanned
    · rename_i digit
      obtain ⟨stop, number⟩ := scanNumber_parted scanned parted place
      exact ⟨stop, (scanToken_digit digit).trans number⟩
    · cases scanned
  all_goals cases scanned

theorem scanned_of_blank {fuel : Nat} (enough : cs.length ≤ fuel)
    (none : (scanTokens fuel place cs).1 = []) (rest : List Char) :
    Scanned (cs ++ rest) [] rest := by
  induction fuel generalizing place cs with
  | zero =>
      rw [List.eq_nil_of_length_eq_zero (Nat.le_zero.mp enough)]
      exact .done
  | succ fuel ih =>
      cases cs with
      | nil => exact .done
      | cons c cs =>
          rw [scanTokens] at none
          split at none
          · rename_i space
            exact .space space (ih (Nat.le_of_succ_le_succ enough) none)
          · split at none <;> exact absurd none (List.cons_ne_nil _ _)

theorem scanned_of_number {fuel : Nat} (enough : cs.length ≤ fuel)
    (one : (scanTokens fuel place cs).1.map Lexeme.token = [.number (.ok m)])
    (parted : Parted rest) : Scanned (cs ++ rest) [.number (.ok m)] rest := by
  induction fuel generalizing place cs with
  | zero => cases one
  | succ fuel ih =>
      cases cs with
      | nil => cases one
      | cons c cs =>
          rw [scanTokens] at one
          split at one
          · rename_i space
            exact .space space (ih (Nat.le_of_succ_le_succ enough) one)
          · rename_i visible
            split at one
            · split at one <;> cases one
            · rename_i scan
              obtain ⟨number, none⟩ := List.cons.inj one
              dsimp only at number
              subst number
              have shorter := (takes_token scan rfl).length_lt
              rw [List.length_cons] at enough shorter
              exact .token (Bool.eq_false_iff.mpr visible) rfl
                (scanToken_parted scan fun _ => parted)
                (scanned_of_blank (by omega) (List.map_eq_nil_iff.mp none) rest)

end Wireframe.Json
