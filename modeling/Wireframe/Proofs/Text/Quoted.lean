import Mathlib.Data.List.Basic
import Mathlib.Tactic.NormNum
import Wireframe.Text.Quoted
/-!
Quoted texts are told apart, also behind other text: the escapes of characters are a prefix code,
and a quote inside comes right behind a backslash, so the quote that opens a text is the last one
but one that does not.
-/

namespace Wireframe.Text

section

variable {α : Type} {mark : α} {front back start rest : List α}

theorem split_first (before : mark ∉ front) (beforeOther : mark ∉ back)
    (same : front ++ mark :: start = back ++ mark :: rest) : front = back ∧ start = rest := by
  rcases List.append_eq_append_iff.mp same with ⟨middle, longer, later⟩ | ⟨middle, longer, later⟩
  · cases middle with
    | nil => exact ⟨by simpa using longer.symm, (List.cons.inj later).2⟩
    | cons first more =>
        cases (List.cons.inj later).1
        exact absurd (longer ▸ List.mem_append_right front List.mem_cons_self) beforeOther
  · cases middle with
    | nil => exact ⟨by simpa using longer, (List.cons.inj later).2.symm⟩
    | cons first more =>
        cases (List.cons.inj later).1
        exact absurd (longer ▸ List.mem_append_right back List.mem_cons_self) before

theorem split_last (after : mark ∉ start) (afterOther : mark ∉ rest)
    (same : front ++ mark :: start = back ++ mark :: rest) : front = back ∧ start = rest := by
  have reversed : start.reverse ++ mark :: front.reverse =
      rest.reverse ++ mark :: back.reverse := by
    simpa using congrArg List.reverse same
  obtain ⟨later, early⟩ := split_first (by simpa using after) (by simpa using afterOther) reversed
  exact ⟨List.reverse_inj.mp early, List.reverse_inj.mp later⟩

end

def hexValue (digits : List Char) : Nat :=
  digits.foldl (fun value c => 16 * value + (if c.isDigit then c.toNat - 48 else c.toNat - 87)) 0

theorem hexValue_hex (n : Nat) : hexValue (hex n) = n := by
  induction n using Nat.strong_induction_on with
  | _ n ih =>
      have digit : ∀ n < 16, hexValue [n.digitChar] = n := by decide
      rcases Nat.lt_or_ge n 16 with small | large
      · rw [hex, Nat.toDigits_of_lt_base small]
        exact digit n small
      · have last := digit (n % 16) (Nat.mod_lt n (by norm_num))
        have front := ih (n / 16) (Nat.div_lt_self (by omega) (by norm_num))
        rw [hex, Nat.toDigits_of_base_le (by norm_num) large]
        rw [hex] at front
        unfold hexValue at front last ⊢
        rw [List.foldl_append, front]
        simp only [List.foldl_cons, List.foldl_nil] at last ⊢
        omega

theorem hex_injective {m n : Nat} (same : hex m = hex n) : m = n := by
  rw [← hexValue_hex m, same, hexValue_hex]

theorem mem_hex {n : Nat} {c : Char} (present : c ∈ hex n) : c ∈ "0123456789abcdef".toList := by
  induction n using Nat.strong_induction_on with
  | _ n ih =>
      have digit : ∀ n < 16, n.digitChar ∈ "0123456789abcdef".toList := by decide
      rcases Nat.lt_or_ge n 16 with small | large
      · rw [hex, Nat.toDigits_of_lt_base small, List.mem_singleton] at present
        rw [present]
        exact digit n small
      · rw [hex, Nat.toDigits_of_base_le (by norm_num) large, List.mem_append,
          List.mem_singleton] at present
        rcases present with early | rfl
        · exact ih (n / 16) (Nat.div_lt_self (by omega) (by norm_num)) early
        · exact digit (n % 16) (Nat.mod_lt n (by norm_num))

def unescape : Char → Char
  | '0' => '\x00'
  | 't' => '\t'
  | 'n' => '\n'
  | 'r' => '\r'
  | c => c

inductive Escapes (c : Char) : List Char → Prop
  | letter (letter : Char) (apart : letter ≠ 'u') (plain : letter ≠ '\n')
      (same : unescape letter = c) : Escapes c ['\\', letter]
  | number : Escapes c (['\\', 'u', '\x7b'] ++ hex c.toNat ++ ['\x7d'])
  | plain (noSlash : c ≠ '\\') (noQuote : c ≠ '"') (noBreak : c ≠ '\n') : Escapes c [c]

theorem escape_escapes (c : Char) : Escapes c (escape c) := by
  unfold escape
  split
  · exact .letter '0' (by decide) (by decide) rfl
  · exact .letter 't' (by decide) (by decide) rfl
  · exact .letter 'n' (by decide) (by decide) rfl
  · exact .letter 'r' (by decide) (by decide) rfl
  · exact .letter '"' (by decide) (by decide) rfl
  · exact .letter '\\' (by decide) (by decide) rfl
  · split
    · exact .number
    · exact .plain ‹_› ‹_› ‹_›

theorem hex_end {m n : Nat} {back other : List Char}
    (same : hex m ++ '\x7d' :: back = hex n ++ '\x7d' :: other) : m = n ∧ back = other := by
  have apart (n : Nat) : '\x7d' ∉ hex n := fun present => absurd (mem_hex present) (by decide)
  obtain ⟨digits, rest⟩ := split_first (apart m) (apart n) same
  exact ⟨hex_injective digits, rest⟩

/-- No escape is the beginning of another. -/
theorem escape_apart {c d : Char} {back other : List Char}
    (same : escape c ++ back = escape d ++ other) : c = d ∧ back = other := by
  have first := escape_escapes c
  have second := escape_escapes d
  revert first second same
  generalize escape c = front
  generalize escape d = start
  intro same first second
  cases first with
  | letter letter apart _ read =>
      cases second with
      | letter other apart _ readOther =>
          obtain ⟨letters, rest⟩ := List.cons.inj (List.cons.inj same).2
          exact ⟨by rw [← read, letters, readOther], rest⟩
      | number => exact absurd (List.cons.inj (List.cons.inj same).2).1 apart
      | plain noSlash => exact absurd (List.cons.inj same).1.symm noSlash
  | number =>
      cases second with
      | letter other apart _ readOther =>
          exact absurd (List.cons.inj (List.cons.inj same).2).1.symm apart
      | number =>
          have digits : hex c.toNat ++ '\x7d' :: back = hex d.toNat ++ '\x7d' :: other := by
            simpa using same
          obtain ⟨numbers, rest⟩ := hex_end digits
          exact ⟨Char.toNat_inj.mp numbers, rest⟩
      | plain noSlash => exact absurd (List.cons.inj same).1.symm noSlash
  | plain noSlash =>
      cases second with
      | letter other apart _ readOther => exact absurd (List.cons.inj same).1 noSlash
      | number => exact absurd (List.cons.inj same).1 noSlash
      | plain => exact List.cons.inj same

def escaped (s : String) : List Char := s.toList.flatMap escape

theorem toList_quoted (s : String) : (quoted s).toList = '"' :: escaped s ++ ['"'] := by
  rw [quoted, String.toList_ofList]
  rfl

theorem escape_ne_nil (c : Char) : escape c ≠ [] := by
  have escapes := escape_escapes c
  intro empty
  rw [empty] at escapes
  cases escapes

theorem escaped_injective {s t : String} (same : escaped s = escaped t) : s = t := by
  suffices chars : ∀ s t : List Char, s.flatMap escape = t.flatMap escape → s = t from
    String.toList_injective (chars _ _ same)
  clear same s t
  intro s t same
  induction s generalizing t with
  | nil =>
      cases t with
      | nil => rfl
      | cons d rest =>
          rw [List.flatMap_cons] at same
          exact absurd (List.append_eq_nil_iff.mp same.symm).1 (escape_ne_nil d)
  | cons c rest ih =>
      cases t with
      | nil =>
          rw [List.flatMap_cons] at same
          exact absurd (List.append_eq_nil_iff.mp same).1 (escape_ne_nil c)
      | cons d others =>
          rw [List.flatMap_cons, List.flatMap_cons] at same
          obtain ⟨equal, later⟩ := escape_apart same
          rw [equal, ih others later]

/-- Every quote comes right behind a backslash. -/
def Guarded (text : List Char) : Prop :=
  ∀ front back, text = front ++ '"' :: back → ∃ before, front = before ++ ['\\']

theorem Guarded.append {front back : List Char} (first : Guarded front) (second : Guarded back) :
    Guarded (front ++ back) := by
  intro before after split
  rcases List.append_eq_append_iff.mp split with ⟨middle, found, rest⟩ | ⟨middle, found, rest⟩
  · obtain ⟨start, same⟩ := second middle after rest
    exact ⟨front ++ start, by rw [found, same, List.append_assoc]⟩
  · cases middle with
    | nil =>
        obtain ⟨start, same⟩ := second [] after rest.symm
        exact absurd same (by simp)
    | cons quote more =>
        cases (List.cons.inj rest).1
        exact first before more found

theorem guarded_of_notMem {text : List Char} (none : '"' ∉ text) : Guarded text := by
  rintro front back rfl
  exact absurd (List.mem_append_right front List.mem_cons_self) none

theorem Escapes.guarded {c : Char} {text : List Char} (escapes : Escapes c text) :
    Guarded text := by
  cases escapes with
  | letter letter =>
      intro front back split
      match front, split with
      | [], split => exact absurd (List.cons.inj split).1 (by decide)
      | [slash], split => exact ⟨[], congrArg ([·]) (List.cons.inj split).1.symm⟩
      | first :: second :: more, split =>
          have length := congrArg List.length split
          simp only [List.length_append, List.length_cons, List.length_nil] at length
          omega
  | number =>
      apply guarded_of_notMem
      intro present
      have digit : '"' ∉ hex c.toNat := fun present => absurd (mem_hex present) (by decide)
      simp [digit] at present
  | plain noSlash noQuote =>
      apply guarded_of_notMem
      intro present
      exact noQuote (List.mem_singleton.mp present).symm

theorem guarded_escaped (s : String) : Guarded (escaped s) := by
  unfold escaped
  induction s.toList with
  | nil => exact guarded_of_notMem List.not_mem_nil
  | cons c rest ih =>
      rw [List.flatMap_cons]
      exact (escape_escapes c).guarded.append ih

theorem escaped_unbroken (s : String) : '\n' ∉ escaped s := by
  intro present
  obtain ⟨c, _, inside⟩ := List.mem_flatMap.mp present
  have escapes := escape_escapes c
  revert escapes inside
  generalize escape c = text
  intro inside escapes
  cases escapes with
  | letter letter apart plain => simp [plain.symm] at inside
  | number =>
      have digit : '\n' ∉ hex c.toNat := fun present => absurd (mem_hex present) (by decide)
      simp [digit] at inside
  | plain noSlash noQuote noBreak => exact noBreak (List.mem_singleton.mp inside).symm

/-- Behind a blank the quote that opens a text is found from the end, whatever is before it. -/
theorem opening_unique {front back : List Char} {s t : String}
    (same : front ++ ' ' :: '"' :: escaped s = back ++ ' ' :: '"' :: escaped t) :
    front = back ∧ s = t := by
  have later {front back : List Char} {s t : String} {middle : List Char}
      (longer : back ++ [' ', '"'] = front ++ [' ', '"'] ++ middle)
      (rest : escaped s = middle ++ escaped t) : middle = [] := by
    by_contra some
    obtain ⟨more, last, split⟩ := (List.eq_nil_or_concat' middle).resolve_left some
    have longer : back ++ [' '] ++ ['"'] = front ++ [' ', '"'] ++ more ++ [last] := by
      simpa [split] using longer
    obtain ⟨shorter, quote⟩ := List.append_inj' longer rfl
    cases (List.cons.inj quote).1
    rw [split] at rest
    obtain ⟨before, slash⟩ := guarded_escaped s more (escaped t) (by simpa using rest)
    rw [slash, ← List.append_assoc] at shorter
    have char := (List.append_inj' shorter rfl).2
    exact absurd (List.cons.inj char).1 (by decide)
  have parts : front ++ [' ', '"'] ++ escaped s = back ++ [' ', '"'] ++ escaped t := by
    simpa using same
  rcases List.append_eq_append_iff.mp parts with ⟨middle, longer, rest⟩ | ⟨middle, longer, rest⟩
  · cases later longer rest
    rw [List.append_nil] at longer
    exact ⟨(List.append_cancel_right longer).symm, escaped_injective rest⟩
  · cases later longer rest
    rw [List.append_nil] at longer
    exact ⟨List.append_cancel_right longer, (escaped_injective rest).symm⟩

end Wireframe.Text
