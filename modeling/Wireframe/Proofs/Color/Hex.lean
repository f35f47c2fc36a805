import Wireframe.Proofs.Text.Case
import Wireframe.Proofs.Text.Trim
/-!
Hexadecimal codes of colours. A text that is read as a colour is a code of three or six digits
between blanks, after a number sign or without one, and every such text whose code differs in letter
case alone has the same colour. Of the channels of a byte the byte is written, so the code that is
written of the colour is read as the same colour.
-/

namespace Wireframe.Color

open Text (AllBlank Tight isBlank trimChars)

theorem byteOfChannel_channelOfByte :
    ∀ byte < 256, byteOfChannel (channelOfByte byte) = byte := by
  decide +kernel

theorem one_le_channelOfByte : ∀ byte < 256, 1 ≤ channelOfByte byte ↔ byte = 255 := by
  decide +kernel

def lowerDigits : List Char := "0123456789abcdef".toList

theorem hexDigitChar_mem : ∀ n < 16, hexDigitChar n ∈ lowerDigits := by
  decide

theorem hexDigit?_hexDigitChar : ∀ n < 16, hexDigit? (hexDigitChar n) = some n := by
  decide

def Plain (c : Char) : Prop := isBlank c = false ∧ c ≠ '#'

theorem hexDigit?_spec {c : Char} {n : Nat} (read : hexDigit? c = some n) : Plain c ∧ n < 16 := by
  have sign : '#'.toNat = 35 := rfl
  have within {low high : Char} (between : low ≤ c ∧ c ≤ high) :
      low.toNat ≤ c.toNat ∧ c.toNat ≤ high.toNat :=
    between.imp UInt32.le_iff_toNat_le.mp UInt32.le_iff_toNat_le.mp
  have plain (low : 48 ≤ c.toNat) (high : c.toNat ≤ 102) : Plain c := by
    refine ⟨?_, ?_⟩
    · simp only [isBlank, Bool.or_eq_false_iff, Bool.and_eq_false_iff, decide_eq_false_iff_not,
        beq_eq_false_iff_ne]
      omega
    · rintro rfl
      omega
  unfold hexDigit? at read
  split at read
  · rename_i between
    obtain ⟨low, high⟩ : 48 ≤ c.toNat ∧ c.toNat ≤ 57 := within between
    cases read
    exact ⟨plain low (by omega), by omega⟩
  · split at read
    · rename_i between
      obtain ⟨low, high⟩ : 97 ≤ c.toNat ∧ c.toNat ≤ 102 := within between
      cases read
      exact ⟨plain (by omega) high, by omega⟩
    · split at read
      · rename_i between
        obtain ⟨low, high⟩ : 65 ≤ c.toNat ∧ c.toNat ≤ 70 := within between
        cases read
        exact ⟨plain (by omega) (by omega), by omega⟩
      · cases read

theorem hexPair?_spec {high low : Char} {byte : Nat} (read : hexPair? high low = some byte) :
    Plain high ∧ Plain low ∧ byte < 256 := by
  unfold hexPair? at read
  dsimp only at read
  split at read
  · rename_i plus
    change ((hexDigit? low).bind fun low => some (0 * 16 + low)) = some byte at read
    obtain ⟨lower, lowerRead, read⟩ := Option.bind_eq_some_iff.mp read
    cases read
    obtain ⟨lowPlain, lowSmall⟩ := hexDigit?_spec lowerRead
    exact ⟨plus ▸ ⟨rfl, by decide⟩, lowPlain, by omega⟩
  · obtain ⟨upper, upperRead, read⟩ := Option.bind_eq_some_iff.mp read
    obtain ⟨lower, lowerRead, read⟩ := Option.bind_eq_some_iff.mp read
    cases read
    obtain ⟨highPlain, highSmall⟩ := hexDigit?_spec upperRead
    obtain ⟨lowPlain, lowSmall⟩ := hexDigit?_spec lowerRead
    exact ⟨highPlain, lowPlain, by omega⟩

theorem hexPair?_double {c : Char} {n : Nat} (read : hexDigit? c = some n) :
    hexPair? c c = some (n * 17) := by
  have digit : c ≠ '+' := by
    rintro rfl
    cases read
  rw [hexPair?, if_neg digit, read]
  exact congrArg some (Nat.mul_succ n 16).symm

theorem hexPair?_byteHex {byte : Nat} (small : byte < 256) :
    hexPair? (hexDigitChar (byte / 16)) (hexDigitChar (byte % 16)) = some byte := by
  have high := hexDigit?_hexDigitChar (byte / 16) (by omega)
  have low := hexDigit?_hexDigitChar (byte % 16) (by omega)
  have digit : hexDigitChar (byte / 16) ≠ '+' := by
    intro plus
    rw [plus] at high
    cases high
  rw [hexPair?, if_neg digit, high, low]
  change some (byte / 16 * 16 + byte % 16) = some byte
  rw [Nat.div_add_mod']

def bytesHex (r g b : Nat) : List Char := byteHex r ++ byteHex g ++ byteHex b

theorem codeBytes?_spec {code : List Char} {r g b : Nat}
    (read : codeBytes? code = some (r, g, b)) :
    (∀ c ∈ code, Plain c) ∧ r < 256 ∧ g < 256 ∧ b < 256 := by
  unfold codeBytes? at read
  split at read
  · obtain ⟨red, redRead, read⟩ := Option.bind_eq_some_iff.mp read
    obtain ⟨green, greenRead, read⟩ := Option.bind_eq_some_iff.mp read
    obtain ⟨blue, blueRead, read⟩ := Option.bind_eq_some_iff.mp read
    cases read
    obtain ⟨redPlain, redSmall⟩ := hexDigit?_spec redRead
    obtain ⟨greenPlain, greenSmall⟩ := hexDigit?_spec greenRead
    obtain ⟨bluePlain, blueSmall⟩ := hexDigit?_spec blueRead
    simp only [List.forall_mem_cons]
    exact ⟨⟨redPlain, greenPlain, bluePlain, List.forall_mem_nil _⟩, by omega⟩
  · obtain ⟨red, redRead, read⟩ := Option.bind_eq_some_iff.mp read
    obtain ⟨green, greenRead, read⟩ := Option.bind_eq_some_iff.mp read
    obtain ⟨blue, blueRead, read⟩ := Option.bind_eq_some_iff.mp read
    cases read
    obtain ⟨redHigh, redLow, redSmall⟩ := hexPair?_spec redRead
    obtain ⟨greenHigh, greenLow, greenSmall⟩ := hexPair?_spec greenRead
    obtain ⟨blueHigh, blueLow, blueSmall⟩ := hexPair?_spec blueRead
    simp only [List.forall_mem_cons]
    exact ⟨⟨redHigh, redLow, greenHigh, greenLow, blueHigh, blueLow, List.forall_mem_nil _⟩,
      redSmall, greenSmall, blueSmall⟩
  · cases read

theorem codeBytes?_bytesHex {r g b : Nat} (red : r < 256) (green : g < 256) (blue : b < 256) :
    codeBytes? (bytesHex r g b) = some (r, g, b) := by
  simp only [bytesHex, byteHex, List.cons_append, List.nil_append, codeBytes?,
    hexPair?_byteHex red, hexPair?_byteHex green, hexPair?_byteHex blue]
  rfl

theorem bytesHex_digits {r g b : Nat} (red : r < 256) (green : g < 256) (blue : b < 256) :
    ∀ c ∈ bytesHex r g b, c ∈ lowerDigits := by
  have byte {n : Nat} (small : n < 256) : ∀ c ∈ byteHex n, c ∈ lowerDigits := by
    simp only [byteHex, List.forall_mem_cons]
    exact ⟨hexDigitChar_mem _ (by omega), hexDigitChar_mem _ (by omega), List.forall_mem_nil _⟩
  simp only [bytesHex, List.forall_mem_append]
  exact ⟨⟨byte red, byte green⟩, byte blue⟩

theorem codeBytes?_double {x y z : Char} {bytes : Nat × Nat × Nat}
    (read : codeBytes? [x, y, z] = some bytes) : codeBytes? [x, x, y, y, z, z] = some bytes := by
  obtain ⟨red, redRead, read⟩ := Option.bind_eq_some_iff.mp read
  obtain ⟨green, greenRead, read⟩ := Option.bind_eq_some_iff.mp read
  obtain ⟨blue, blueRead, read⟩ := Option.bind_eq_some_iff.mp read
  rw [codeBytes?, hexPair?_double redRead, hexPair?_double greenRead, hexPair?_double blueRead]
  exact read

/-- A text that is nothing but a code between blanks, after a number sign or without one. -/
def Spells (code : List Char) (text : String) : Prop :=
  (∀ c ∈ code, Plain c) ∧ ∃ before mark behind, AllBlank before ∧ AllBlank behind ∧
    (mark = [] ∨ mark = ['#']) ∧ text.toList = before ++ (mark ++ code ++ behind)

theorem Spells.trimmed {code : List Char} {text : String} (spells : Spells code text) :
    trimChars text.toList = code ∨ trimChars text.toList = '#' :: code := by
  obtain ⟨plain, before, mark, behind, blankBefore, blankBehind, sign, chars⟩ := spells
  have visible : ∀ c ∈ mark ++ code, isBlank c = false := by
    rw [List.forall_mem_append]
    refine ⟨?_, fun c listed => (plain c listed).1⟩
    rcases sign with rfl | rfl
    · exact List.forall_mem_nil _
    · simp only [List.forall_mem_cons]
      exact ⟨rfl, List.forall_mem_nil _⟩
  have tight : Tight (mark ++ code) := ⟨fun c first => visible c (List.mem_of_mem_head? first),
    fun c last => visible c (List.mem_of_getLast? last)⟩
  have whole : trimChars text.toList = mark ++ code := by
    rw [chars]
    by_cases filled : mark ++ code = []
    · -- Without a mark and a code there are only blanks, which are trimmed from the front.
      have blank : ∀ c ∈ before ++ behind, isBlank c = true :=
        List.forall_mem_append.mpr ⟨blankBefore, blankBehind⟩
      rw [filled, List.nil_append, trimChars, List.dropWhile_eq_nil_iff.mpr blank]
      rfl
    · exact Text.trimChars_between blankBefore blankBehind tight filled
  rw [whole]
  rcases sign with rfl | rfl
  · exact .inl rfl
  · exact .inr rfl

theorem Spells.ofHex?_eq {code : List Char} {text : String} (spells : Spells code text) :
    ofHex? text = (codeBytes? code).map fun (r, g, b) => ofBytes r g b := by
  rcases spells.trimmed with bare | marked
  · rw [ofHex?, bare]
    dsimp only
    split
    · exact absurd rfl (spells.1 '#' List.mem_cons_self).2
    · rfl
  · rw [ofHex?, marked]
    rfl

/-- A text that is read as a colour spells the code of three bytes. -/
theorem spells_of_ofHex? {text : String} {color : Color} (read : ofHex? text = some color) :
    ∃ code r g b, Spells code text ∧ codeBytes? code = some (r, g, b) ∧
      color = ofBytes r g b := by
  obtain ⟨before, behind, blankBefore, blankBehind, chars, _⟩ := Text.trimChars_split text.toList
  have spelled (mark : List Char) {code : List Char} {bytes : Nat × Nat × Nat}
      (trimmed : trimChars text.toList = mark ++ code) (sign : mark = [] ∨ mark = ['#'])
      (known : codeBytes? code = some bytes) : Spells code text := by
    rw [trimmed] at chars
    exact ⟨(codeBytes?_spec known).1, before, mark, behind, blankBefore, blankBehind, sign, chars⟩
  obtain ⟨⟨r, g, b⟩, known, rfl⟩ := Option.map_eq_some_iff.mp read
  split at known
  · rename_i code trimmed
    exact ⟨code, r, g, b, spelled ['#'] trimmed (.inr rfl) known, known, rfl⟩
  · exact ⟨_, r, g, b, spelled [] rfl (.inl rfl) known, known, rfl⟩

section

variable {r g b : Nat} (red : r < 256) (green : g < 256) (blue : b < 256)
include red green blue

theorem toHex_ofBytes : (ofBytes r g b).toHex = String.ofList ('#' :: bytesHex r g b) := by
  simp only [toHex, ofBytes, rgb, byteOfChannel_channelOfByte r red,
    byteOfChannel_channelOfByte g green, byteOfChannel_channelOfByte b blue]
  rfl

theorem ofHex?_toHex : ofHex? (ofBytes r g b).toHex = some (ofBytes r g b) := by
  have read := codeBytes?_bytesHex red green blue
  have spells : Spells (bytesHex r g b) (ofBytes r g b).toHex := by
    refine ⟨(codeBytes?_spec read).1, [], ['#'], [], List.forall_mem_nil _, List.forall_mem_nil _,
      .inr rfl, ?_⟩
    rw [toHex_ofBytes red green blue, String.toList_ofList, List.append_nil]
    rfl
  rw [spells.ofHex?_eq, read]
  rfl

theorem isWhite_ofBytes :
    (ofBytes r g b).isWhite = true ↔ (ofBytes r g b).toHex = "#ffffff" := by
  have full : (ofBytes r g b).isWhite = true ↔ r = 255 ∧ g = 255 ∧ b = 255 := by
    simp only [isWhite, ofBytes, rgb, Bool.and_eq_true, decide_eq_true_eq, and_assoc,
      one_le_channelOfByte r red, one_le_channelOfByte g green, one_le_channelOfByte b blue]
  have code : "#ffffff" = String.ofList ('#' :: bytesHex 255 255 255) := by decide
  rw [full, toHex_ofBytes red green blue, code]
  constructor
  · rintro ⟨rfl, rfl, rfl⟩
    rfl
  · intro same
    have codes := (List.cons.inj (String.ofList_injective same)).2
    have read := codeBytes?_bytesHex red green blue
    rw [codes] at read
    cases read
    exact ⟨rfl, rfl, rfl⟩

end

/-- A text that is read as a colour has a code, and the colour is that of every text with the same
code in whatever case, after a number sign or without one and between whatever blanks, and if the
code has three digits, of those with each of them doubled. The colour is opaque. It is written with
six digits in lower case after a number sign, is read again from what is written, and is white if
and only if white is written. -/
theorem ofHex?_canonical {text : String} {color : Color} (read : ofHex? text = some color) :
    (∃ digits : List Char, color.toHex = String.ofList ('#' :: digits) ∧ digits.length = 6 ∧
      ∀ digit ∈ digits, digit ∈ lowerDigits) ∧
    ofHex? color.toHex = some color ∧
    color.a = 1 ∧
    (color.isWhite = true ↔ color.toHex = "#ffffff") ∧
    (∃ code, Spells code text) ∧
    ∀ code, Spells code text →
      (∀ other same, Spells other same → other.map Char.toLower = code.map Char.toLower →
        ofHex? same = some color) ∧
      ∀ x y z long, code = [x, y, z] → Spells [x, x, y, y, z, z] long →
        ofHex? long = some color := by
  obtain ⟨code, r, g, b, spells, known, rfl⟩ := spells_of_ofHex? read
  obtain ⟨_, red, green, blue⟩ := codeBytes?_spec known
  refine ⟨⟨bytesHex r g b, toHex_ofBytes red green blue, rfl, bytesHex_digits red green blue⟩,
    ofHex?_toHex red green blue, rfl, isWhite_ofBytes red green blue, ⟨code, spells⟩, ?_⟩
  intro code spells
  rw [spells.ofHex?_eq] at read
  refine ⟨fun other same spelled cased => ?_, ?_⟩
  · rw [spelled.ofHex?_eq, ← codeBytes?_map_toLower, cased, codeBytes?_map_toLower, read]
  · rintro x y z long rfl spelled
    obtain ⟨bytes, single, made⟩ := Option.map_eq_some_iff.mp read
    rw [spelled.ofHex?_eq, codeBytes?_double single, Option.map_some, made]

/-- A code of three digits in mixed case between blanks, in capitals without its number sign, and
with each digit doubled. -/
theorem ofHex?_canonical_short :
    let color := ofBytes 255 170 0
    ofHex? "\t #Fa0\n" = some color ∧ color.toHex = "#ffaa00" ∧ ofHex? "#ffaa00" = some color ∧
      color.isWhite = false ∧ ofHex? "FA0" = some color ∧ ofHex? "#FFaa00" = some color := by
  intro color
  have read : ofHex? "\t #Fa0\n" = some color := by decide +kernel
  have written : color.toHex = "#ffaa00" := by decide +kernel
  have plain : ∀ c ∈ ['F', 'a', '0', 'A'], Plain c := by
    simp only [List.forall_mem_cons]
    exact ⟨⟨rfl, by decide⟩, ⟨rfl, by decide⟩, ⟨rfl, by decide⟩, ⟨rfl, by decide⟩,
      List.forall_mem_nil _⟩
  have blank : AllBlank ['\t', ' '] ∧ AllBlank ['\n'] ∧ AllBlank [] := by
    simp only [AllBlank, List.forall_mem_cons]
    exact ⟨⟨rfl, rfl, List.forall_mem_nil _⟩, ⟨rfl, List.forall_mem_nil _⟩, List.forall_mem_nil _⟩
  have spells {code mark before behind : List Char} {text : String}
      (listed : code ⊆ ['F', 'a', '0', 'A']) (sign : mark = [] ∨ mark = ['#'])
      (front : AllBlank before) (back : AllBlank behind)
      (chars : text.toList = before ++ (mark ++ code ++ behind)) : Spells code text :=
    ⟨fun c inside => plain c (listed inside), before, mark, behind, front, back, sign, chars⟩
  obtain ⟨_, again, _, white, _, same⟩ := ofHex?_canonical read
  obtain ⟨cased, doubled⟩ := same ['F', 'a', '0']
    (spells (by simp) (.inr rfl) blank.1 blank.2.1 (by decide))
  refine ⟨read, written, written ▸ again, ?_, ?_, ?_⟩
  · rw [Bool.eq_false_iff, Ne, white, written]
    decide
  · exact cased ['F', 'A', '0'] "FA0"
      (spells (by simp) (.inl rfl) blank.2.2 blank.2.2 (by decide)) (by decide)
  · exact doubled 'F' 'a' '0' "#FFaa00" rfl
      (spells (by simp) (.inr rfl) blank.2.2 blank.2.2 (by decide))

end Wireframe.Color
