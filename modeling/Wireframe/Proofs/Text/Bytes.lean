import Mathlib.Data.String.Basic
import Mathlib.Tactic.SplitIfs

namespace Wireframe.Text

def bytes (s : String) : List UInt8 := s.toUTF8.data.toList

theorem bytes_eq (s : String) : bytes s = s.toList.flatMap String.utf8EncodeChar := by
  rw [bytes, String.toUTF8_eq_toByteArray, ← String.ofList_toList (s := s),
    String.toByteArray_ofList, List.utf8Encode, List.toList_data_toByteArray, String.toList_ofList]

theorem utf8EncodeChar_lt {first second : Char} (below : first < second)
    (rest others : List UInt8) :
    String.utf8EncodeChar first ++ rest < String.utf8EncodeChar second ++ others := by
  have order : first.val.toNat < second.val.toNat := UInt32.lt_iff_toNat_lt.mp below
  have bound : second.val.toNat < 0x110000 := by
    rcases second.valid with low | high
    · exact low.trans (by decide)
    · exact high.2
  -- Six bits at a time, as the bytes behind the first one take them.
  have regroup (n : Nat) : n / 64 / 64 = n / 4096 ∧ n / 4096 / 64 = n / 262144 := by
    simp only [Nat.div_div_eq_div_mul, and_self]
  have lower := regroup first.val.toNat
  have higher := regroup second.val.toNat
  unfold String.utf8EncodeChar
  dsimp only
  split_ifs <;>
    simp (disch := omega) only [List.cons_append, List.nil_append, List.cons_lt_cons_iff,
      UInt8.lt_iff_toNat_lt, ← UInt8.toNat_inj, UInt8.toNat_ofNat', Nat.mod_eq_of_lt] <;>
    omega

theorem flatMap_utf8EncodeChar_lt {first second : List Char} (below : first < second) :
    first.flatMap String.utf8EncodeChar < second.flatMap String.utf8EncodeChar := by
  have chars : List.Lex (· < ·) first second := below
  induction chars with
  | @nil c cs =>
      rw [List.flatMap_nil, List.flatMap_cons]
      cases bytes : String.utf8EncodeChar c with
      | nil => exact absurd bytes String.utf8EncodeChar_ne_nil
      | cons byte rest => exact List.nil_lt_cons _ _
  | cons later ih => exact List.append_left_lt (ih later)
  | rel differs => exact utf8EncodeChar_lt differs _ _

theorem bytes_lt {first second : String} (below : first < second) :
    bytes first < bytes second := by
  rw [bytes_eq, bytes_eq]
  exact flatMap_utf8EncodeChar_lt (String.lt_iff_toList_lt.mp below)

end Wireframe.Text
