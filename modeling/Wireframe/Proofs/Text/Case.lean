import Mathlib
import Wireframe.Color.Basic

namespace Wireframe

namespace Text

/-- The function does not see the case of ASCII letters. -/
def Blind {α : Type} (f : String → α) : Prop := ∀ s, f (lower s) = f s

theorem Blind.congr {α : Type} {f : String → α} (blind : Blind f) {s t : String}
    (fold : lower s = lower t) : f s = f t := by
  rw [← blind s, fold, blind t]

theorem toLower_of_le {c : Char} (beyond : 128 ≤ c.toNat) : c.toLower = c := by
  apply Char.toLower_eq_of_not_isUpper
  intro upper
  rw [Char.isUpper, decide_eq_true_eq] at upper
  have last : c.toNat ≤ 90 := UInt32.le_iff_toNat_le.mp upper.2
  omega

/-- What holds of the ASCII characters in lower case holds of all. -/
theorem toLower_blind {α : Type} {f : Char → α}
    (ascii : ∀ n < 128, f (Char.ofNat n).toLower = f (Char.ofNat n)) (c : Char) :
    f c.toLower = f c := by
  rcases Nat.lt_or_ge c.toNat 128 with low | beyond
  · simpa using ascii c.toNat low
  · rw [toLower_of_le beyond]

theorem isBlank_toLower (c : Char) : isBlank c.toLower = isBlank c :=
  toLower_blind (by decide) c

theorem toList_lower (s : String) : (lower s).toList = s.toList.map Char.toLower :=
  String.toList_map

theorem lower_congr {s t : String}
    (fold : s.toList.map Char.toLower = t.toList.map Char.toLower) : lower s = lower t := by
  apply String.toList_inj.mp
  rw [toList_lower, toList_lower, fold]

theorem trimChars_map_toLower (cs : List Char) :
    trimChars (cs.map Char.toLower) = (trimChars cs).map Char.toLower := by
  have blank : isBlank ∘ Char.toLower = isBlank := funext isBlank_toLower
  simp only [trimChars, dropEndWhile, List.dropWhile_map, blank, ← List.map_reverse]

@[simp] theorem upper_lower (s : String) : upper (lower s) = upper s := by
  apply String.toList_inj.mp
  simp [upper, lower, String.toList_map]

@[simp] theorem lower_lower (s : String) : lower (lower s) = lower s := by
  apply String.toList_inj.mp
  simp [lower, String.toList_map]

@[simp] theorem trim_lower (s : String) : trim (lower s) = lower (trim s) := by
  apply String.toList_inj.mp
  simp only [trim, toList_lower, String.toList_ofList, trimChars_map_toLower]

end Text

namespace Color

open Text

theorem hexDigit?_toLower (c : Char) : hexDigit? c.toLower = hexDigit? c :=
  toLower_blind (by decide) c

theorem hexPair?_toLower (high low : Char) :
    hexPair? high.toLower low.toLower = hexPair? high low := by
  have plus : decide (high.toLower = '+') = decide (high = '+') :=
    toLower_blind (f := fun c => decide (c = '+')) (by decide) high
  simp only [hexPair?, decide_eq_decide.mp plus, hexDigit?_toLower]

theorem codeBytes?_map_toLower (cs : List Char) :
    codeBytes? (cs.map Char.toLower) = codeBytes? cs := by
  match cs with
  | [] | [_] | [_, _] | [_, _, _, _] | [_, _, _, _, _] | _ :: _ :: _ :: _ :: _ :: _ :: _ :: _ => rfl
  | [r, g, b] => simp [codeBytes?, hexDigit?_toLower]
  | [r, r', g, g', b, b'] => simp [codeBytes?, hexPair?_toLower]

theorem ofHex?_blind : Blind ofHex? := by
  intro s
  simp only [ofHex?, toList_lower, trimChars_map_toLower]
  cases trimChars s.toList with
  | nil => rfl
  | cons first rest =>
      have sign : decide (first.toLower = '#') = decide (first = '#') :=
        toLower_blind (f := fun c => decide (c = '#')) (by decide) first
      by_cases marked : first = '#'
      · subst marked
        exact congrArg (Option.map _) (codeBytes?_map_toLower rest)
      · have unmarked : first.toLower ≠ '#' := (decide_eq_decide.mp sign).not.mpr marked
        have same := codeBytes?_map_toLower (first :: rest)
        rw [List.map_cons] at same ⊢
        split
        · rename_i equal
          exact absurd (List.cons.inj equal).1 unmarked
        · split
          · rename_i equal
            exact absurd (List.cons.inj equal).1 marked
          · rw [same]

theorem ofKeyword?_blind : Blind ofKeyword? := by
  intro s
  simp [ofKeyword?]

end Color

end Wireframe
