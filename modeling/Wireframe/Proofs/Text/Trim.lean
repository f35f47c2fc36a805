import Wireframe.Text.Blank
import Mathlib.Data.List.TakeWhile

namespace Wireframe.Text

def AllBlank (cs : List Char) : Prop := ∀ c ∈ cs, isBlank c = true

structure Tight (cs : List Char) : Prop where
  first : ∀ c ∈ cs.head?, isBlank c = false
  last : ∀ c ∈ cs.getLast?, isBlank c = false

section

variable {p : Char → Bool}

theorem dropWhile_exact {before rest : List Char} (inside : ∀ c ∈ before, p c = true)
    (stops : ∀ c ∈ rest.head?, p c = false) : (before ++ rest).dropWhile p = rest := by
  rw [List.dropWhile_append_of_pos inside]
  cases rest with
  | nil => rfl
  | cons c cs => rw [List.dropWhile_cons_of_neg (by simp [stops c rfl])]

theorem dropEndWhile_exact {cs behind : List Char} (inside : ∀ c ∈ behind, p c = true)
    (stops : ∀ c ∈ cs.getLast?, p c = false) : dropEndWhile p (cs ++ behind) = cs := by
  have turned : (behind.reverse ++ cs.reverse).dropWhile p = cs.reverse :=
    dropWhile_exact (fun c listed => inside c (List.mem_reverse.mp listed))
      (by rwa [List.head?_reverse])
  rw [dropEndWhile, List.reverse_append, turned, List.reverse_reverse]

/-- What `dropEndWhile` leaves, with what it drops. -/
theorem dropEndWhile_split (p : Char → Bool) (cs : List Char) :
    ∃ behind, (∀ c ∈ behind, p c = true) ∧ cs = dropEndWhile p cs ++ behind ∧
      ∀ c ∈ (dropEndWhile p cs).getLast?, p c = false := by
  refine ⟨(cs.reverse.takeWhile p).reverse, ?_, ?_, ?_⟩
  · intro c listed
    exact List.mem_takeWhile_imp (List.mem_reverse.mp listed)
  · rw [dropEndWhile, ← List.reverse_append, List.takeWhile_append_dropWhile,
      List.reverse_reverse]
  · intro c listed
    rw [dropEndWhile, List.getLast?_reverse] at listed
    have stops := List.head?_dropWhile_not p cs.reverse
    rw [Option.mem_def.mp listed] at stops
    exact stops

end

theorem trimChars_between {before cs behind : List Char} (blankBefore : AllBlank before)
    (blankBehind : AllBlank behind) (tight : Tight cs) (some : cs ≠ []) :
    trimChars (before ++ (cs ++ behind)) = cs := by
  have stops : ∀ c ∈ (cs ++ behind).head?, isBlank c = false := by
    rw [List.head?_append, Option.or_of_isSome (List.isSome_head?.mpr some)]
    exact tight.first
  rw [trimChars, dropWhile_exact blankBefore stops, dropEndWhile_exact blankBehind tight.last]

theorem trimChars_of_tight {cs : List Char} (tight : Tight cs) : trimChars cs = cs := by
  have front : cs.dropWhile isBlank = cs := dropWhile_exact (List.forall_mem_nil _) tight.first
  have back := dropEndWhile_exact (List.forall_mem_nil _) tight.last
  rw [List.append_nil] at back
  rw [trimChars, front, back]

theorem trimChars_split (cs : List Char) :
    ∃ before behind, AllBlank before ∧ AllBlank behind ∧
      cs = before ++ (trimChars cs ++ behind) ∧ Tight (trimChars cs) := by
  obtain ⟨behind, blankBehind, split, last⟩ := dropEndWhile_split isBlank (cs.dropWhile isBlank)
  refine ⟨cs.takeWhile isBlank, behind, fun c listed => List.mem_takeWhile_imp listed,
    blankBehind, ?_, ?_, last⟩
  · rw [trimChars, ← split, List.takeWhile_append_dropWhile]
  · intro c listed
    have starts : (cs.dropWhile isBlank).head? = some c := by
      have first : (dropEndWhile isBlank (cs.dropWhile isBlank)).head? = some c := listed
      rw [split, List.head?_append, first, Option.some_or]
    have stops := List.head?_dropWhile_not isBlank cs
    rw [starts] at stops
    exact stops

theorem trimChars_first {before : List Char} (blank : AllBlank before) {c : Char}
    (other : isBlank c = false) (rest : List Char) :
    ∃ others, trimChars (before ++ c :: rest) = c :: others := by
  have stops : ∀ first ∈ (c :: rest).head?, isBlank first = false := by
    rintro first ⟨⟩
    exact other
  obtain ⟨behind, inside, split, _⟩ := dropEndWhile_split isBlank (c :: rest)
  rw [trimChars, dropWhile_exact blank stops]
  cases trimmed : dropEndWhile isBlank (c :: rest) with
  | nil =>
      rw [trimmed, List.nil_append] at split
      have blank := inside c (split ▸ List.mem_cons_self)
      exact absurd (other.symm.trans blank) Bool.false_ne_true
  | cons first others =>
      rw [trimmed, List.cons_append] at split
      exact ⟨others, congrArg (· :: others) (List.cons.inj split).1.symm⟩

theorem trim_split (s : String) :
    ∃ front back : String, AllBlank front.toList ∧ AllBlank back.toList ∧
      s = front ++ trim s ++ back ∧ Tight (trim s).toList := by
  obtain ⟨before, behind, blankBefore, blankBehind, split, tight⟩ := trimChars_split s.toList
  refine ⟨String.ofList before, String.ofList behind, ?_, ?_, ?_, ?_⟩
  · rwa [String.toList_ofList]
  · rwa [String.toList_ofList]
  · rw [← String.toList_inj, split]
    simp [trim]
  · rwa [trim, String.toList_ofList]

theorem trim_of_tight {s : String} (tight : Tight s.toList) : trim s = s := by
  rw [trim, trimChars_of_tight tight, String.ofList_toList]

theorem trimChars_trim (s : String) : trimChars (trim s).toList = trimChars s.toList := by
  obtain ⟨_, _, _, _, _, tight⟩ := trimChars_split s.toList
  rw [trim, String.toList_ofList, trimChars_of_tight tight]

@[simp] theorem trim_trim (s : String) : trim (trim s) = trim s :=
  congrArg String.ofList (trimChars_trim s)

theorem after?_append (start rest : List Char) : after? start (start ++ rest) = some rest := by
  induction start with
  | nil => rfl
  | cons c cs ih => rw [List.cons_append, after?, if_pos rfl, ih]

theorem after?_eq_none {start cs : List Char} (apart : ¬ start <+: cs) :
    after? start cs = none := by
  induction start generalizing cs with
  | nil => exact absurd (List.nil_prefix) apart
  | cons p ps ih =>
      cases cs with
      | nil => rfl
      | cons c cs =>
          rw [after?]
          split
          · rename_i same
            exact ih fun starts => apart (same ▸ List.cons_prefix_cons.mpr ⟨rfl, starts⟩)
          · rfl

theorem startsWith_iff {s start : String} :
    startsWith s start = true ↔ start.toList <+: s.toList := by
  rw [startsWith]
  constructor
  · intro found
    by_contra apart
    rw [after?_eq_none apart] at found
    cases found
  · rintro ⟨rest, same⟩
    rw [← same, after?_append, Option.isSome_some]

theorem occursIn_iff {part cs : List Char} : occursIn part cs = true ↔ part <:+: cs := by
  induction cs with
  | nil => rw [occursIn, List.isEmpty_iff, List.infix_nil]
  | cons c cs ih =>
      have starts : (after? part (c :: cs)).isSome = true ↔ part <+: c :: cs := by
        simpa [startsWith] using @startsWith_iff (String.ofList (c :: cs)) (String.ofList part)
      rw [occursIn, Bool.or_eq_true, starts, ih, List.infix_cons_iff]

theorem contains_iff {s part : String} : contains s part = true ↔ part.toList <:+: s.toList :=
  occursIn_iff

/-- What follows cannot complete a start if its first letter is none of it. -/
theorem prefix_of_append {start cs rest : List Char} (starts : start <+: cs ++ rest)
    (apart : ∀ c ∈ rest.head?, c ∉ start) : start <+: cs := by
  obtain ⟨others, same⟩ := starts
  rcases List.append_eq_append_iff.mp same with ⟨within, rfl, _⟩ | ⟨missing, rfl, rfl⟩
  · exact List.prefix_append start within
  · cases missing with
    | nil => simp
    | cons c more => exact absurd (by simp) (apart c rfl)

end Wireframe.Text
