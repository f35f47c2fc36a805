import Mathlib.Data.List.Basic
import Mathlib.Data.List.Find
import Wireframe.Font

namespace Wireframe.Font

variable {fonts : FontProvider} {families : List String} {style : FontStyle} {font : FontName}

theorem idxOf_le_of_find? {α : Type} [DecidableEq α] {p : α → Bool} {list : List α}
    {found other : α} (first : list.find? p = some found) (fits : p other = true) :
    list.idxOf found ≤ list.idxOf other := by
  obtain ⟨usable, before, after, rfl, refused⟩ := List.find?_eq_some_iff_append.mp first
  have behind {x : α} (good : p x = true) : x ∉ before := by
    intro listed
    simpa [good] using refused x listed
  rw [List.idxOf_append_of_notMem (behind usable), List.idxOf_append_of_notMem (behind fits),
    List.idxOf_cons_self]
  exact Nat.le_add_right _ _

theorem mem_candidates {family : String} :
    font ∈ candidates style family ↔ font = ⟨family, style⟩ ∨ font = ⟨family, .regular⟩ := by
  unfold candidates
  split
  · rename_i regular
    rw [List.mem_singleton, regular, or_self]
  · exact List.mem_pair

theorem find?_candidates (family : String) :
    (candidates style family).find? fonts =
      if fonts ⟨family, style⟩ then some ⟨family, style⟩
      else if fonts ⟨family, .regular⟩ then some ⟨family, .regular⟩
      else none := by
  unfold candidates
  split
  · rename_i regular
    rw [List.find?_singleton, regular]
    split
    · rfl
    · rfl
  · rw [List.find?_cons, List.find?_singleton]
    cases fonts ⟨family, style⟩ <;> rfl

theorem mem_chain :
    font ∈ chain families style ↔
      ∃ family ∈ families, font = ⟨family, style⟩ ∨ font = ⟨family, .regular⟩ :=
  List.mem_flatMap.trans
    (exists_congr fun _ => and_congr_right fun _ => mem_candidates)

theorem family_of_chain (tried : font ∈ chain families style) : font.family ∈ families := by
  obtain ⟨family, listed, rfl | rfl⟩ := mem_chain.mp tried
  · exact listed
  · exact listed

/-- A family that was tried before has nothing that was not. -/
theorem find?_chain_repeated {before after : List String} {family : String}
    (repeated : family ∈ before) :
    (chain (before ++ family :: after) style).find? fonts =
      (chain (before ++ after) style).find? fonts := by
  simp only [chain, List.flatMap_append, List.flatMap_cons, List.find?_append]
  cases first : (before.flatMap (candidates style)).find? fonts with
  | some font => rfl
  | none =>
      have again : (candidates style family).find? fonts = none := by
        apply List.find?_eq_none.mpr
        intro font candidate
        exact List.find?_eq_none.mp first font (List.mem_flatMap.mpr ⟨family, repeated, candidate⟩)
      rw [again]
      rfl

theorem resolve_congr {others : FontProvider} {listed : List String}
    (found : (chain listed style).find? others = (chain families style).find? fonts)
    (head : listed.head? = families.head?) :
    resolve others listed style = resolve fonts families style := by
  unfold resolve
  rw [found]
  cases (chain families style).find? fonts with
  | some font => rfl
  | none =>
      cases families with
      | nil => rw [List.head?_eq_none_iff.mp head]
      | cons first rest =>
          obtain ⟨others, rfl⟩ := List.head?_eq_some_iff.mp head
          rfl

theorem resolve_eq_ok_iff :
    resolve fonts families style = .ok font ↔ (chain families style).find? fonts = some font := by
  unfold resolve
  cases (chain families style).find? fonts with
  | some first => simp
  | none => simp

theorem resolves_iff :
    (∃ font, resolve fonts families style = .ok font) ↔
      ∃ family ∈ families, fonts ⟨family, style⟩ = true ∨ fonts ⟨family, .regular⟩ = true := by
  have found : (∃ font, resolve fonts families style = .ok font) ↔
      ∃ font ∈ chain families style, fonts font = true := by
    simp only [resolve_eq_ok_iff, ← Option.isSome_iff_exists, List.find?_isSome]
  rw [found]
  constructor
  · rintro ⟨font, tried, usable⟩
    obtain ⟨family, listed, rfl | rfl⟩ := mem_chain.mp tried
    · exact ⟨family, listed, .inl usable⟩
    · exact ⟨family, listed, .inr usable⟩
  · rintro ⟨family, listed, usable | usable⟩
    · exact ⟨_, mem_chain.mpr ⟨family, listed, .inl rfl⟩, usable⟩
    · exact ⟨_, mem_chain.mpr ⟨family, listed, .inr rfl⟩, usable⟩

/-- The face is that of the first family that has one of both: the style if it has that. -/
theorem resolve_first_family :
    resolve fonts families style = .ok font ↔
      ∃ before family after, families = before ++ family :: after ∧
        (fonts font = true ∧
          (font = ⟨family, style⟩ ∨ fonts ⟨family, style⟩ = false ∧ font = ⟨family, .regular⟩)) ∧
        ∀ other ∈ before, fonts ⟨other, style⟩ = false ∧ fonts ⟨other, .regular⟩ = false := by
  have gives (family : String) : (candidates style family).find? fonts = some font ↔
      fonts font = true ∧
        (font = ⟨family, style⟩ ∨ fonts ⟨family, style⟩ = false ∧ font = ⟨family, .regular⟩) := by
    rw [find?_candidates]
    grind
  have refuses (family : String) : (candidates style family).find? fonts = none ↔
      fonts ⟨family, style⟩ = false ∧ fonts ⟨family, .regular⟩ = false := by
    rw [find?_candidates]
    grind
  rw [resolve_eq_ok_iff, chain, List.find?_flatMap, List.findSome?_eq_some_iff]
  simp only [gives, refuses]

theorem resolve_of_regular (regular : ∃ family ∈ families, fonts ⟨family, .regular⟩ = true)
    (style : FontStyle) : ∃ font, resolve fonts families style = .ok font := by
  obtain ⟨family, listed, usable⟩ := regular
  exact resolves_iff.mpr ⟨family, listed, .inr usable⟩

/-- With more faces the one that is found stands no further back. -/
theorem resolve_mono {more : FontProvider} (grown : ∀ font, fonts font = true → more font = true)
    (resolved : resolve fonts families style = .ok font) :
    ∃ earlier, resolve more families style = .ok earlier ∧
      (chain families style).idxOf earlier ≤ (chain families style).idxOf font := by
  have first := resolve_eq_ok_iff.mp resolved
  have usable : more font = true := grown font (List.find?_some first)
  have found : ((chain families style).find? more).isSome :=
    List.find?_isSome.mpr ⟨font, List.mem_of_find?_eq_some first, usable⟩
  obtain ⟨earlier, sooner⟩ := Option.isSome_iff_exists.mp found
  exact ⟨earlier, resolve_eq_ok_iff.mpr sooner, idxOf_le_of_find? sooner usable⟩

/-- A style has a face if and only if some family has it or its regular face, so that with a regular
face all styles have one. The face is that of the first such family, the style before the regular
one. Only the faces of the chain count, and each family only once. More faces take none away, and
with them the face that is found stands no further back in the chain. If there is none, the message
names the style and the first family, if there are families. -/
theorem chain_resolves (fonts : FontProvider) (families : List String) (style : FontStyle) :
    ((∃ font, resolve fonts families style = .ok font) ↔
      ∃ family ∈ families, fonts ⟨family, style⟩ = true ∨ fonts ⟨family, .regular⟩ = true) ∧
    ((∃ family ∈ families, fonts ⟨family, .regular⟩ = true) →
      ∀ other, ∃ font, resolve fonts families other = .ok font) ∧
    (∀ font, resolve fonts families style = .ok font ↔
      ∃ before family after, families = before ++ family :: after ∧
        (fonts font = true ∧
          (font = ⟨family, style⟩ ∨ fonts ⟨family, style⟩ = false ∧ font = ⟨family, .regular⟩)) ∧
        ∀ other ∈ before, fonts ⟨other, style⟩ = false ∧ fonts ⟨other, .regular⟩ = false) ∧
    (∀ others : FontProvider, (∀ font ∈ chain families style, others font = fonts font) →
      resolve others families style = resolve fonts families style) ∧
    (∀ before family after, families = before ++ family :: after → family ∈ before →
      resolve fonts (before ++ after) style = resolve fonts families style) ∧
    (∀ more : FontProvider, (∀ font, fonts font = true → more font = true) →
      ∀ font, resolve fonts families style = .ok font →
        ∃ earlier, resolve more families style = .ok earlier ∧
          (chain families style).idxOf earlier ≤ (chain families style).idxOf font) ∧
    ∀ reason, resolve fonts families style = .error reason →
      (∀ first rest, families = first :: rest → reason.message =
        "could not load any font for \"" ++ (first ++ " " ++ style.word) ++ "\"") ∧
      (families = [] →
        reason.message = "could not load any font for \"" ++ style.word ++ "\"") := by
  refine ⟨resolves_iff, resolve_of_regular, fun _ => resolve_first_family, ?_, ?_,
    fun _ grown _ => resolve_mono grown, ?_⟩
  · intro others agree
    exact resolve_congr (List.find?_congr agree) rfl
  · rintro before family after rfl repeated
    obtain ⟨first, rest, rfl⟩ := List.exists_cons_of_ne_nil (List.ne_nil_of_mem repeated)
    exact resolve_congr (find?_chain_repeated repeated).symm rfl
  · intro reason failed
    unfold resolve at failed
    split at failed
    · cases failed
    · cases failed
      constructor
      · rintro first rest rfl
        rfl
      · rintro rfl
        rfl

example :
    let fonts := ofFaces [⟨"Inter", .regular⟩, ⟨"Arial", .bold⟩]
    resolve fonts ["Inter", "Arial"] .bold = .ok ⟨"Inter", .regular⟩ := by
  decide

end Wireframe.Font
