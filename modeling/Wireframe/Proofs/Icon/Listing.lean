import Wireframe.Proofs.Icon.Registry
import Wireframe.Proofs.Text.Bytes
import Wireframe.Proofs.Text.Case
import Wireframe.Proofs.Text.Trim

namespace Wireframe.Icon

open Text (lower trim)

theorem builtin_spelled :
    (builtin.all fun icon =>
      icon.1.toList.all fun c => !Text.isBlank c && c.toLower == c) = true := by
  decide +kernel

theorem builtin_folded {name : String} (listed : name ∈ builtin.map Prod.fst) :
    lower (trim name) = name := by
  obtain ⟨icon, present, rfl⟩ := List.mem_map.mp listed
  have plain : ∀ c ∈ icon.1.toList, Text.isBlank c = false ∧ c.toLower = c := by
    simpa using List.all_eq_true.mp builtin_spelled icon present
  have tight : Text.Tight icon.1.toList :=
    ⟨fun c first => (plain c (List.mem_of_mem_head? first)).1,
      fun c last => (plain c (List.mem_of_mem_getLast? last)).1⟩
  apply String.toList_inj.mp
  rw [Text.toList_lower, trim, String.toList_ofList, Text.trimChars_of_tight tight]
  exact (List.map_congr_left fun c inside => (plain c inside).2).trans (List.map_id' _)

theorem builtin?_eq (name : String) : builtin? name = builtin.lookup (lower (trim name)) := by
  rw [builtin?]
  cases found : builtin.lookup name with
  | none => exact Option.none_or
  | some markup =>
      have listed := Table.lookup_isSome_iff.mp (Option.isSome_of_eq_some found)
      rw [builtin_folded listed, found, Option.some_or]

def markStart : String := "<svg xmlns=\"http://www.w3.org/2000/svg\" w"

theorem brand_starts {markup : String} (mark : markup ∈ brands.map Prod.snd) :
    markStart.toList <+: markup.toList := by
  simp only [brands, List.map_cons, List.map_nil, List.mem_cons, List.not_mem_nil,
    or_false] at mark
  rcases mark with rfl | rfl | rfl
  all_goals
    simp only [String.toList_append]
    repeat apply List.IsPrefix.trans _ (List.prefix_append _ _)
    decide +kernel

theorem glyph_starts (size color data : String) :
    ¬ markStart.toList <+: (glyph size color data).toList := by
  simp [glyph, Vector.attr, Vector.svgNamespace, markStart]

theorem builtin_nodup : (builtin.map Prod.fst).Nodup := by
  decide +kernel

theorem brands_apart {name : String} (mark : name ∈ brands.map Prod.fst) :
    name ∉ glyphs.map Prod.fst := by
  have nodup := builtin_nodup
  rw [builtin, List.map_append] at nodup
  exact fun glyphic => List.disjoint_of_nodup_append nodup glyphic mark

theorem mem_of_lookup {table : List (String × String)} {name markup : String}
    (found : table.lookup name = some markup) : (name, markup) ∈ table := by
  obtain ⟨before, after, split, _⟩ := List.lookup_eq_some_iff.mp found
  rw [split]
  exact List.mem_append_right _ List.mem_cons_self

/-- The name of a mark is one under which the markup of a mark is found. -/
theorem brand_iff (name : String) :
    (brands.lookup name).isSome = true ↔
      ∃ markup ∈ brands.map Prod.snd, builtin.lookup name = some markup := by
  rw [builtin, List.lookup_append]
  constructor
  · intro known
    have listed := Table.lookup_isSome_iff.mp known
    have other : glyphs.lookup name = none := by
      rw [← Option.not_isSome_iff_eq_none, Table.lookup_isSome_iff]
      exact brands_apart listed
    obtain ⟨markup, found⟩ := Option.isSome_iff_exists.mp known
    exact ⟨markup, List.mem_map_of_mem (mem_of_lookup found), by rw [other, found, Option.none_or]⟩
  · rintro ⟨markup, mark, found⟩
    cases glyphic : glyphs.lookup name with
    | none =>
        rw [glyphic, Option.none_or] at found
        exact Option.isSome_of_eq_some found
    | some other =>
        rw [glyphic, Option.some_or] at found
        cases found
        obtain ⟨drawing, _, same⟩ := List.mem_map.mp (mem_of_lookup glyphic)
        rw [← (Prod.mk.inj same).2] at mark
        exact absurd (brand_starts mark) (glyph_starts _ _ _)

namespace Registry

variable {registry : Registry} {name : String}

theorem mem_names :
    name ∈ registry.names ↔ name ∈ registry.icons.map Prod.fst ∨
      (registry.fallback = true ∧ name ∈ builtin.map Prod.fst) := by
  rw [names, Table.mem_keys_ofList, List.map_map]
  cases registry.fallback <;> simp [Function.comp_def]

theorem names_ascend (registry : Registry) : registry.names.Pairwise (· < ·) :=
  List.pairwise_map.mpr (Table.ofList_ascends _)

theorem lookup_isSome :
    (registry.lookup name).isSome = true ↔ name ∈ registry.icons.map Prod.fst ∨
      (registry.fallback = true ∧ lower (trim name) ∈ builtin.map Prod.fst) := by
  rw [← Table.lookup_isSome_iff, ← Table.lookup_isSome_iff, lookup]
  cases registry.icons.lookup name with
  | some markup => simp
  | none => cases registry.fallback <;> simp [builtin?_eq]

theorem library_names : library.names.Perm (builtin.map Prod.fst) := by
  have nodup : library.names.Nodup := (names_ascend library).imp ne_of_lt
  refine (List.perm_ext_iff_of_nodup nodup builtin_nodup).mpr fun name => ?_
  simp [mem_names, library]

theorem lookup_of_isMultiTone (tones : registry.isMultiTone name = true) :
    (registry.lookup name).isSome = true := by
  rw [isMultiTone] at tones
  rw [lookup_isSome, ← Table.lookup_isSome_iff]
  cases own : registry.icons.lookup name with
  | some markup => exact Or.inl rfl
  | none =>
      rw [own, Bool.and_eq_true] at tones
      obtain ⟨markup, _, found⟩ := (brand_iff _).mp tones.2
      exact Or.inr ⟨tones.1, Table.lookup_isSome_iff.mp (Option.isSome_of_eq_some found)⟩

/-- The answers of a registry agree, whatever filled it. An icon of several tones is found; names
are listed in ascending order of their bytes, so each once; what is listed is found; what is found
is listed, or asked of the library under another spelling. The library lists each of its icons once,
and its icons of several tones are those with the markup of a provider's mark. -/
theorem answers_agree (registry : Registry) (name : String) :
    (registry.isMultiTone name = true → (registry.lookup name).isSome = true) ∧
      registry.names.Pairwise (fun first second => Text.bytes first < Text.bytes second) ∧
      (name ∈ registry.names → (registry.lookup name).isSome = true) ∧
      ((registry.lookup name).isSome = true ↔
        name ∈ registry.names ∨
          (registry.fallback = true ∧ lower (trim name) ∈ library.names)) ∧
      library.names.Perm (builtin.map Prod.fst) ∧
      (library.isMultiTone name = true ↔
        ∃ markup ∈ brands.map Prod.snd, library.lookup name = some markup) := by
  have found : (registry.lookup name).isSome = true ↔ name ∈ registry.names ∨
      (registry.fallback = true ∧ lower (trim name) ∈ library.names) := by
    rw [lookup_isSome, mem_names, library_names.mem_iff]
    constructor
    · exact Or.imp_left Or.inl
    · rintro ((own | ⟨consulted, listed⟩) | spelled)
      · exact Or.inl own
      · exact Or.inr ⟨consulted, (builtin_folded listed).symm ▸ listed⟩
      · exact Or.inr spelled
  refine ⟨lookup_of_isMultiTone, (names_ascend registry).imp Text.bytes_lt,
    fun listed => found.mpr (Or.inl listed), found, library_names, ?_⟩
  have same : library.lookup name = builtin.lookup (lower (trim name)) := builtin?_eq name
  rw [same]
  exact brand_iff _

end Registry

end Wireframe.Icon
