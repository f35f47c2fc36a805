import Wireframe.Config
import Wireframe.Proofs.Text.Case
import Wireframe.Proofs.Text.Trim

namespace Wireframe

open Text (lower trim)

namespace Swatch

/-- A keyword of the swatch occurs in a name without the blanks at its ends, whatever the case of
the letters of both. -/
def Fits (swatch : Swatch) (name : String) : Prop :=
  ∃ keyword ∈ swatch.keywords, (lower keyword).toList <:+: (lower (trim name)).toList

/-- Such a keyword occurs, and it is spelled in lower case. -/
def Answers (swatch : Swatch) (name : String) : Prop :=
  ∃ keyword ∈ swatch.keywords,
    lower keyword = keyword ∧ (lower keyword).toList <:+: (lower (trim name)).toList

theorem answers_iff {swatch : Swatch} {name : String} :
    swatch.keywords.any (Text.contains (lower (trim name))) = true ↔ swatch.Answers name := by
  rw [List.any_eq_true]
  refine exists_congr fun keyword => and_congr_right fun _ => ?_
  rw [Text.contains_iff]
  constructor
  · intro occurs
    have spelled : lower keyword = keyword := by
      apply String.toList_inj.mp
      rw [Text.toList_lower]
      refine (List.map_congr_left fun c inside => ?_).trans (List.map_id _)
      have within := occurs.subset inside
      rw [Text.toList_lower] at within
      obtain ⟨other, _, rfl⟩ := List.mem_map.mp within
      simp
    exact ⟨spelled, spelled.symm ▸ occurs⟩
  · rintro ⟨spelled, occurs⟩
    exact spelled ▸ occurs

theorem answers_iff_fits {swatch : Swatch} (spelled : ∀ keyword ∈ swatch.keywords,
    lower keyword = keyword) (name : String) : swatch.Answers name ↔ swatch.Fits name :=
  exists_congr fun keyword => and_congr_right fun listed =>
    and_iff_right (spelled keyword listed)

end Swatch

namespace Config

theorem find?_first {α : Type} {p : α → Bool} {before : List α} {found : α}
    (none : ∀ other ∈ before, ¬ p other = true) (fits : p found = true) (after : List α) :
    (before ++ found :: after).find? p = some found :=
  List.find?_eq_some_iff_append.mpr ⟨fits, before, after, rfl, by simpa using none⟩

/-- The first swatch, in their order, with a lower case keyword in the name gives its color and
whether that is light. If no swatch has one, the color is that of the name as a CSS keyword, else as
a hexadecimal code, else the default, and it is not light. -/
theorem swatch_first (config : Config) (name : String) :
    (∀ before swatch after, config.swatches = before ++ swatch :: after →
      (∀ other ∈ before, ¬ other.Answers name) → swatch.Answers name →
      config.swatchColor name = (swatch.color, swatch.light)) ∧
    ((∀ swatch ∈ config.swatches, ¬ swatch.Answers name) →
      config.swatchColor name =
        (((Color.ofKeyword? name).or (Color.ofHex? name)).getD config.palette.swatchDefault,
          false)) ∧
    ((∀ swatch ∈ config.swatches, ∀ keyword ∈ swatch.keywords, lower keyword = keyword) →
      ∀ swatch ∈ config.swatches, swatch.Answers name ↔ swatch.Fits name) := by
  refine ⟨?_, ?_, fun spelled swatch listed => Swatch.answers_iff_fits (spelled swatch listed) name⟩
  · intro before swatch after split none answers
    have found := find?_first (fun other listed => mt Swatch.answers_iff.mp (none other listed))
      (Swatch.answers_iff.mpr answers) after
    rw [swatchColor, split, found]
  · intro none
    have missed : config.swatches.find?
        (fun swatch => swatch.keywords.any (Text.contains (lower (trim name)))) = Option.none :=
      List.find?_eq_none.mpr fun swatch listed => mt Swatch.answers_iff.mp (none swatch listed)
    have keyword : Color.ofKeyword? (lower (trim name)) = Color.ofKeyword? name := by
      rw [Color.ofKeyword?_blind, Color.ofKeyword?, Color.ofKeyword?, Text.trim_trim]
    have code : Color.ofHex? (lower (trim name)) = Color.ofHex? name := by
      rw [Color.ofHex?_blind, Color.ofHex?, Color.ofHex?, Text.trimChars_trim]
    rw [swatchColor, missed, keyword, code]

/-- A swatch with a capital letter in its keyword is not chosen, even under that very name. -/
theorem swatch_capital :
    let swatch : Swatch := ⟨["Red"], .rgb 0.5 0.25 0.125, true⟩
    let config : Config := { standard with swatches := [swatch] }
    swatch.Fits "Red" ∧ config.swatchColor "Red" = (.rgb 1 0 0, false) := by
  refine ⟨⟨"Red", List.mem_singleton_self _, ?_⟩, by decide +kernel⟩
  have same : trim "Red" = "Red" := by decide +kernel
  rw [same]

end Config

namespace Device

def Begins (device : Device) (requested : String) : Prop :=
  (lower device.name).toList <+: (lower (trim requested)).toList

theorem begins_iff {device : Device} {requested : String} :
    Text.startsWith (lower (trim requested)) (lower device.name) = true ↔
      device.Begins requested :=
  Text.startsWith_iff

end Device

namespace Config

theorem device_cases (config : Config) (requested : String) :
    (config.devices = [] → config.device requested = ⟨"Mobile", ⟨375, 812⟩⟩) ∧
    ∀ first others, config.devices = first :: others →
      ((∀ other ∈ others, ¬ other.Begins requested) → config.device requested = first) ∧
      ∀ before device after, others = before ++ device :: after →
        (∀ other ∈ before, ¬ other.Begins requested) → device.Begins requested →
        config.device requested = device := by
  refine ⟨fun none => ?_, fun first others split => ⟨fun none => ?_, ?_⟩⟩
  · rw [device, none]
    rfl
  · have missed : others.find?
        (fun device => Text.startsWith (lower (trim requested)) (lower device.name)) =
          Option.none :=
      List.find?_eq_none.mpr fun other listed => mt Device.begins_iff.mp (none other listed)
    rw [device, split, List.drop_one, List.tail_cons, missed]
    rfl
  · rintro before device after rfl none begins
    have found := find?_first (fun other listed => mt Device.begins_iff.mp (none other listed))
      (Device.begins_iff.mpr begins) after
    rw [Config.device, split, List.drop_one, List.tail_cons, found]
    rfl

/-- The device is the earliest class whose name begins the request, and if there is none the first
class, or a mobile one if there are no classes. When the first class is that earliest one and a
later one begins the request too, the earliest of the later ones is taken in its place. -/
theorem device_earliest (config : Config) (requested : String) :
    (∀ before device after, config.devices = before ++ device :: after →
      (∀ other ∈ before, ¬ other.Begins requested) → device.Begins requested →
      (before = [] → ∀ other ∈ after, ¬ other.Begins requested) →
      config.device requested = device) ∧
    ((∀ device ∈ config.devices, ¬ device.Begins requested) →
      config.device requested = config.devices.head?.getD ⟨"Mobile", ⟨375, 812⟩⟩) ∧
    (∀ first before device after, config.devices = first :: (before ++ device :: after) →
      first.Begins requested → (∀ other ∈ before, ¬ other.Begins requested) →
      device.Begins requested → config.device requested = device) := by
  obtain ⟨empty, others⟩ := device_cases config requested
  refine ⟨?_, ?_, ?_⟩
  · intro before device after split none begins alone
    cases before with
    | nil => exact (others device after split).1 (alone rfl)
    | cons first before =>
        exact (others first _ split).2 before device after rfl
          (fun other listed => none other (List.mem_cons_of_mem _ listed)) begins
  · intro none
    cases split : config.devices with
    | nil => exact empty split
    | cons first rest =>
        rw [split] at none
        exact (others first rest split).1
          fun other listed => none other (List.mem_cons_of_mem _ listed)
  · intro first before device after split _ none begins
    exact (others first _ split).2 before device after rfl none begins

/-- A request for the first class by its full name, which gives a later and more general one. -/
theorem device_general :
    let first : Device := ⟨"Tablet Pro", ⟨1024, 1366⟩⟩
    let second : Device := ⟨"Tablet", ⟨768, 1024⟩⟩
    let config : Config := { standard with devices := [first, second] }
    first.Begins "Tablet Pro" ∧ config.device "Tablet Pro" = second := by
  refine ⟨?_, by decide +kernel⟩
  have same : trim "Tablet Pro" = "Tablet Pro" := by decide +kernel
  rw [Device.Begins, same]

end Config

end Wireframe
