import Wireframe.Config
import Wireframe.Proofs.Json.Numeral
import Wireframe.Proofs.Json.Restore

namespace Wireframe

open Json (Codec Fills chosen)

def Palette.mix (keep : String → Bool) (own base : Palette) : Palette where
  primary := if keep "primary" then own.primary else base.primary
  secondary := if keep "secondary" then own.secondary else base.secondary
  destructive := if keep "destructive" then own.destructive else base.destructive
  neutral := if keep "neutral" then own.neutral else base.neutral
  onFill := if keep "onFill" then own.onFill else base.onFill
  text := if keep "text" then own.text else base.text
  link := if keep "link" then own.link else base.link
  mutedText := if keep "mutedText" then own.mutedText else base.mutedText
  placeholderText := if keep "placeholderText" then own.placeholderText else base.placeholderText
  icon := if keep "icon" then own.icon else base.icon
  fieldIcon := if keep "fieldIcon" then own.fieldIcon else base.fieldIcon
  inputFill := if keep "inputFill" then own.inputFill else base.inputFill
  controlBorder := if keep "controlBorder" then own.controlBorder else base.controlBorder
  toggleOff := if keep "toggleOff" then own.toggleOff else base.toggleOff
  selection := if keep "selection" then own.selection else base.selection
  error := if keep "error" then own.error else base.error
  swatchDefault := if keep "swatchDefault" then own.swatchDefault else base.swatchDefault
  swatchBorder := if keep "swatchBorder" then own.swatchBorder else base.swatchBorder
  cardWhite := if keep "cardWhite" then own.cardWhite else base.cardWhite
  cardLight := if keep "cardLight" then own.cardLight else base.cardLight
  cardDark := if keep "cardDark" then own.cardDark else base.cardDark
  cardBorder := if keep "cardBorder" then own.cardBorder else base.cardBorder
  shadow := if keep "shadow" then own.shadow else base.shadow
  gradientStart := if keep "gradientStart" then own.gradientStart else base.gradientStart
  gradientEnd := if keep "gradientEnd" then own.gradientEnd else base.gradientEnd

def FrameStyle.mix (keep : String → Bool) (own base : FrameStyle) : FrameStyle where
  padding := if keep "padding" then own.padding else base.padding
  spacing := if keep "spacing" then own.spacing else base.spacing
  gap := if keep "gap" then own.gap else base.gap
  background := if keep "background" then own.background else base.background

/-- The configuration with the own fields that are kept, and the base's for the others; of the
palette and the frame style, if they are kept, with the fields of those that are. -/
def Config.mix (keep palette frame : String → Bool) (own base : Config) : Config where
  fontFamilies := if keep "fontFamilies" then own.fontFamilies else base.fontFamilies
  maxDepth := if keep "maxDepth" then own.maxDepth else base.maxDepth
  palette := if keep "palette" then own.palette.mix palette base.palette else base.palette
  social := if keep "social" then own.social else base.social
  socialFallback := if keep "socialFallback" then own.socialFallback else base.socialFallback
  swatches := if keep "swatches" then own.swatches else base.swatches
  devices := if keep "devices" then own.devices else base.devices
  frame := if keep "frame" then own.frame.mix frame base.frame else base.frame

def Color.numbers (color : Color) : List Float32 := [color.r, color.g, color.b, color.a]

def SocialStyle.numbers (style : SocialStyle) : List Float32 :=
  style.background.numbers ++ style.text.numbers ++ style.icon.numbers

def Palette.numbers (palette : Palette) : List Float32 :=
  [palette.primary, palette.secondary, palette.destructive, palette.neutral, palette.onFill,
    palette.text, palette.link, palette.mutedText, palette.placeholderText, palette.icon,
    palette.fieldIcon, palette.inputFill, palette.controlBorder, palette.toggleOff,
    palette.selection, palette.error, palette.swatchDefault, palette.swatchBorder,
    palette.cardWhite, palette.cardLight, palette.cardDark, palette.cardBorder, palette.shadow,
    palette.gradientStart, palette.gradientEnd].flatMap Color.numbers

def Device.numbers (device : Device) : List Float32 := [device.size.width, device.size.height]

def FrameStyle.numbers (style : FrameStyle) : List Float32 :=
  [style.padding, style.spacing, style.gap] ++ style.background.numbers

def Config.numbers (config : Config) : List Float32 :=
  config.palette.numbers ++ config.social.flatMap (fun entry => entry.2.numbers) ++
    config.socialFallback.numbers ++ config.swatches.flatMap (fun swatch => swatch.color.numbers) ++
    config.devices.flatMap Device.numbers ++ config.frame.numbers

def Json.Exact (x : Float32) : Prop := Codec.single.ofText (Json.single x).compact = .ok x

open Json (Number Exact)

variable {depth : Nat}

theorem Json.Exact.keeps {x : Float32} (exact : Exact x) :
    Codec.single.Keeps Number.Prints depth x := by
  obtain ⟨m, prints, same⟩ := Json.prints_single exact
  refine Codec.single_keeps prints fun k other => ?_
  rw [other.unique prints, same]

theorem Color.keeps {color : Color} (exact : ∀ x ∈ color.numbers, Exact x) :
    Color.codec.Keeps Number.Prints (depth + 1) color := by
  simp only [Color.numbers, List.forall_mem_cons] at exact
  obtain ⟨r, g, b, a, _⟩ := exact
  refine Fills.keeps ?_ (by decide)
  exact .must rfl r.keeps <| .must rfl g.keeps <| .must rfl b.keeps <|
    .may true rfl a.keeps rfl .done

theorem SocialStyle.keeps {style : SocialStyle} (exact : ∀ x ∈ style.numbers, Exact x) :
    SocialStyle.codec.Keeps Number.Prints (depth + 2) style := by
  simp only [SocialStyle.numbers, List.forall_mem_append] at exact
  obtain ⟨⟨background, text⟩, icon⟩ := exact
  refine Fills.keeps ?_ (by decide)
  exact .must rfl (Color.keeps background) <| .must rfl (Color.keeps text) <|
    .must rfl (Color.keeps icon) .done

theorem Swatch.keeps {swatch : Swatch} (exact : ∀ x ∈ swatch.color.numbers, Exact x) :
    Swatch.codec.Keeps Number.Prints (depth + 2) swatch := by
  refine Fills.keeps ?_ (by decide)
  exact .must rfl (Codec.list_keeps fun word _ => Codec.text_keeps word) <|
    .must rfl (Color.keeps exact) <| .may true rfl (Codec.flag_keeps _) rfl .done

theorem Device.keeps {device : Device} (exact : ∀ x ∈ device.numbers, Exact x) :
    Device.codec.Keeps Number.Prints (depth + 2) device := by
  simp only [Device.numbers, List.forall_mem_cons] at exact
  obtain ⟨width, height, _⟩ := exact
  have size : Size.codec.Keeps Number.Prints (depth + 1) device.size := by
    refine Fills.keeps ?_ (by decide)
    exact .must rfl width.keeps <| .must rfl height.keeps .done
  refine Fills.keeps ?_ (by decide)
  exact .must rfl (Codec.text_keeps _) <| .must rfl size .done

theorem FrameStyle.restores {style : FrameStyle} (exact : ∀ x ∈ style.numbers, Exact x)
    (keep : String → Bool) :
    FrameStyle.codec.Restores Number.Prints (depth + 2) ((FrameStyle.codec.encode style).keep keep)
      (style.mix keep .standard) := by
  simp only [FrameStyle.numbers, List.forall_mem_append, List.forall_mem_cons] at exact
  obtain ⟨⟨padding, spacing, gap, _⟩, background⟩ := exact
  refine Fills.restores_kept ?_ (by decide)
  exact .may _ rfl padding.keeps rfl <| .may _ rfl spacing.keeps rfl <|
    .may _ rfl gap.keeps rfl <| .may _ rfl (Color.keeps background) rfl .done

theorem Palette.restores {palette : Palette} (exact : ∀ x ∈ palette.numbers, Exact x)
    (keep : String → Bool) :
    Palette.codec.Restores Number.Prints (depth + 2) ((Palette.codec.encode palette).keep keep)
      (palette.mix keep .standard) := by
  have color : ∀ color ∈ _, Color.codec.Keeps Number.Prints (depth + 1) color := fun color listed =>
    Color.keeps (List.forall_mem_flatMap.mp exact color listed)
  simp only [List.forall_mem_cons] at color
  obtain ⟨primary, secondary, destructive, neutral, onFill, text, link, mutedText, placeholderText,
    icon, fieldIcon, inputFill, controlBorder, toggleOff, selection, error, swatchDefault,
    swatchBorder, cardWhite, cardLight, cardDark, cardBorder, shadow, gradientStart, gradientEnd,
    _⟩ := color
  refine Fills.restores_kept ?_ (by decide)
  -- One step for each field, in their order; the last one has all colours of the mixture.
  exact .may _ rfl primary rfl <| .may _ rfl secondary rfl <| .may _ rfl destructive rfl <|
    .may _ rfl neutral rfl <| .may _ rfl onFill rfl <| .may _ rfl text rfl <|
    .may _ rfl link rfl <| .may _ rfl mutedText rfl <| .may _ rfl placeholderText rfl <|
    .may _ rfl icon rfl <| .may _ rfl fieldIcon rfl <| .may _ rfl inputFill rfl <|
    .may _ rfl controlBorder rfl <| .may _ rfl toggleOff rfl <| .may _ rfl selection rfl <|
    .may _ rfl error rfl <| .may _ rfl swatchDefault rfl <| .may _ rfl swatchBorder rfl <|
    .may _ rfl cardWhite rfl <| .may _ rfl cardLight rfl <| .may _ rfl cardDark rfl <|
    .may _ rfl cardBorder rfl <| .may _ rfl shadow rfl <| .may _ rfl gradientStart rfl <|
    .may _ rfl gradientEnd rfl <| .done

namespace Config

theorem restores {config : Config} (exact : ∀ x ∈ config.numbers, Exact x)
    (words : config.maxDepth < 2 ^ 64) (ascends : Table.Ascends config.social)
    (top palette frame : String → Bool) :
    Config.codec.Restores Number.Prints 4
      (((config.toJson.within "palette" (Json.keep palette)).within "frame"
        (Json.keep frame)).keep top) (config.mix top palette frame .standard) := by
  simp only [numbers, List.forall_mem_append, List.forall_mem_flatMap] at exact
  obtain ⟨⟨⟨⟨⟨colors, social⟩, fallback⟩, swatches⟩, devices⟩, frames⟩ := exact
  have written : config.toJson =
      .object (chosen (fun field => field.write config) Config.fields) := rfl
  rw [written, Json.within_chosen, Json.within_chosen, Json.keep_chosen]
  refine Fills.restores ?_ (by decide)
  have depths : (Codec.natural "usize").Keeps Number.Prints 3 config.maxDepth := by
    have prints := Json.prints_whole (Nat.le_sub_one_of_lt words)
    exact Codec.natural_keeps prints fun k other => other.unique prints
  refine .may (top "fontFamilies") rfl (Codec.list_keeps fun name _ => Codec.text_keeps name) rfl ?_
  refine .may (top "maxDepth") rfl depths rfl ?_
  refine .may (top "palette") rfl (Palette.restores colors palette) rfl ?_
  refine .may (top "social") rfl
    (Codec.table_keeps ascends fun entry listed => SocialStyle.keeps (social entry listed)) rfl ?_
  refine .may (top "socialFallback") rfl (SocialStyle.keeps fallback) rfl ?_
  refine .may (top "swatches") rfl
    (Codec.list_keeps fun swatch listed => Swatch.keeps (swatches swatch listed)) rfl ?_
  refine .may (top "devices") rfl
    (Codec.list_keeps fun device listed => Device.keeps (devices device listed)) rfl ?_
  exact .may (top "frame") rfl (FrameStyle.restores frames frame) rfl .done

/-- The written object of a configuration may be cut down to any of its fields, and its palette and
frame style to any of theirs: what is read from the text has the fields that are left, and the
defaults for the others. All of the text gives the configuration again. The numbers are finite and
read back one by one, the depth has 64 bits, and the providers are a table. -/
theorem partial_restores {config : Config}
    (finite : ∀ x ∈ config.numbers, x.isFinite = true)
    (exact : ∀ x ∈ config.numbers, x.isFinite = true →
      Codec.single.ofText (Json.single x).compact = .ok x)
    (words : config.maxDepth < 2 ^ 64) (ascends : Table.Ascends config.social)
    (top palette frame : String → Bool) :
    Config.ofText (((config.toJson.within "palette" (Json.keep palette)).within "frame"
        (Json.keep frame)).keep top).compact = .ok (config.mix top palette frame .standard) ∧
      Config.ofText config.toJson.compact = .ok config := by
  have numbers : ∀ x ∈ config.numbers, Exact x := fun x listed => exact x listed (finite x listed)
  have restored (top palette frame : String → Bool) :=
    (restores numbers words ascends top palette frame).ofText (by decide) fun _ _ => id
  refine ⟨restored top palette frame, ?_⟩
  have whole := restored (fun _ => true) (fun _ => true) (fun _ => true)
  rwa [Json.keep_all, Json.within_same Json.keep_all, Json.within_same Json.keep_all] at whole

/-- Only the first colour of the palette is kept. -/
theorem partial_restores_primary :
    let config : Config := { standard with
      maxDepth := 3, social := [], swatches := [], devices := [],
      palette := { Palette.standard with primary := .rgb 0.5 0.25 1 } }
    Config.ofText (((config.toJson.within "palette" (Json.keep (· == "primary"))).within "frame"
        (Json.keep fun _ => true)).keep (· == "palette")).compact =
      .ok { standard with palette := { Palette.standard with primary := .rgb 0.5 0.25 1 } } := by
  intro config
  let plain : List Float32 :=
    [0, 0.1, 0.2, 0.25, 0.3, 0.35, 0.4, 0.5, 0.6, 0.8, 0.9, 0.95, 1, 16, 24, 100]
  have listed : ∀ x ∈ config.numbers, ∃ y ∈ plain, x = y := by decide +kernel
  have fine : ∀ y ∈ plain, y.isFinite = true ∧ Exact y := by
    simp only [plain, List.forall_mem_cons]
    refine ⟨?_, ?_, ?_, ?_, ?_, ?_, ?_, ?_, ?_, ?_, ?_, ?_, ?_, ?_, ?_, ?_, List.forall_mem_nil _⟩
    all_goals exact ⟨rfl, rfl⟩
  have good : ∀ x ∈ config.numbers, x.isFinite = true ∧ Exact x := by
    intro x inside
    obtain ⟨y, member, rfl⟩ := listed x inside
    exact fine x member
  exact (partial_restores (fun x inside => (good x inside).1) (fun x inside _ => (good x inside).2)
    (by decide) .nil (· == "palette") (· == "primary") (fun _ => true)).1

end Config

end Wireframe
