import Wireframe.Color.Basic
import Wireframe.Geometry
/-!
What a renderer can be told: type faces, limits, colours, device sizes and the style of destination
frames. Everything has a default, so a partial JSON text changes exactly what it names.
-/

namespace Wireframe

open Json (Codec)

structure Palette where
  primary : Color
  secondary : Color
  destructive : Color
  neutral : Color
  onFill : Color
  text : Color
  link : Color
  mutedText : Color
  placeholderText : Color
  icon : Color
  fieldIcon : Color
  inputFill : Color
  controlBorder : Color
  toggleOff : Color
  selection : Color
  error : Color
  swatchDefault : Color
  swatchBorder : Color
  cardWhite : Color
  cardLight : Color
  cardDark : Color
  cardBorder : Color
  shadow : Color
  gradientStart : Color
  gradientEnd : Color
  deriving DecidableEq

namespace Palette

def standard : Palette where
  primary := .rgb 0.25 0.5 1
  secondary := .rgb 0.6 0.6 0.6
  destructive := .rgb 0.9 0.2 0.2
  neutral := .rgb 0.9 0.9 0.9
  onFill := .white
  text := .black
  link := .rgb 0.1 0.35 0.9
  mutedText := .rgb 0.4 0.4 0.4
  placeholderText := .rgb 0.6 0.6 0.6
  icon := .rgb 0.1 0.1 0.1
  fieldIcon := .rgb 0.3 0.3 0.3
  inputFill := .rgb 0.9 0.9 0.9
  controlBorder := .rgb 0.5 0.5 0.5
  toggleOff := .rgb 0.8 0.8 0.8
  selection := .rgb 0.25 0.5 1
  error := .rgb 1 0 0
  swatchDefault := .rgb 0.5 0.5 0.5
  swatchBorder := .rgb 0.8 0.8 0.8
  cardWhite := .white
  cardLight := .rgb 0.95 0.95 0.95
  cardDark := .rgb 0.2 0.2 0.2
  cardBorder := .rgb 0.9 0.9 0.9
  shadow := ⟨0, 0, 0, 0.1⟩
  gradientStart := .rgb 0.8 0.8 0.9
  gradientEnd := .rgb 0.6 0.6 0.8

private def color (name : String) (get : Palette → Color) (set : Color → Palette → Palette) :
    Json.Field Palette :=
  .may name Color.codec get set

def fields : List (Json.Field Palette) := [
  color "primary" primary fun c p => { p with primary := c },
  color "secondary" secondary fun c p => { p with secondary := c },
  color "destructive" destructive fun c p => { p with destructive := c },
  color "neutral" neutral fun c p => { p with neutral := c },
  color "onFill" onFill fun c p => { p with onFill := c },
  color "text" text fun c p => { p with text := c },
  color "link" link fun c p => { p with link := c },
  color "mutedText" mutedText fun c p => { p with mutedText := c },
  color "placeholderText" placeholderText fun c p => { p with placeholderText := c },
  color "icon" icon fun c p => { p with icon := c },
  color "fieldIcon" fieldIcon fun c p => { p with fieldIcon := c },
  color "inputFill" inputFill fun c p => { p with inputFill := c },
  color "controlBorder" controlBorder fun c p => { p with controlBorder := c },
  color "toggleOff" toggleOff fun c p => { p with toggleOff := c },
  color "selection" selection fun c p => { p with selection := c },
  color "error" error fun c p => { p with error := c },
  color "swatchDefault" swatchDefault fun c p => { p with swatchDefault := c },
  color "swatchBorder" swatchBorder fun c p => { p with swatchBorder := c },
  color "cardWhite" cardWhite fun c p => { p with cardWhite := c },
  color "cardLight" cardLight fun c p => { p with cardLight := c },
  color "cardDark" cardDark fun c p => { p with cardDark := c },
  color "cardBorder" cardBorder fun c p => { p with cardBorder := c },
  color "shadow" shadow fun c p => { p with shadow := c },
  color "gradientStart" gradientStart fun c p => { p with gradientStart := c },
  color "gradientEnd" gradientEnd fun c p => { p with gradientEnd := c }]

def codec : Codec Palette := .record "struct Palette" fields standard

end Palette

structure SocialStyle where
  background : Color
  text : Color
  icon : Color
  deriving DecidableEq

namespace SocialStyle

def standard : SocialStyle := ⟨.rgb 0.9 0.9 0.9, .black, .black⟩

def codec : Codec SocialStyle :=
  .record "struct SocialStyle"
    [.must "background" Color.codec background fun c style => { style with background := c },
      .must "text" Color.codec text fun c style => { style with text := c },
      .must "icon" Color.codec icon fun c style => { style with icon := c }]
    standard

end SocialStyle

/-- A named colour, chosen when one of its keywords occurs in the name asked for. Light colours get
a border. -/
structure Swatch where
  keywords : List String
  color : Color
  light : Bool
  deriving DecidableEq

namespace Swatch

def codec : Codec Swatch :=
  .record "struct SwatchColor"
    [.must "keywords" (.list .text) keywords fun words swatch => { swatch with keywords := words },
      .must "color" Color.codec color fun c swatch => { swatch with color := c },
      .may "light" .flag light fun b swatch => { swatch with light := b }]
    ⟨[], .black, false⟩

end Swatch

structure Device where
  name : String
  size : Size
  deriving DecidableEq

namespace Device

def mobile : Device := ⟨"Mobile", ⟨375, 812⟩⟩

def codec : Codec Device :=
  .record "struct DeviceClass"
    [.must "name" .text name fun s device => { device with name := s },
      .must "size" Size.codec size fun s device => { device with size := s }]
    mobile

end Device

structure FrameStyle where
  padding : Float32
  spacing : Float32
  gap : Float32
  background : Color
  deriving DecidableEq

namespace FrameStyle

def standard : FrameStyle := ⟨24, 16, 100, .white⟩

def fields : List (Json.Field FrameStyle) := [
  .may "padding" .single padding fun x style => { style with padding := x },
  .may "spacing" .single spacing fun x style => { style with spacing := x },
  .may "gap" .single gap fun x style => { style with gap := x },
  .may "background" Color.codec background fun c style => { style with background := c }]

def codec : Codec FrameStyle := .record "struct FrameStyle" fields standard

end FrameStyle

structure Config where
  fontFamilies : List String
  maxDepth : Nat
  palette : Palette
  social : List (String × SocialStyle)
  socialFallback : SocialStyle
  swatches : List Swatch
  devices : List Device
  frame : FrameStyle
  deriving DecidableEq

namespace Config

def standardSocial : List (String × SocialStyle) := [
  ("apple", ⟨.black, .white, .white⟩),
  ("facebook", ⟨.rgb 0.09 0.3 0.65, .white, .white⟩),
  ("google", ⟨.white, .rgb 0.2 0.2 0.2, .black⟩)]

def standardSwatches : List Swatch := [
  ⟨["red"], .rgb 0.9 0.2 0.2, false⟩,
  ⟨["blue"], .rgb 0.2 0.4 0.9, false⟩,
  ⟨["green"], .rgb 0.2 0.8 0.3, false⟩,
  ⟨["yellow"], .rgb 0.95 0.85 0.2, false⟩,
  ⟨["orange"], .rgb 1 0.6 0.2, false⟩,
  ⟨["purple", "violet"], .rgb 0.6 0.3 0.9, false⟩,
  ⟨["pink"], .rgb 1 0.4 0.7, false⟩,
  ⟨["black"], .rgb 0.1 0.1 0.1, false⟩,
  ⟨["white"], .white, true⟩,
  ⟨["brown"], .rgb 0.6 0.4 0.2, false⟩,
  ⟨["beige", "tan"], .rgb 0.96 0.87 0.7, true⟩]

def standardDevices : List Device :=
  [.mobile, ⟨"Tablet", ⟨768, 1024⟩⟩, ⟨"Desktop", ⟨1440, 900⟩⟩]

def standard : Config where
  fontFamilies := ["Inter", "Arial"]
  maxDepth := 32
  palette := .standard
  social := standardSocial
  socialFallback := .standard
  swatches := standardSwatches
  devices := standardDevices
  frame := .standard

def fields : List (Json.Field Config) := [
  .may "fontFamilies" (.list .text) fontFamilies fun x config => { config with fontFamilies := x },
  .may "maxDepth" (.natural "usize") maxDepth fun x config => { config with maxDepth := x },
  .may "palette" Palette.codec palette fun x config => { config with palette := x },
  .may "social" (.table SocialStyle.codec) social fun x config => { config with social := x },
  .may "socialFallback" SocialStyle.codec socialFallback
    fun x config => { config with socialFallback := x },
  .may "swatches" (.list Swatch.codec) swatches fun x config => { config with swatches := x },
  .may "devices" (.list Device.codec) devices fun x config => { config with devices := x },
  .may "frame" FrameStyle.codec frame fun x config => { config with frame := x }]

def codec : Codec Config := .record "struct RendererConfig" fields standard

def toJson (config : Config) : Json := codec.encode config

def ofText (text : String) : Except Json.Fault Config := codec.ofText text

def buttonFill (config : Config) (color : Option String) : Color :=
  match color.map Text.lower with
  | some "primary" => config.palette.primary
  | some "secondary" => config.palette.secondary
  | some "destructive" => config.palette.destructive
  | _ => config.palette.neutral

def socialStyle (config : Config) (provider : String) : SocialStyle :=
  (config.social.lookup (Text.lower provider)).getD config.socialFallback

def cardBackground (config : Config) (name : Option String) : Color :=
  match name with
  | some "light" => config.palette.cardLight
  | some "dark" => config.palette.cardDark
  | _ => config.palette.cardWhite

/-- The colour of a swatch and whether it needs a border: the first swatch with a keyword in the
name, then CSS keywords, hexadecimal codes and the default. -/
def swatchColor (config : Config) (name : String) : Color × Bool :=
  let wanted := Text.lower (Text.trim name)
  match config.swatches.find? fun swatch => swatch.keywords.any (Text.contains wanted) with
  | some swatch => (swatch.color, swatch.light)
  | none =>
      (((Color.ofKeyword? wanted).or (Color.ofHex? wanted)).getD config.palette.swatchDefault,
        false)

/-- The device class whose name begins the request, the first class being looked at last because it
is also the fallback. -/
def device (config : Config) (requested : String) : Device :=
  let wanted := Text.lower (Text.trim requested)
  let named := (config.devices.drop 1).find? fun device =>
    Text.startsWith wanted (Text.lower device.name)
  (named.or config.devices.head?).getD .mobile

end Config

end Wireframe
