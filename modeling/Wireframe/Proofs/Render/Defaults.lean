import Wireframe.Catalog.Builtin
import Wireframe.Proofs.Binary.Exact
import Wireframe.Proofs.Render.Alike
import Wireframe.Proofs.Table
/-!
Defaults of a catalog. Where a prop is absent the catalog may say what it is, which means the same
as to write it out; where a prop is given the catalog is not asked.
-/

namespace Wireframe

/-- An integer of up to 24 bits, or a number that is no integer. -/
def Json.Number.Modest : Json.Number → Prop
  | .whole n => n.natAbs ≤ 2 ^ 24
  | .single _ | .double _ => True

theorem Json.Number.narrow_toDouble {number : Json.Number} (modest : number.Modest) :
    Binary.narrow number.toDouble = number.toSingle := by
  cases number with
  | whole n => exact Binary.narrow_doubleOfInt modest
  | single x => exact Binary.narrow_widen x
  | double x => rfl

/-- A value that may be the default of a prop of the type. -/
inductive PropType.Fits : PropType → Json → Prop
  | string (text : String) : Fits .string (.string text)
  | number {number : Json.Number} (modest : number.Modest) : Fits .number (.number number)

/-- The props that the catalog is asked for when they are absent. -/
def Kind.defaults : Kind → List (String × PropType)
  | .image =>
      [("width", .number), ("height", .number), ("cornerRadius", .number), ("alt", .string)]
  | .colorSwatch | .icon => [("size", .number)]
  | .slider => [("value", .number)]
  | .placeholder => [("width", .number), ("height", .number)]
  | .button | .socialButton => [("width", .string)]
  | .linkText => [("align", .string)]
  | .header | .label | .textField | .checkbox | .radioButton | .switch => []
  | .row | .column | .card => []

def TextAlign.ofLink (default align textAlign : Option String) : TextAlign :=
  .ofWord (.ofWord .left default) (align.or textAlign)

theorem TextAlign.ofLink_default (text : String) (textAlign : Option String) :
    ofLink (some text) (some text) textAlign = ofLink (some text) none none := by
  simp only [ofLink, Option.some_or, Option.or_none, ofWord]
  split <;> simp [*]

theorem TextAlign.ofWord_known {word : String}
    (known : Text.upper (Text.trim word) ∈ ["LEFT", "CENTER", "RIGHT"])
    (fallback other : TextAlign) : ofWord fallback (some word) = ofWord other (some word) := by
  simp only [List.mem_cons, List.not_mem_nil, or_false] at known
  rcases known with known | known | known <;> simp only [ofWord, known]

namespace Props

/-- Two objects come to the same props, each with the defaults of a catalog. -/
structure Settled (kind : Kind) (catalog otherCatalog : Catalog)
    (props other : List (String × Json)) : Prop where
  plain : ∀ name ∉ kind.defaults.map Prod.fst, Agree props other name
  number : ∀ name, (name, PropType.number) ∈ kind.defaults →
    (number? other name).or (otherCatalog.number? kind name) =
      (number? props name).or (catalog.number? kind name)
  string : ∀ name, (name, PropType.string) ∈ kind.defaults → kind ≠ .linkText →
    (string? other name).or (otherCatalog.string? kind name) =
      (string? props name).or (catalog.string? kind name)
  align : kind = .linkText →
    TextAlign.ofLink (otherCatalog.string? kind "align") (string? other "align")
        (string? other "textAlign") =
      TextAlign.ofLink (catalog.string? kind "align") (string? props "align")
        (string? props "textAlign")

def Lacks (props : List (String × Json)) (name : String) : Prop :=
  ∀ value, props.lookup name = some value → value = .null

/-- A prop is there and not null. The alignment of a link is given by the first of its two words
that is there, if that names an alignment. -/
def Gives (kind : Kind) (props : List (String × Json)) (name : String) : Prop :=
  if kind = .linkText then
    ∃ word, (string? props "align").or (string? props "textAlign") = some word ∧
      Text.upper (Text.trim word) ∈ ["LEFT", "CENTER", "RIGHT"]
  else ¬ Lacks props name

section

variable {kind : Kind} {props other : List (String × Json)} {name : String}

theorem Lacks.string_eq (lacks : Lacks props name) : string? props name = none := by
  unfold string?
  split
  · rename_i found
    cases lacks _ found
  · rfl

theorem Lacks.number_eq (lacks : Lacks props name) : number? props name = none := by
  unfold number?
  split
  · rename_i found
    cases lacks _ found
  · rfl

theorem known_of_defaults {type : PropType} (listed : (name, type) ∈ kind.defaults) :
    kind.props.lookup name = some type := by
  have known : ∀ member ∈ kind.defaults, kind.props.lookup member.1 = some member.2 := by
    cases kind <;> decide
  exact known (name, type) listed

theorem admits_of_fits {type : PropType} {value : Json} (fits : type.Fits value) :
    type.admits value = true := by
  cases fits <;> rfl

theorem fault?_insert {known : List (String × PropType)} {type : PropType} {value : Json}
    (wanted : known.lookup name = some type) (admitted : type.admits value = true)
    (lacks : Lacks props name) :
    fault? known (Table.insert name value props) = fault? known props := by
  induction props with
  | nil => simp [Table.insert, fault?, wanted, admitted]
  | cons member rest ih =>
      obtain ⟨key, old⟩ := member
      rw [Table.insert]
      split
      · rename_i same
        subst same
        cases lacks old List.lookup_cons_self
        have null : type.admits .null = true := by cases type <;> rfl
        simp [fault?, wanted, admitted, null]
      · rename_i differs
        split
        · simp [fault?, wanted, admitted]
        · have later : Lacks rest name := by
            intro value found
            apply lacks
            rwa [List.lookup_cons, beq_false_of_ne differs]
          simp only [fault?, ih later]

theorem admits_of_faultless {known : List (String × PropType)} {type : PropType} {value : Json}
    (faultless : fault? known props = none) (wanted : known.lookup name = some type)
    (found : props.lookup name = some value) : type.admits value = true := by
  induction props with
  | nil => cases found
  | cons member rest ih =>
      obtain ⟨key, first⟩ := member
      rw [fault?] at faultless
      rw [List.lookup_cons] at found
      by_cases same : name = key
      · subst same
        rw [beq_self_eq_true] at found
        cases Option.some.inj found
        rw [wanted] at faultless
        by_contra refused
        simp [refused] at faultless
      · rw [beq_false_of_ne same] at found
        refine ih ?_ found
        split at faultless
        · exact faultless
        · split at faultless
          · exact faultless
          · cases faultless

/-- An absent prop that is written out as its default. -/
theorem Settled.insert {catalog : Catalog} {type : PropType} {value : Json}
    (listed : (name, type) ∈ kind.defaults)
    (declared : catalog.default? kind.tag name = some value) (fits : type.Fits value)
    (lacks : Lacks props name) (alone : kind = .linkText → Lacks props "textAlign") :
    Settled kind catalog catalog props (Table.insert name value props) := by
  have others (other : String) (differs : other ≠ name) :
      Agree props (Table.insert name value props) other :=
    .of_lookup (Table.lookup_insert_of_ne differs props)
  have written : (Table.insert name value props).lookup name = some value :=
    Table.lookup_insert_self props
  have typed {wanted : PropType} (wantedHere : (name, wanted) ∈ kind.defaults) : type = wanted :=
    Option.some.inj ((known_of_defaults listed).symm.trans (known_of_defaults wantedHere))
  refine ⟨?_, ?_, ?_, ?_⟩
  · intro other plain
    apply others
    rintro rfl
    exact plain (List.mem_map_of_mem listed)
  · intro other wanted
    by_cases same : other = name
    · subst same
      cases typed wanted
      cases fits with
      | number modest =>
          -- A default is rounded by way of 64 bits, what is written out is rounded at once.
          rw [lacks.number_eq, Catalog.number?, declared]
          simp [number?, written, Json.number?, Json.Number.narrow_toDouble modest]
    · rw [(others other same).number]
  · intro other wanted _
    by_cases same : other = name
    · subst same
      cases typed wanted
      cases fits with
      | string text =>
          rw [lacks.string_eq, Catalog.string?, declared]
          simp [string?, written, Json.string?]
    · rw [(others other same).string]
  · rintro rfl
    have align : name = "align" ∧ type = .string := by simpa [Kind.defaults] using listed
    obtain ⟨rfl, rfl⟩ := align
    cases fits with
    | string text =>
        rw [lacks.string_eq, (alone rfl).string_eq, (others "textAlign" (by decide)).string,
          (alone rfl).string_eq, Catalog.string?, declared]
        have given : string? (Table.insert "align" (.string text) props) "align" = some text := by
          rw [string?, written]
        rw [given]
        exact TextAlign.ofLink_default text none

theorem Gives.typed {type : PropType} (gives : Gives kind props name) (other : kind ≠ .linkText)
    (faultless : fault? kind.props props = none) (listed : (name, type) ∈ kind.defaults) :
    ∃ value, props.lookup name = some value ∧ value ≠ .null ∧ type.admits value = true := by
  rw [Gives, if_neg other, Lacks] at gives
  push Not at gives
  obtain ⟨value, found, given⟩ := gives
  exact ⟨value, found, given, admits_of_faultless faultless (known_of_defaults listed) found⟩

/-- A prop that is given is the same in another catalog. -/
theorem Settled.given {catalog otherCatalog : Catalog}
    (elsewhere : ∀ name, otherCatalog.default? kind.tag name = catalog.default? kind.tag name ∨
      Gives kind props name)
    (faultless : fault? kind.props props = none) :
    Settled kind catalog otherCatalog props props := by
  refine ⟨fun name _ => .of_lookup rfl, ?_, ?_, ?_⟩
  · intro name wanted
    rcases elsewhere name with same | gives
    · rw [Catalog.number?, Catalog.number?, same]
    · have other : kind ≠ .linkText := by
        rintro rfl
        simp [Kind.defaults] at wanted
      -- A value of another type would be a fault, and then the catalog is not asked at all.
      obtain ⟨value, found, given, admitted⟩ := gives.typed other faultless wanted
      cases value with
      | null => exact absurd rfl given
      | number n => simp [number?, found]
      | _ => cases admitted
  · intro name wanted other
    rcases elsewhere name with same | gives
    · rw [Catalog.string?, Catalog.string?, same]
    · obtain ⟨value, found, given, admitted⟩ := gives.typed other faultless wanted
      cases value with
      | null => exact absurd rfl given
      | string text => simp [string?, found]
      | _ => cases admitted
  · rintro rfl
    rcases elsewhere "align" with same | gives
    · rw [Catalog.string?, Catalog.string?, same]
    · obtain ⟨word, found, known⟩ := gives
      rw [TextAlign.ofLink, TextAlign.ofLink, found]
      exact TextAlign.ofWord_known known _ _

end

end Props

namespace Render

variable {env : Environment} {below : Build (List Node)} {catalog : Catalog}

theorem text_catalog : Environment.text { env with catalog } = env.text := by
  funext spec color
  simp only [Environment.text]

theorem iconSlot_catalog : Environment.iconSlot { env with catalog } = env.iconSlot := by
  funext icon size color
  simp only [Environment.iconSlot, Environment.icon?]

theorem palette_catalog : Environment.palette { env with catalog } = env.palette := rfl

theorem component_catalog {read : Component} (bare : ∀ kind ∈ read.kind?, kind.defaults = []) :
    component { env with catalog } below read = component env below read := by
  cases read with
  | header props => simp only [component, header, kindText, text_catalog]
  | label props => simp only [component, label, kindText, text_catalog]
  | textField props =>
      cases props.label <;> cases props.placeholder <;>
        simp only [component, textField, fieldLabel, fieldText, inputFrame, text_catalog,
          iconSlot_catalog, palette_catalog]
  | checkbox props =>
      simp only [component, checkbox, controlBorder, labelled, text_catalog, iconSlot_catalog,
        palette_catalog]
  | radioButton props =>
      simp only [component, radioButton, radioDot, controlBorder, labelled, text_catalog,
        palette_catalog]
  | switch props => simp only [component, switch, labelled, text_catalog, palette_catalog]
  | row props => simp only [component]
  | column props => simp only [component]
  | card props =>
      have frame : cardFrame { env with catalog } props = cardFrame env props := by
        funext frame
        simp only [cardFrame, palette_catalog]
      simp only [component, card, frame]
  | unknown tag => simp only [component, Environment.notice, text_catalog, palette_catalog]
  | linkText _ | button _ | socialButton _ | image _ | colorSwatch _ | icon _ | slider _
  | placeholder _ =>
      exact absurd (bare _ rfl) (by decide)

variable {kind : Kind} {props other : List (String × Json)}

/-- A component is what its props and the defaults come to. -/
theorem component_settled (settled : Props.Settled kind env.catalog catalog props other) :
    component { env with catalog } below (.ofProps kind other) =
      component env below (.ofProps kind props) := by
  have same (name : String) (plain : name ∉ kind.defaults.map Prod.fst) :
      Props.Agree props other name := settled.plain name plain
  have bare (plain : kind.defaults = []) :
      component { env with catalog } below (.ofProps kind other) =
        component env below (.ofProps kind props) := by
    have sameProps : Component.ofProps kind other = Component.ofProps kind props :=
      Props.ofProps_congr fun name _ => same name (by simp [plain])
    rw [sameProps]
    exact component_catalog (by simp [plain])
  have number (name : String) (listed : (name, PropType.number) ∈ kind.defaults)
      (fallback : Float32) :
      Environment.number { env with catalog } kind name (Props.number? other name) fallback =
        env.number kind name (Props.number? props name) fallback :=
    congrArg (·.getD fallback) (settled.number name listed)
  -- Only the props under `defaults` may differ, and each builder takes these with their default.
  cases kind
  case header | label | textField | checkbox | radioButton | switch | row | column | card =>
    exact bare rfl
  case linkText =>
    have align : TextAlign.ofWord (.ofWord .left (catalog.string? .linkText "align"))
          ((Props.string? other "align").or (Props.string? other "textAlign")) =
        TextAlign.ofWord (.ofWord .left (env.catalog.string? .linkText "align"))
          ((Props.string? props "align").or (Props.string? props "textAlign")) :=
      settled.align rfl
    simp only [Component.ofProps, component, link, kindText, align,
      (same "text" (by decide)).string, (same "fontWeight" (by decide)).string, text_catalog,
      palette_catalog]
  case button =>
    have width := settled.string "width" (by decide) (by decide)
    simp only [Component.ofProps, component, button, Pill.build, Pill.frame, Pill.layout, width,
      (same "label" (by decide)).string, (same "color" (by decide)).string,
      (same "icon" (by decide)).string, (same "svgData" (by decide)).string, text_catalog,
      iconSlot_catalog, palette_catalog]
  case socialButton =>
    have width := settled.string "width" (by decide) (by decide)
    simp only [Component.ofProps, component, socialButton, Pill.build, Pill.frame, Pill.layout,
      provider, providerIcon, width, (same "provider" (by decide)).string,
      (same "label" (by decide)).string, (same "icon" (by decide)).string,
      (same "svgData" (by decide)).string, text_catalog, iconSlot_catalog]
    rfl
  case image =>
    have alt := settled.string "alt" (by decide) (by decide)
    simp only [Component.ofProps, component, image, number "width" (by decide),
      number "height" (by decide), number "cornerRadius" (by decide), alt,
      (same "fit" (by decide)).string, imageFill, iconSlot_catalog, palette_catalog]
  case colorSwatch =>
    simp only [Component.ofProps, component, colorSwatch, number "size" (by decide),
      (same "color" (by decide)).string, (same "shape" (by decide)).string,
      (same "selected" (by decide)).boolean, swatchBorder, palette_catalog]
  case icon =>
    simp only [Component.ofProps, component, icon, number "size" (by decide),
      (same "icon" (by decide)).string, (same "svgData" (by decide)).string,
      (same "color" (by decide)).string, Environment.icon?, palette_catalog]
  case slider =>
    simp only [Component.ofProps, component, slider, number "value" (by decide), palette_catalog]
  case placeholder =>
    have label := (same "label" (by decide)).string
    cases given : Props.string? props "label" <;>
      simp only [Component.ofProps, component, placeholder, label, given,
        number "width" (by decide), number "height" (by decide), text_catalog, palette_catalog]

end Render

/-- An entry is as it was; or one prop of it, that its kind has and that was absent, has a value. -/
def Entry.Written (kind : Kind) (name : String) (value : Json) (read other : Entry) : Prop :=
  other.tag = read.tag ∧
    (other.own = read.own ∨
      read.tag = kind.tag ∧ Props.Lacks read.own name ∧
        (kind = .linkText → Props.Lacks read.own "textAlign") ∧
        other.own = Table.insert name value read.own)

namespace Render

variable {env : Environment} {kind : Kind} {name : String} {type : PropType} {value : Json}

theorem Same.of_written (listed : (name, type) ∈ kind.defaults)
    (declared : env.catalog.default? kind.tag name = some value) (fits : type.Fits value)
    {read other : Entry} (written : read.Written kind name value other) :
    Same env env read other := by
  obtain ⟨sameTag, sameOwn | ⟨tagged, lacks, alone, inserted⟩⟩ := written
  · apply Same.of_own env.catalog sameTag
    intro found named
    rw [sameOwn]
    exact ⟨rfl, fun _ _ => rfl⟩
  · apply Same.of_own env.catalog sameTag
    intro found named
    have same : found = kind := by
      rw [tagged, Kind.ofTag?_tag] at named
      exact (Option.some.inj named).symm
    subst same
    rw [inserted]
    have known := Props.known_of_defaults listed
    refine ⟨Props.fault?_insert known (Props.admits_of_fits fits) lacks, ?_⟩
    intro faultless below
    exact component_settled (.insert listed declared fits lacks alone)

theorem Same.of_given {catalog : Catalog} {read : Entry}
    (elsewhere : ∀ other prop, (other, prop) ≠ (kind, name) →
      catalog.default? other.tag prop = env.catalog.default? other.tag prop)
    (gives : read.tag = kind.tag → Props.Gives kind read.own name) :
    Same env { env with catalog } read read := by
  apply Same.of_own catalog rfl
  intro found named
  refine ⟨rfl, ?_⟩
  intro faultless below
  apply component_settled
  refine .given ?_ faultless
  intro prop
  by_cases here : (found, prop) = (kind, name)
  · cases here
    exact Or.inr (gives (Kind.tag_of_ofTag? named).symm)
  · exact Or.inl (elsewhere found prop here)

end Render

namespace Renderer

/-- A default of the catalog means what it means when it is written out. A prop for which the
catalog declares a default of its type may have it written out wherever it is absent; and where it
is given its default may be another. Nodes, numbers and record stay as they are. -/
theorem tree_defaults (env : Environment) {kind : Kind} {name : String} {type : PropType}
    (listed : (name, type) ∈ kind.defaults) :
    (∀ value, env.catalog.default? kind.tag name = some value → type.Fits value →
      ∀ values others, List.Forall₂ (Json.Alike (Entry.Written kind name value)) values others →
        ∀ renderer : Renderer,
          renderer.tree env (.array others) = renderer.tree env (.array values)) ∧
    (∀ catalog : Catalog,
      (∀ other prop, (other, prop) ≠ (kind, name) →
        catalog.default? other.tag prop = env.catalog.default? other.tag prop) →
      ∀ values,
        (∀ visit ∈ Visit.all env.config.maxDepth 0 values, ∀ read, visit.entry = some read →
          read.tag = kind.tag → Props.Gives kind read.own name) →
        ∀ renderer : Renderer,
          renderer.tree { env with catalog } (.array values) =
            renderer.tree env (.array values)) := by
  constructor
  · intro value declared fits values others written renderer
    symm
    exact tree_alike (fun _ _ => Render.Same.of_written listed declared fits) written renderer
  · intro catalog elsewhere values given renderer
    have same : Render.trees env 0 (Tree.ofList values) =
        Render.trees { env with catalog } 0 (Tree.ofList values) :=
      Render.trees_visited fun visit inside read present =>
        Render.Same.of_given elsewhere (given visit inside read present)
    rw [tree_array, tree_array, entries, entries, same]

/-- Images in a row, of the default width and of none. -/
theorem tree_defaults_image :
    let env (width : Int) : Environment :=
      ⟨.standard,
        [.ofKind .image "Image" [(PropSpec.number "width" "Width").withDefault (.int width)]],
        Font.ofFaces (Font.family "Inter"), .library⟩
    let entry (tag : String) (props : List (String × Json)) : Json :=
      .object [("component", .string tag), ("props", .object props)]
    let row (props : List (String × Json)) : Json :=
      entry "Row" [("children", .array [entry "Image" props])]
    (fresh 0).tree (env 100) (.array [row [("width", .int 100)]]) =
        (fresh 0).tree (env 100) (.array [row [("width", .null)]]) ∧
      (fresh 0).tree (env 7) (.array [row [("width", .int 0)]]) =
        (fresh 0).tree (env 100) (.array [row [("width", .int 0)]]) := by
  intro env entry row
  have listed : ("width", PropType.number) ∈ Kind.image.defaults := by decide
  obtain ⟨written, given⟩ := tree_defaults (env 100) listed
  have valid (tag : String) (props : List (String × Json)) :
      Entry.ofJson? (entry tag props) = some ⟨tag, props⟩ := rfl
  have hundred : (Json.Number.whole 100).Modest := show (100 : Int).natAbs ≤ 2 ^ 24 by decide
  let outer : Entry := ⟨"Row", [("children", .array [entry "Image" [("width", .int 0)]])]⟩
  let inner : Entry := ⟨"Image", [("width", .int 0)]⟩
  have visits : Visit.all Config.standard.maxDepth 0 [row [("width", .int 0)]] =
      [⟨0, some outer⟩, ⟨1, some inner⟩] := by
    have opens : outer.opens Config.standard.maxDepth 0 = true := by decide
    have closes : inner.opens Config.standard.maxDepth 1 = false := by decide
    simp [row, entry, Visit.all, Entry.ofJson?, Json.member?, Json.string?, Json.object?,
      List.lookup_cons, opens, closes, outer, inner, Entry.children, Json.array?]
  constructor
  · refine written (.int 100) rfl (.number hundred) _ _ (.cons ?_ .nil) (fresh 0)
    refine .entry (valid _ _) (valid _ _) ⟨rfl, Or.inl ?_⟩ fun _ => .cons ?_ .nil
    · simp [Entry.own]
    · have noLink (link : Kind.image = .linkText) :
          Props.Lacks [("width", .null)] "textAlign" := absurd link (by decide)
      refine .entry (valid _ _) (valid _ _) ⟨rfl, Or.inr ⟨rfl, ?_, noLink, ?_⟩⟩ ?_
      · simp [Props.Lacks, Entry.own]
      · simp [Entry.own, Table.insert]
      · intro nests
        exact absurd nests (by decide)
  · refine given (env 7).catalog ?_ _ ?_ (fresh 0)
    · intro other prop differs
      by_cases image : other = .image
      · have elsewhere : "width" ≠ prop := by
          rintro rfl
          exact differs (by rw [image])
        simp [env, Catalog.default?, Catalog.component?, ComponentSpec.ofKind,
          ComponentSpec.prop?, PropSpec.withDefault, PropSpec.number, PropSpec.ofType, image,
          elsewhere]
      · have unnamed : Kind.image.tag ≠ other.tag := by
          intro same
          have named := Kind.ofTag?_tag other
          rw [← same, Kind.ofTag?_tag] at named
          exact image (Option.some.inj named).symm
        simp [env, Catalog.default?, Catalog.component?, ComponentSpec.ofKind, unnamed]
    · intro visit inside read present tagged
      change visit ∈ Visit.all Config.standard.maxDepth 0 [row [("width", .int 0)]] at inside
      rw [visits] at inside
      rcases List.mem_pair.mp inside with rfl | rfl
      · cases Option.some.inj present
        exact absurd tagged (by decide)
      · cases Option.some.inj present
        simp [Props.Gives, Props.Lacks, inner, Entry.own, Json.int]

end Renderer

end Wireframe
