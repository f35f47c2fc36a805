import Wireframe.Catalog.Builtin
import Wireframe.Proofs.Render.Alike
import Wireframe.Proofs.Text.Case
/-!
Keywords in either case. The words that choose a look among a few are read in any case of their
ASCII letters, so a change of case changes nothing. The background of a card is the exception: it is
chosen by exactly `light` and `dark`, and any two other words mean the same.
-/

namespace Wireframe

open Text (Blind lower)

/-- Both words or none; and the words differ in the case of ASCII letters at most. -/
def Folds (word other : Option String) : Prop := word.map lower = other.map lower

namespace Folds

variable {α : Type} {word other : Option String}

theorem refl (word : Option String) : Folds word word := rfl

theorem congr (fold : Folds word other) (read : Option String → α)
    (blind : Blind fun s => read (some s)) : read word = read other := by
  cases word with
  | none =>
      cases other with
      | none => rfl
      | some s => cases fold
  | some s =>
      cases other with
      | none => cases fold
      | some t => exact blind.congr (Option.some.inj fold)

theorem or {next otherNext : Option String} (fold : Folds word other)
    (later : Folds next otherNext) : Folds (word.or next) (other.or otherNext) := by
  cases word with
  | none =>
      cases other with
      | none => exact later
      | some s => cases fold
  | some s =>
      cases other with
      | none => cases fold
      | some t => exact fold

theorem width (fold : Folds word other) : WidthMode.ofWord word = WidthMode.ofWord other :=
  fold.congr _ fun s => by simp [WidthMode.ofWord]

theorem alignment (fold : Folds word other) (axis : CrossAxis) :
    Alignment.ofWord axis word = Alignment.ofWord axis other :=
  fold.congr _ fun s => by simp [Alignment.ofWord]

theorem distribution (fold : Folds word other) :
    Distribution.ofWord word = Distribution.ofWord other :=
  fold.congr _ fun s => by simp [Distribution.ofWord]

theorem textAlign (fold : Folds word other) (fallback : TextAlign) :
    TextAlign.ofWord fallback word = TextAlign.ofWord fallback other :=
  fold.congr _ fun s => by simp [TextAlign.ofWord]

theorem fontStyle (fold : Folds word other) (fallback : FontStyle) :
    FontStyle.ofWord fallback word = FontStyle.ofWord fallback other :=
  fold.congr _ fun s => by simp [FontStyle.ofWord]

theorem buttonFill (fold : Folds word other) (config : Config) :
    config.buttonFill word = config.buttonFill other :=
  fold.congr _ fun s => by simp [Config.buttonFill]

theorem swatchColor (fold : Folds word other) (config : Config) (fallback : String) :
    config.swatchColor (word.getD fallback) = config.swatchColor (other.getD fallback) :=
  fold.congr (fun word => config.swatchColor (word.getD fallback)) fun s => by
    simp [Config.swatchColor]

theorem iconColor (fold : Folds word other) (fallback : Color) :
    (word.bind fun text => (Color.ofHex? text).or (Color.ofKeyword? text)).getD fallback =
      (other.bind fun text => (Color.ofHex? text).or (Color.ofKeyword? text)).getD fallback :=
  fold.congr
    (fun word => (word.bind fun text =>
      (Color.ofHex? text).or (Color.ofKeyword? text)).getD fallback)
    fun s => by simp [Color.ofHex?_blind s, Color.ofKeyword?_blind s]

end Folds

theorem Layout.select_folds (kind : Kind) {props other : LayoutProps}
    (alignment : Folds props.alignment other.alignment)
    (justify : Folds props.justify other.justify) (width : Folds props.width other.width)
    (fit : Folds props.fit other.fit) (spacing : props.spacing = other.spacing) :
    select kind props = select kind other := by
  have fits : props.fit.map Text.upper = other.fit.map Text.upper :=
    fit.congr (Option.map Text.upper) fun s => by simp
  cases kind <;>
    simp only [select, stack, alignment.alignment, justify.distribution, width.width, fits, spacing]

theorem Config.cardBackground_other (config : Config) {word : String}
    (other : word ∉ ["light", "dark"]) :
    config.cardBackground (some word) = config.cardBackground none := by
  unfold cardBackground
  split
  · simp_all
  · simp_all
  · rfl

def Kind.keywords : Kind → List String
  | .header | .label | .linkText => ["align", "textAlign", "fontWeight"]
  | .button => ["color", "width"]
  | .socialButton => ["provider", "width"]
  | .image => ["fit"]
  | .colorSwatch => ["color", "shape"]
  | .icon => ["color"]
  | .row | .column | .card => ["alignment", "justify"]
  | .textField | .checkbox | .radioButton | .switch | .slider | .placeholder => []

/-- A prop is the same; or it is a keyword in another case; or it is a background of a card, and
neither word is one of the two that are known. -/
inductive Json.Recased (kind : Kind) (name : String) : Json → Json → Prop
  | same (value : Json) : Recased kind name value value
  | keyword {word other : String} (listed : name ∈ kind.keywords)
      (fold : lower word = lower other) :
      Recased kind name (.string word) (.string other)
  | background {word other : String} (card : kind = .card) (named : name = "backgroundColor")
      (plain : word ∉ ["light", "dark"]) (otherPlain : other ∉ ["light", "dark"]) :
      Recased kind name (.string word) (.string other)

def Props.Recased (kind : Kind) : List (String × Json) → List (String × Json) → Prop :=
  List.Forall₂ fun member other => other.1 = member.1 ∧ member.2.Recased kind member.1 other.2

namespace Props.Recased

variable {kind : Kind} {props other : List (String × Json)}

theorem lookup (recased : Recased kind props other) (name : String) :
    (props.lookup name = none ∧ other.lookup name = none) ∨
      ∃ value changed, props.lookup name = some value ∧ other.lookup name = some changed ∧
        value.Recased kind name changed := by
  induction recased with
  | nil => exact Or.inl ⟨rfl, rfl⟩
  | @cons member second rest others first _ ih =>
      obtain ⟨_, value⟩ := member
      obtain ⟨key, changed⟩ := second
      obtain ⟨rfl, first⟩ := first
      rw [List.lookup_cons, List.lookup_cons]
      by_cases same : name = key
      · subst same
        rw [beq_self_eq_true]
        exact Or.inr ⟨value, changed, rfl, rfl, first⟩
      · rw [beq_false_of_ne same]
        exact ih

theorem wanted {name : String} {value changed : Json} (recased : value.Recased kind name changed) :
    changed = value ∨
      (∃ word other, value = .string word ∧ changed = .string other) ∧
        ∀ type ∈ kind.props.lookup name, type = .string := by
  cases recased with
  | same => exact Or.inl rfl
  | keyword listed fold =>
      refine Or.inr ⟨⟨_, _, rfl, rfl⟩, ?_⟩
      cases kind <;> simp [Kind.keywords] at listed
      all_goals rcases listed with rfl | rfl | rfl <;> decide
  | background card named =>
      refine Or.inr ⟨⟨_, _, rfl, rfl⟩, ?_⟩
      subst card named
      decide

theorem fault? (recased : Recased kind props other) :
    Props.fault? kind.props other = Props.fault? kind.props props := by
  induction recased with
  | nil => rfl
  | @cons member second rest others first _ ih =>
      obtain ⟨_, value⟩ := member
      obtain ⟨key, changed⟩ := second
      obtain ⟨rfl, first⟩ := first
      have first : value.Recased kind key changed := first
      simp only [Props.fault?, ih]
      rcases wanted first with rfl | ⟨⟨word, other, rfl, rfl⟩, texts⟩
      · rfl
      · cases known : kind.props.lookup key with
        | none => rfl
        | some type =>
            rw [texts type known]
            rfl

theorem folds (recased : Recased kind props other) {name : String}
    (plain : name ≠ "backgroundColor") : Folds (string? props name) (string? other name) := by
  unfold string?
  rcases recased.lookup name with ⟨absent, otherAbsent⟩ | ⟨_, _, found, otherFound, change⟩
  · rw [absent, otherAbsent]
    exact .refl none
  · rw [found, otherFound]
    cases change with
    | same value => exact .refl _
    | keyword _ fold => exact congrArg some fold
    | background _ named => exact absurd named plain

theorem agree (recased : Recased kind props other) {name : String} (fixed : name ∉ kind.keywords)
    (plain : name ≠ "backgroundColor") : Agree props other name := by
  apply Agree.of_lookup
  rcases recased.lookup name with ⟨absent, otherAbsent⟩ | ⟨_, _, found, otherFound, change⟩
  · rw [absent, otherAbsent]
  · rw [found, otherFound]
    cases change with
    | same value => rfl
    | keyword listed => exact absurd listed fixed
    | background _ named => exact absurd named plain

theorem background (recased : Recased kind props other) (config : Config) :
    config.cardBackground (string? other "backgroundColor") =
      config.cardBackground (string? props "backgroundColor") := by
  unfold string?
  rcases recased.lookup "backgroundColor" with
    ⟨absent, otherAbsent⟩ | ⟨_, _, found, otherFound, change⟩
  · rw [absent, otherAbsent]
  · rw [found, otherFound]
    cases change with
    | same value => rfl
    | keyword listed => cases kind <;> simp [Kind.keywords] at listed
    | background _ _ plain otherPlain =>
        exact (config.cardBackground_other otherPlain).trans
          (config.cardBackground_other plain).symm

theorem layout (recased : Recased kind props other) {justify otherJustify : Option String}
    (fold : Folds otherJustify justify)
    (spacing : number? other "spacing" = number? props "spacing") :
    Layout.select kind
        { alignment := string? other "alignment", justify := otherJustify,
          spacing := number? other "spacing" } =
      Layout.select kind
        { alignment := string? props "alignment", justify, spacing := number? props "spacing" } :=
  Layout.select_folds kind (recased.folds (by decide)).symm fold (.refl none) (.refl none) spacing

end Props.Recased

namespace Render

variable {env : Environment} {below : Build (List Node)}

theorem pill_folds {kind : Kind} {label : String} {width other : Option String}
    {background foreground iconColor : Color} {icon : IconRef} (fold : Folds other width) :
    Pill.build env ⟨kind, label, other, background, foreground, icon, iconColor⟩ =
      Pill.build env ⟨kind, label, width, background, foreground, icon, iconColor⟩ := by
  have layouts :
      Pill.layout env ⟨kind, label, other, background, foreground, icon, iconColor⟩ =
        Pill.layout env ⟨kind, label, width, background, foreground, icon, iconColor⟩ :=
    Layout.select_folds kind (.refl none) (.refl none) (fold.or (.refl _)) (.refl none) rfl
  simp only [Pill.build, Pill.frame, layouts]

variable {kind : Kind} {props other : List (String × Json)}

theorem component_recased (recased : Props.Recased kind props other) :
    component env below (.ofProps kind other) = component env below (.ofProps kind props) := by
  have same (name : String) (fixed : name ∉ kind.keywords ∧ name ≠ "backgroundColor") :
      Props.Agree props other name := recased.agree fixed.1 fixed.2
  have fold (name : String) (plain : name ≠ "backgroundColor") :
      Folds (Props.string? other name) (Props.string? props name) := (recased.folds plain).symm
  have bare (plain : ∀ name ∈ kind.props.map Prod.fst,
      name ∉ kind.keywords ∧ name ≠ "backgroundColor") :
      Component.ofProps kind other = Component.ofProps kind props :=
    Props.ofProps_congr fun name known => same name (plain name known)
  -- Each reader of a keyword folds its case itself; the other props agree.
  cases kind
  case textField | checkbox | radioButton | switch | slider | placeholder =>
    rw [bare (by decide)]
  case header =>
    simp only [Component.ofProps_header, component, header, (same "text" (by decide)).string,
      (fold "textAlign" (by decide)).textAlign, (fold "fontWeight" (by decide)).fontStyle]
  case label =>
    simp only [Component.ofProps_label, component, label, (same "text" (by decide)).string,
      (fold "textAlign" (by decide)).textAlign, (fold "fontWeight" (by decide)).fontStyle]
  case linkText =>
    have align := (fold "align" (by decide)).or (fold "textAlign" (by decide))
    simp only [Component.ofProps, component, link, (same "text" (by decide)).string,
      align.textAlign, (fold "fontWeight" (by decide)).fontStyle]
  case button =>
    simp only [Component.ofProps, component, button, (same "label" (by decide)).string,
      (same "icon" (by decide)).string, (same "svgData" (by decide)).string,
      (fold "color" (by decide)).buttonFill]
    exact pill_folds (fold "width" (by decide))
  case socialButton =>
    have providers := (fold "provider" (by decide)).or (.refl (Props.string? props "icon"))
    have provider : lower (((Props.string? other "provider").or (Props.string? props "icon")).getD
          "google") =
        lower (((Props.string? props "provider").or (Props.string? props "icon")).getD "google") :=
      providers.congr (fun word => lower (word.getD "google")) Text.lower_lower
    simp only [Component.ofProps, component, socialButton, Render.provider, providerIcon,
      (same "label" (by decide)).string, (same "icon" (by decide)).string,
      (same "svgData" (by decide)).string, provider]
    exact pill_folds (fold "width" (by decide))
  case image =>
    have layout : Layout.select .image { fit := Props.string? other "fit" } =
        Layout.select .image { fit := Props.string? props "fit" } :=
      Layout.select_folds .image (.refl none) (.refl none) (.refl none) (fold "fit" (by decide)) rfl
    simp only [Component.ofProps, component, image, (same "width" (by decide)).number,
      (same "height" (by decide)).number, (same "alt" (by decide)).string,
      (same "cornerRadius" (by decide)).number, layout]
  case colorSwatch =>
    have shape :
        (Props.string? other "shape").map lower = (Props.string? props "shape").map lower :=
      fold "shape" (by decide)
    simp only [Component.ofProps, component, colorSwatch,
      (fold "color" (by decide)).swatchColor, (same "size" (by decide)).number, shape,
      (same "selected" (by decide)).boolean]
  case icon =>
    simp only [Component.ofProps, component, icon, (same "icon" (by decide)).string,
      (same "svgData" (by decide)).string, (same "size" (by decide)).number,
      (fold "color" (by decide)).iconColor]
  case row =>
    simp only [Component.ofProps, component, row,
      recased.layout (fold "justify" (by decide)) (same "spacing" (by decide)).number]
  case column =>
    simp only [Component.ofProps, component, column,
      recased.layout (.refl none) (same "spacing" (by decide)).number]
  case card =>
    simp only [Component.ofProps, component, card,
      recased.layout (.refl none) (same "spacing" (by decide)).number]
    congr 2
    funext frame
    simp only [cardFrame, recased.background, (same "padding" (by decide)).number,
      (same "hasBorder" (by decide)).boolean, (same "hasShadow" (by decide)).boolean]

end Render

/-- Entries of one tag whose own props are alike but for the case of keywords. What an entry of an
unknown kind says does not matter. -/
def Entry.Recased (read other : Entry) : Prop :=
  other.tag = read.tag ∧
    ∀ kind, Kind.ofTag? read.tag = some kind → Props.Recased kind read.own other.own

theorem Render.Same.of_recased {env : Environment} {read other : Entry}
    (recased : read.Recased other) : Same env env read other := by
  obtain ⟨sameTag, ownRecased⟩ := recased
  apply Same.of_own env.catalog sameTag
  intro kind named
  have props := ownRecased kind named
  exact ⟨props.fault?, fun _ below => component_recased props⟩

namespace Renderer

/-- Changing the case of keywords anywhere in a list changes no node, no number and no record; nor
does changing the background of a card between words other than exactly `light` and `dark`, in
whatever case they are. -/
theorem tree_recased (env : Environment) {values others : List Json}
    (alike : List.Forall₂ (Json.Alike Entry.Recased) values others) (renderer : Renderer) :
    renderer.tree env (.array others) = renderer.tree env (.array values) :=
  (tree_alike (fun _ _ => Render.Same.of_recased) alike renderer).symm

/-- A button in a card. -/
theorem tree_recased_card :
    let env : Environment :=
      ⟨.standard, .builtin, Font.ofFaces (Font.family "Inter"), .library⟩
    let entry (tag : String) (props : List (String × Json)) : Json :=
      .object [("component", .string tag), ("props", .object props)]
    let card (alignment background color : String) : Json :=
      entry "Card" [("alignment", .string alignment), ("backgroundColor", .string background),
        ("children", .array [entry "Button" [("color", .string color)]])]
    List.Forall₂ (Json.Alike Entry.Recased) [card "center" "Dark" "primary"]
        [card "Center" "DARK" "PRIMARY"] ∧
      (fresh 0).tree env (.array [card "Center" "DARK" "PRIMARY"]) =
        (fresh 0).tree env (.array [card "center" "Dark" "primary"]) := by
  intro env entry card
  have valid (tag : String) (props : List (String × Json)) :
      Entry.ofJson? (entry tag props) = some ⟨tag, props⟩ := rfl
  have button : Json.Alike Entry.Recased (entry "Button" [("color", .string "primary")])
      (entry "Button" [("color", .string "PRIMARY")]) := by
    refine .entry (valid _ _) (valid _ _) ⟨rfl, ?_⟩ nofun
    intro kind named
    have known : Kind.ofTag? "Button" = some .button := by decide
    cases known.symm.trans named
    have color : (Json.string "primary").Recased .button "color" (.string "PRIMARY") :=
      .keyword (by decide) (Text.lower_congr (by decide))
    simpa [Props.Recased, Entry.own] using color
  have alike : List.Forall₂ (Json.Alike Entry.Recased) [card "center" "Dark" "primary"]
      [card "Center" "DARK" "PRIMARY"] := by
    refine .cons (.entry (valid _ _) (valid _ _) ⟨rfl, ?_⟩ fun _ => .cons button .nil) .nil
    intro kind named
    have known : Kind.ofTag? "Card" = some .card := by decide
    cases known.symm.trans named
    have alignment : (Json.string "center").Recased .card "alignment" (.string "Center") :=
      .keyword (by decide) (Text.lower_congr (by decide))
    have background : (Json.string "Dark").Recased .card "backgroundColor" (.string "DARK") :=
      .background rfl rfl (by decide) (by decide)
    simpa [Props.Recased, Entry.own] using And.intro alignment background
  exact ⟨alike, tree_recased env alike (fresh 0)⟩

/-- The background of a card is the one keyword that is not read in any case. -/
theorem card_background_cased :
    let env : Environment :=
      ⟨.standard, .builtin, Font.ofFaces (Font.family "Inter"), .library⟩
    let card (background : String) : Json :=
      .object [("component", .string "Card"),
        ("props", .object [("backgroundColor", .string background)])]
    lower "Dark" = lower "dark" ∧
      (fresh 0).tree env (.array [card "Dark"]) ≠ (fresh 0).tree env (.array [card "dark"]) := by
  intro env card
  let fills (rendered : Except InputError (List Node) × Renderer) : Option (List (List Paint)) :=
    rendered.1.toOption.map (List.map fun node => (node.frame?.map Frame.fills).getD [])
  have white : fills ((fresh 0).tree env (.array [card "Dark"])) =
      some [[.solid env.palette.cardWhite]] := by decide +kernel
  have dark : fills ((fresh 0).tree env (.array [card "dark"])) =
      some [[.solid env.palette.cardDark]] := by decide +kernel
  refine ⟨Text.lower_congr (by decide), ?_⟩
  intro same
  have equal : env.palette.cardWhite = env.palette.cardDark := by
    simpa [dark] using white.symm.trans (congrArg fills same)
  exact absurd equal (by decide +kernel)

end Renderer

end Wireframe
