import Wireframe.Proofs.Render.Slots
/-!
Builders and the layout of their kind. Whatever a component is built from and whatever lies below
it, its node sits in its parent as decided for its kind and props, and a container is laid out so
too. A placeholder without a label is the one container that lays nothing out.
-/

namespace Wireframe

/-- The props of a component that its layout depends on; the catalog says how wide a button is when
its props do not. -/
def Component.layoutProps (catalog : Catalog) : Component → LayoutProps
  | .row props =>
      { alignment := props.alignment, justify := props.justify, spacing := props.spacing }
  | .column props => { alignment := props.alignment, spacing := props.spacing }
  | .card props => { alignment := props.alignment, spacing := props.spacing }
  | .button props => { width := props.width.or (catalog.string? .button "width") }
  | .socialButton props => { width := props.width.or (catalog.string? .socialButton "width") }
  | .image props => { fit := props.fit }
  | _ => {}

def Component.isBare : Component → Bool
  | .placeholder props => props.label.isNone
  | _ => false

/-- The node sits in its parent as decided, and if it is a container and `lays` it is laid out as
decided. -/
structure Node.Follows (layout : Layout) (lays : Bool) (node : Node) : Prop where
  align : node.header.layoutAlign = layout.layoutAlign
  frame : lays = true → ∀ own, node.layout? = some own → own = layout

namespace Node.Follows

variable {layout : Layout} {lays : Bool}

theorem single {header : Node.Header} {content : Leaf}
    (align : header.layoutAlign = layout.layoutAlign) :
    Follows layout lays (.leaf header content) := by
  refine ⟨align, ?_⟩
  intro _ own laidOut
  cases laidOut

theorem framed {frame : Frame} (laidOut : frame.applyLayout layout = frame) (header : Node.Header)
    (children : List Node) :
    Follows layout lays
      ((Node.container header frame children).withAlign layout.layoutAlign) := by
  refine ⟨rfl, ?_⟩
  intro _ own same
  rw [← laidOut] at same
  cases same
  rfl

theorem mapHeader {node : Node} (follows : Follows layout lays node)
    {change : Node.Header → Node.Header}
    (kept : ∀ header, (change header).layoutAlign = header.layoutAlign) :
    Follows layout lays (node.mapHeader change) := by
  cases node with
  | leaf header content => exact single ((kept header).trans follows.align)
  | container header frame children =>
      refine ⟨(kept header).trans follows.align, ?_⟩
      intro laid own same
      apply follows.frame laid own
      simpa [Node.mapHeader, Node.layout?, kept header] using same

end Node.Follows

def Attempt.Gives {α : Type} (attempt : Attempt α) (holds : α → Prop) : Prop :=
  ∀ lastId, match (attempt.run lastId).value with
    | .ok value => holds value
    | .error _ => True

namespace Attempt.Gives

variable {α β : Type} {attempt : Attempt α} {next : α → Attempt β}
variable {holds : α → Prop} {result : β → Prop}

theorem made {value : α} {lastId : Nat} (gives : attempt.Gives holds)
    (ran : (attempt.run lastId).value = .ok value) : holds value := by
  have fact := gives lastId
  rw [ran] at fact
  exact fact

theorem pure {value : α} (fact : holds value) : Gives (Pure.pure value) holds :=
  fun _ => fact

theorem bind (first : attempt.Gives holds)
    (rest : ∀ value, holds value → (next value).Gives result) :
    (attempt >>= next).Gives result := by
  intro lastId
  cases ended : (attempt.run lastId).value with
  | ok value =>
      rw [bind_ok next ended]
      exact rest value (first.made ended) _
  | error error =>
      rw [bind_error next ended]
      trivial

theorem after (attempt : Attempt α) (rest : ∀ value, (next value).Gives result) :
    (attempt >>= next).Gives result := by
  have anything : attempt.Gives fun _ => True := by
    intro lastId
    split <;> trivial
  exact anything.bind fun value _ => rest value

theorem frame (name : String) (frame : Frame) (children : List Node) :
    Gives (liftM (Build.frame name frame children)) fun node =>
      ∃ header, node = .container header frame children :=
  fun _ => ⟨_, rfl⟩

theorem framed {layout : Layout} {lays : Bool} {content : Frame}
    (laidOut : content.applyLayout layout = content) (name : String) (children : List Node) :
    Gives (do
        let node ← Build.frame name content children
        Pure.pure (node.withAlign layout.layoutAlign))
      (Node.Follows layout lays) := by
  apply bind (frame name content children)
  rintro node ⟨header, rfl⟩
  exact pure (.framed laidOut header children)

end Attempt.Gives

namespace Render

variable {env : Environment} {lays : Bool}

theorem text_leaf (spec : TextSpec) (color : Color) :
    (env.text spec color).Gives fun node => ∃ header run, node = .leaf header (.text run) := by
  intro lastId
  rcases env.text_cases spec color lastId with ⟨font, set⟩ | ⟨_, reason, unset⟩
  · rw [set]
    exact ⟨_, _, rfl⟩
  · rw [unset]
    trivial

theorem kindText_follows (kind : Kind) (spec : TextSpec) (color : Color) :
    (kindText env kind spec color).Gives (Node.Follows (.select kind {}) lays) := by
  apply Attempt.Gives.bind (text_leaf spec color)
  rintro node ⟨header, run, rfl⟩
  exact .pure (.single rfl)

theorem link_follows (props : LinkProps) :
    (link env props).Gives (Node.Follows (.select .linkText {}) lays) := by
  have texted (spec : TextSpec) (color : Color) :
      (kindText env .linkText spec color).Gives (Node.Follows (.select .linkText {}) true) :=
    kindText_follows .linkText spec color
  apply Attempt.Gives.bind (texted _ _)
  intro node follows
  apply Attempt.Gives.pure
  cases node with
  | leaf header content => cases content <;> exact .single follows.align
  | container header frame children => exact ⟨follows.align, fun _ => follows.frame rfl⟩

theorem pill_follows (pill : Pill) :
    (pill.build env).Gives (Node.Follows (pill.layout env) lays) := by
  apply Attempt.Gives.after
  intro icon
  apply Attempt.Gives.after
  intro label
  exact .framed rfl _ _

theorem textField_follows (props : TextFieldProps) :
    (textField env props).Gives (Node.Follows (.select .textField {}) lays) := by
  apply Attempt.Gives.after
  intro label
  apply Attempt.Gives.after
  intro start
  apply Attempt.Gives.after
  intro content
  apply Attempt.Gives.after
  intro stop
  apply Attempt.Gives.after
  intro input
  exact .framed rfl _ _

theorem labelled_follows (kind : Kind) (control : Node) (label : String) :
    (labelled env kind control label).Gives (Node.Follows (.select kind {}) lays) := by
  apply Attempt.Gives.after
  intro text
  exact .framed rfl _ _

theorem marked_follows (mark : Attempt (List Node)) (name : String) (frame : Frame) (kind : Kind)
    (label : String) :
    Attempt.Gives (do
        let inside ← mark
        let control ← Build.frame name frame inside
        labelled env kind control label)
      (Node.Follows (.select kind {}) lays) := by
  apply Attempt.Gives.after
  intro inside
  apply Attempt.Gives.after
  intro control
  exact labelled_follows kind control label

theorem checkbox_follows (props : ToggleProps) :
    (checkbox env props).Gives (Node.Follows (.select .checkbox {}) lays) := by
  unfold checkbox
  cases isChecked props with
  | true => exact marked_follows _ _ _ _ _
  | false => exact marked_follows _ _ _ _ _

theorem radioButton_follows (props : ToggleProps) :
    (radioButton env props).Gives (Node.Follows (.select .radioButton {}) lays) := by
  unfold radioButton
  cases isChecked props with
  | true => exact marked_follows _ _ _ _ _
  | false => exact marked_follows _ _ _ _ _

theorem switch_follows (props : ToggleProps) :
    (switch env props).Gives (Node.Follows (.select .switch {}) lays) := by
  apply Attempt.Gives.after
  intro thumb
  apply Attempt.Gives.after
  intro control
  exact labelled_follows .switch control _

theorem image_follows (props : ImageProps) :
    (image env props).Gives (Node.Follows (.select .image { fit := props.fit }) lays) := by
  apply Attempt.Gives.after
  intro glyph
  exact .framed rfl _ _

theorem slider_follows (props : SliderProps) :
    Attempt.Gives (liftM (slider env props)) (Node.Follows (.select .slider {}) lays) := by
  intro lastId
  let layout := Layout.select .slider {}
  let frame := (Frame.plain ⟨100, 20⟩).applyLayout layout
  have laidOut : frame.applyLayout layout = frame := rfl
  let track := (slider env props lastId).value.children
  -- The slider also grows along its parent, which is no part of the decision.
  have placed : Node.Follows layout lays _ := .framed laidOut (.fresh (lastId + 2) "Slider") track
  have grown : Node.Follows layout lays (Node.withGrow 1 _) := placed.mapHeader fun _ => rfl
  exact grown

theorem colorSwatch_follows (props : ColorSwatchProps) :
    Attempt.Gives (liftM (colorSwatch env props))
      (Node.Follows (.select .colorSwatch {}) lays) := by
  intro lastId
  refine ⟨rfl, ?_⟩
  intro _ own same
  cases same
  rfl

theorem icon_follows (props : IconProps) :
    (icon env props).Gives (Node.Follows (.select .icon {}) lays) := by
  intro lastId
  unfold icon
  dsimp only
  rcases env.icon?_cases ⟨some (props.icon.getD "icon"), props.svgData⟩ _ _ with
    ⟨_, missing⟩ | ⟨_, refused⟩ | ⟨_, vector, drawn⟩
  · rw [missing]
    trivial
  · rw [refused]
    trivial
  · rw [drawn]
    exact .single rfl

/-- The frame around a label is laid out; without a label nothing is. -/
theorem placeholder_follows (props : PlaceholderProps) :
    (placeholder env props).Gives
      (Node.Follows (.select .placeholder {}) (!props.label.isNone)) := by
  unfold placeholder
  cases props.label with
  | none =>
      intro lastId
      exact ⟨rfl, fun lays => by cases lays⟩
  | some label =>
      apply Attempt.Gives.after
      intro text
      exact .framed rfl _ _

theorem panel_follows (kind : Kind) (layout : Layout) {decorate : Frame → Frame}
    (keeps : ∀ frame : Frame, (decorate (frame.applyLayout layout)).applyLayout layout =
      decorate (frame.applyLayout layout))
    (below : Build (List Node)) :
    Attempt.Gives (liftM (panel kind layout decorate below)) (Node.Follows layout lays) := by
  intro lastId
  exact .framed (keeps _) _ _

/-- By kinds: every builder follows the decision for its kind and props. -/
theorem component_follows (below : Build (List Node)) {component : Component} {kind : Kind}
    (known : component.kind? = some kind) :
    (Render.component env below component).Gives
      (Node.Follows (.select kind (component.layoutProps env.catalog)) (!component.isBare)) := by
  cases component with
  | unknown tag => cases known
  | header props =>
      cases known
      exact kindText_follows _ _ _
  | label props =>
      cases known
      exact kindText_follows _ _ _
  | linkText props =>
      cases known
      exact link_follows props
  | button props =>
      cases known
      exact pill_follows _
  | socialButton props =>
      cases known
      exact pill_follows _
  | textField props =>
      cases known
      exact textField_follows props
  | checkbox props =>
      cases known
      exact checkbox_follows props
  | radioButton props =>
      cases known
      exact radioButton_follows props
  | switch props =>
      cases known
      exact switch_follows props
  | image props =>
      cases known
      exact image_follows props
  | colorSwatch props =>
      cases known
      exact colorSwatch_follows props
  | icon props =>
      cases known
      exact icon_follows props
  | slider props =>
      cases known
      exact slider_follows props
  | placeholder props =>
      cases known
      exact placeholder_follows props
  | row props =>
      cases known
      exact panel_follows _ _ (fun _ => rfl) below
  | column props =>
      cases known
      exact panel_follows _ _ (fun _ => rfl) below
  | card props =>
      cases known
      exact panel_follows _ _ (fun _ => rfl) below

theorem named_follows {layout : Layout} {node : Node} (follows : Node.Follows layout lays node)
    (tag : String) : Node.Follows layout lays (named tag node) := by
  unfold named
  split
  · exact follows.mapHeader fun _ => rfl
  · exact follows

theorem entry_builds {read : Entry} {component : Component} {depth : Nat}
    (faultless : read.fault? env depth = none) (reads : Component.ofEntry read = .ok component)
    (lastId : Nat) :
    ∃ node log last,
      entry env depth read (inside env depth read) lastId =
        ⟨some (named read.tag node), log, last⟩ ∧
      ((Render.component env (inside env depth read) component).run lastId).value = .ok node := by
  have sound : read.error? env depth = none := (Option.or_eq_none_iff.mp faultless).1
  have noFontError : component.fontError? env = none := by
    rw [← Entry.fault?_of_sound sound reads, faultless]
  obtain ⟨fonts, set⟩ : ∃ fonts, env.faces component.styles = .ok fonts := by
    unfold Component.fontError? at noFontError
    split at noFontError
    · exact ⟨_, ‹_›⟩
    · cases noFontError
  have below : (inside env depth read).Renders env
      (Visit.all env.config.maxDepth (depth + 1) read.children) := by
    intro lastId
    have renders : Build.Renders env _ _ := trees_renders (depth + 1) read.children
    have made := renders lastId
    rw [inside, kept, Build.bind_apply]
    exact ⟨made.notes.append_quiet .empty, made.faces, made.present⟩
  obtain ⟨node, made, value, _⟩ := attempt_made sound reads set below lastId
  let ran := (attempt env depth read (inside env depth read)).run lastId
  refine ⟨node, ran.log, ran.lastId, entry_ready ?_, value⟩
  exact congrArg (Built.mk · ran.log ran.lastId) made

end Render

namespace Renderer

variable {env : Environment}

/-- Builders follow the layout of their kind. An entry of some kind that is built becomes a node
that sits in its parent as decided for the kind and the props of the entry; and if the node is a
container, other than a placeholder without a label, it is laid out as decided. -/
theorem entry_follows_layout {depth : Nat} {value : Json} {read : Entry} {component : Component}
    {kind : Kind} (valid : Entry.ofJson? value = some read)
    (reads : Component.ofEntry read = .ok component) (known : component.kind? = some kind)
    (faultless : read.fault? env depth = none) (renderer : Renderer) :
    let decided := Layout.select kind (component.layoutProps env.catalog)
    ∃ node after, renderer.entry env depth value = (some node, after) ∧
      node.header.layoutAlign = decided.layoutAlign ∧
      (component.isBare = false → ∀ own, node.layout? = some own → own = decided) := by
  intro decided
  obtain ⟨node, log, last, made, value⟩ :=
    Render.entry_builds faultless reads renderer.lastId
  have follows : Node.Follows decided (!component.isBare) node :=
    (Render.component_follows _ known).made value
  have named := Render.named_follows follows read.tag
  refine ⟨_, ⟨last, renderer.log ++ log⟩, ?_, named.align, ?_⟩
  · rw [entry, run, Tree.ofJson_entry valid, Render.tree]
    rw [Render.inside] at made
    rw [made]
  · intro labelled
    exact named.frame (by rw [labelled]; rfl)

/-- A row around an icon that nobody knows. -/
theorem entry_follows_layout_row :
    let env : Environment := ⟨.standard, .builtin, Font.ofFaces (Font.family "Inter"), .library⟩
    let entry (tag : String) (props : List (String × Json)) : Json :=
      .object [("component", .string tag), ("props", .object props)]
    let below := [entry "Icon" [("icon", .string "rocket")]]
    let props := [("justify", .string "space_between"), ("children", .array below)]
    let rendered := (fresh 0).entry env 0 (entry "Row" props)
    Entry.fault? env 0 ⟨"Row", props⟩ = none ∧ rendered.2.log.failures.length = 1 ∧
      ∃ node, rendered.1 = some node ∧
        node.layout? = some ⟨.horizontal, .fill, .hug, .spaceBetween, .center, 8, .stretch⟩ := by
  intro env entry below props rendered
  have faultless : Entry.fault? env 0 ⟨"Row", props⟩ = none := by decide +kernel
  have failed : rendered.2.log.failures.length = 1 := by decide +kernel
  have laidOut : (rendered.1.bind Node.layout?).isSome = true := by decide +kernel
  have valid : Entry.ofJson? (entry "Row" props) = some ⟨"Row", props⟩ := rfl
  have reads : Component.ofEntry ⟨"Row", props⟩ =
      .ok (.row ⟨none, none, some "space_between"⟩) := rfl
  obtain ⟨node, after, made, align, frame⟩ :=
    entry_follows_layout valid reads rfl faultless (fresh 0)
  have one : rendered.1 = some node := congrArg Prod.fst made
  rw [one] at laidOut
  obtain ⟨own, same⟩ := Option.isSome_iff_exists.mp laidOut
  have decided := frame rfl own same
  refine ⟨faultless, failed, node, one, same.trans (congrArg some (decided.trans ?_))⟩
  decide +kernel

end Renderer

end Wireframe
