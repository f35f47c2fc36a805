import Wireframe.Proofs.Render.Numbering

namespace Wireframe

open Numbered (raise)

variable {shift : Nat}

namespace Environment

variable (env : Environment)

theorem text_shifted (spec : TextSpec) (color : Color) :
    Attempt.Shifted shift (env.text spec color) (env.text spec color) := by
  have made : Build.Shifted shift (Build.text env.fonts env.config.fontFamilies spec)
      (Build.text env.fonts env.config.fontFamilies spec) := by
    unfold Build.text
    cases Font.resolve env.fonts env.config.fontFamilies spec.style with
    | error error => exact Build.Shifted.pure rfl
    | ok font =>
        apply Build.Shifted.bind (Build.Shifted.leaf _ _)
        intro node
        exact Build.Shifted.pure rfl
  apply Attempt.Shifted.bind (Attempt.Shifted.lift made)
  intro result
  cases result with
  | error error => exact Attempt.Shifted.throw _
  | ok node => exact Attempt.Shifted.pure (Node.raise_mapText _ _ _)

theorem icon?_shifted (icon : IconRef) (size : Float32) (color : Color) :
    Attempt.Shifted shift (env.icon? icon size color) (env.icon? icon size color) := by
  unfold icon?
  cases icon.markup? env.icons with
  | none => exact Attempt.Shifted.pure rfl
  | some markup =>
      dsimp only
      cases icon.draw env.icons markup size color with
      | none => exact Attempt.Shifted.throw _
      | some vector =>
          apply Attempt.Shifted.map (Attempt.Shifted.lift (Build.Shifted.leaf _ _))
          intro node
          rfl

theorem iconSlot_shifted (icon : IconRef) (size : Float32) (color : Color) :
    Build.Shifted shift (env.iconSlot icon size color) (env.iconSlot icon size color) := by
  apply Build.Shifted.bind (env.icon?_shifted icon size color)
  intro result
  cases result with
  | ok node => cases node <;> exact Build.Shifted.pure rfl
  | error error =>
      apply Build.Shifted.bind (Build.Shifted.record _)
      intro _
      exact Build.Shifted.pure rfl

end Environment

namespace Render

variable (env : Environment)

theorem kindText_shifted (kind : Kind) (spec : TextSpec) (color : Color) :
    Attempt.Shifted shift (kindText env kind spec color) (kindText env kind spec color) := by
  apply Attempt.Shifted.map (env.text_shifted spec color)
  intro node
  simp

theorem link_shifted (props : LinkProps) :
    Attempt.Shifted shift (link env props) (link env props) := by
  apply Attempt.Shifted.map (kindText_shifted env _ _ _)
  intro node
  simp

theorem pill_shifted (pill : Pill) : Attempt.Shifted shift (pill.build env) (pill.build env) := by
  apply Attempt.Shifted.bind (Attempt.Shifted.lift (env.iconSlot_shifted _ _ _))
  intro icon
  apply Attempt.Shifted.bind (env.text_shifted _ _)
  intro label
  apply Attempt.Shifted.map (Attempt.Shifted.lift (Build.Shifted.frame _ _ (by simp)))
  intro node
  simp

theorem fieldLabel_shifted (label : Option String) :
    Attempt.Shifted shift (fieldLabel env label) (fieldLabel env label) := by
  cases label with
  | none => exact Attempt.Shifted.pure rfl
  | some label =>
      apply Attempt.Shifted.map (env.text_shifted _ _)
      intro node
      simp

theorem fieldText_shifted (placeholder : Option String) :
    Attempt.Shifted shift (fieldText env placeholder) (fieldText env placeholder) := by
  cases placeholder with
  | some placeholder =>
      apply Attempt.Shifted.map (env.text_shifted _ _)
      intro node
      simp
  | none =>
      apply Attempt.Shifted.map (Attempt.Shifted.lift (Build.Shifted.frame _ _ rfl))
      intro node
      simp

theorem textField_shifted (props : TextFieldProps) :
    Attempt.Shifted shift (textField env props) (textField env props) := by
  apply Attempt.Shifted.bind (fieldLabel_shifted env _)
  intro label
  apply Attempt.Shifted.bind (Attempt.Shifted.lift (env.iconSlot_shifted _ _ _))
  intro start
  apply Attempt.Shifted.bind (fieldText_shifted env _)
  intro content
  apply Attempt.Shifted.bind (Attempt.Shifted.lift (env.iconSlot_shifted _ _ _))
  intro stop
  apply Attempt.Shifted.bind (Attempt.Shifted.lift (Build.Shifted.frame _ _ (by simp)))
  intro input
  apply Attempt.Shifted.map (Attempt.Shifted.lift (Build.Shifted.frame _ _ (by simp)))
  intro node
  simp

theorem labelled_shifted (kind : Kind) (control : Node) (label : String) :
    Attempt.Shifted shift (labelled env kind control label)
      (labelled env kind (control.raise shift) label) := by
  apply Attempt.Shifted.bind (env.text_shifted _ _)
  intro text
  apply Attempt.Shifted.map (Attempt.Shifted.lift (Build.Shifted.frame _ _ (by simp)))
  intro node
  simp

theorem marked_shifted {mark : Attempt (List Node)} (made : Attempt.Shifted shift mark mark)
    (name : String) (frame : Frame) (kind : Kind) (label : String) :
    Attempt.Shifted shift
      (do
        let inside ← mark
        let control ← Build.frame name frame inside
        labelled env kind control label)
      (do
        let inside ← mark
        let control ← Build.frame name frame inside
        labelled env kind control label) := by
  apply Attempt.Shifted.bind made
  intro inside
  apply Attempt.Shifted.bind (Attempt.Shifted.lift (Build.Shifted.frame _ _ rfl))
  intro control
  exact labelled_shifted env kind control label

theorem checkbox_shifted (props : ToggleProps) :
    Attempt.Shifted shift (checkbox env props) (checkbox env props) := by
  unfold checkbox
  cases isChecked props with
  | true => exact marked_shifted env (Attempt.Shifted.lift (env.iconSlot_shifted _ _ _)) _ _ _ _
  | false => exact marked_shifted env (Attempt.Shifted.pure rfl) _ _ _ _

theorem radioDot_shifted : Build.Shifted shift (radioDot env) (radioDot env) := by
  apply Build.Shifted.bind (Build.Shifted.leaf _ _)
  intro dot
  exact Build.Shifted.pure (by simp)

theorem radioButton_shifted (props : ToggleProps) :
    Attempt.Shifted shift (radioButton env props) (radioButton env props) := by
  have dot : Attempt.Shifted shift (do let dot ← radioDot env; pure [dot])
      (do let dot ← radioDot env; pure [dot]) := by
    apply Attempt.Shifted.map (Attempt.Shifted.lift (radioDot_shifted env))
    intro node
    rfl
  unfold radioButton
  cases isChecked props with
  | true => exact marked_shifted env dot _ _ _ _
  | false => exact marked_shifted env (Attempt.Shifted.pure rfl) _ _ _ _

theorem switch_shifted (props : ToggleProps) :
    Attempt.Shifted shift (switch env props) (switch env props) := by
  apply Attempt.Shifted.bind (Attempt.Shifted.lift (Build.Shifted.leaf _ _))
  intro thumb
  apply Attempt.Shifted.bind (Attempt.Shifted.lift (Build.Shifted.frame _ _ (by simp)))
  intro control
  exact labelled_shifted env _ control _

theorem slider_shifted (props : SliderProps) :
    Build.Shifted shift (slider env props) (slider env props) := by
  apply Build.Shifted.bind (Build.Shifted.leaf _ _)
  intro track
  apply Build.Shifted.bind (Build.Shifted.frame _ _ (by simp))
  intro node
  exact Build.Shifted.pure (by simp)

theorem image_shifted (props : ImageProps) :
    Attempt.Shifted shift (image env props) (image env props) := by
  apply Attempt.Shifted.bind (Attempt.Shifted.lift (env.iconSlot_shifted _ _ _))
  intro glyph
  apply Attempt.Shifted.map (Attempt.Shifted.lift (Build.Shifted.frame _ _ rfl))
  intro node
  simp

theorem colorSwatch_shifted (props : ColorSwatchProps) :
    Build.Shifted shift (colorSwatch env props) (colorSwatch env props) :=
  Build.Shifted.frame _ _ rfl

theorem icon_shifted (props : IconProps) :
    Attempt.Shifted shift (icon env props) (icon env props) := by
  apply Attempt.Shifted.bind (env.icon?_shifted _ _ _)
  intro found
  cases found with
  | none => exact Attempt.Shifted.throw _
  | some node => exact Attempt.Shifted.pure (Node.raise_withAlign _ _ _)

theorem placeholder_shifted (props : PlaceholderProps) :
    Attempt.Shifted shift (placeholder env props) (placeholder env props) := by
  unfold placeholder
  cases props.label with
  | none =>
      apply Attempt.Shifted.map (Attempt.Shifted.lift (Build.Shifted.frame _ _ rfl))
      intro node
      simp
  | some label =>
      apply Attempt.Shifted.bind (env.text_shifted _ _)
      intro text
      apply Attempt.Shifted.map (Attempt.Shifted.lift (Build.Shifted.frame _ _ rfl))
      intro node
      simp

variable {below moved : Build (List Node)}

theorem panel_shifted (kind : Kind) (layout : Layout) (decorate : Frame → Frame)
    (inside : Build.Shifted shift below moved) :
    Build.Shifted shift (panel kind layout decorate below) (panel kind layout decorate moved) := by
  apply Build.Shifted.bind inside
  intro children
  apply Build.Shifted.bind (Build.Shifted.frame _ _ rfl)
  intro node
  exact Build.Shifted.pure (by simp)

theorem unknown_shifted (tag : String) :
    Attempt.Shifted shift (component env below (.unknown tag))
      (component env moved (.unknown tag)) := by
  apply Attempt.Shifted.map (env.text_shifted _ _)
  intro node
  simp

/-- What a component becomes is as uniform as what lies below it. -/
theorem component_shifted (inside : Build.Shifted shift below moved) (read : Component) :
    Attempt.Shifted shift (component env below read) (component env moved read) := by
  cases read with
  | header props => exact kindText_shifted env _ _ _
  | label props => exact kindText_shifted env _ _ _
  | linkText props => exact link_shifted env props
  | button props => exact pill_shifted env _
  | socialButton props => exact pill_shifted env _
  | textField props => exact textField_shifted env props
  | checkbox props => exact checkbox_shifted env props
  | radioButton props => exact radioButton_shifted env props
  | switch props => exact switch_shifted env props
  | image props => exact image_shifted env props
  | colorSwatch props => exact Attempt.Shifted.lift (colorSwatch_shifted env props)
  | icon props => exact icon_shifted env props
  | slider props => exact Attempt.Shifted.lift (slider_shifted env props)
  | placeholder props => exact placeholder_shifted env props
  | row props => exact Attempt.Shifted.lift (panel_shifted _ _ _ inside)
  | column props => exact Attempt.Shifted.lift (panel_shifted _ _ _ inside)
  | card props => exact Attempt.Shifted.lift (panel_shifted _ _ _ inside)
  | unknown tag => exact unknown_shifted env tag

theorem counted_shifted {first second : Attempt Node}
    (made : Attempt.Shifted shift first second) :
    Attempt.Shifted shift (do let node ← first; Build.record .oneBuilt; pure node)
      (do let node ← second; Build.record .oneBuilt; pure node) := by
  apply Attempt.Shifted.bind made
  intro node
  apply Attempt.Shifted.bind (Attempt.Shifted.lift (Build.Shifted.record _))
  intro _
  exact Attempt.Shifted.pure rfl

theorem recorded_shifted (inside : Build.Shifted shift below moved) (read : Component) :
    Attempt.Shifted shift (recorded env below read) (recorded env moved read) := by
  have made := component_shifted env inside read
  cases read with
  | unknown tag =>
      apply Attempt.Shifted.bind (Attempt.Shifted.lift (Build.Shifted.record _))
      intro _
      exact made
  | _ => exact counted_shifted made

theorem attempt_shifted (depth : Nat) (read : Entry) (inside : Build.Shifted shift below moved) :
    Attempt.Shifted shift (attempt env depth read below) (attempt env depth read moved) := by
  unfold attempt
  split
  · exact Attempt.Shifted.throw _
  · cases Component.ofEntry read with
    | error error => exact Attempt.Shifted.throw _
    | ok component => exact recorded_shifted env inside component

theorem errorText_shifted (tag : String) :
    Build.Shifted shift (errorText env tag) (errorText env tag) := by
  apply Build.Shifted.bind (env.text_shifted _ _)
  intro result
  cases result with
  | error error => exact Build.Shifted.pure rfl
  | ok node => exact Build.Shifted.pure (congrArg some (Node.raise_rename _ _ _))

theorem raise_named (tag : String) (node : Node) :
    (named tag node).raise shift = named tag (node.raise shift) := by
  unfold named
  rw [Node.name_raise]
  split
  · exact Node.raise_rename _ _ _
  · rfl

theorem entry_shifted (depth : Nat) (read : Entry) (inside : Build.Shifted shift below moved) :
    Build.Shifted shift (entry env depth read below) (entry env depth read moved) := by
  apply Build.Shifted.bind (attempt_shifted env depth read inside)
  intro result
  cases result with
  | ok node => exact Build.Shifted.pure (congrArg some (raise_named _ _))
  | error error =>
      apply Build.Shifted.bind (Build.Shifted.record _)
      intro _
      exact errorText_shifted env _

theorem kept_shifted {first second : Build (List (Option Node))}
    (build : Build.Shifted shift first second) :
    Build.Shifted shift (kept first) (kept second) := by
  apply Build.Shifted.bind build
  intro found
  apply Build.Shifted.pure
  change (found.filterMap id).map (raise shift) =
    (found.map (Option.map (raise shift))).filterMap id
  rw [List.map_filterMap, List.filterMap_map]
  rfl

mutual

theorem tree_shifted (depth : Nat) (read : Tree) :
    Build.Shifted shift (tree env depth read) (tree env depth read) := by
  cases read with
  | invalid =>
      apply Build.Shifted.bind (Build.Shifted.record _)
      intro _
      exact Build.Shifted.pure rfl
  | entry read children =>
      exact entry_shifted env depth read (kept_shifted (trees_shifted (depth + 1) children))

theorem trees_shifted (depth : Nat) (list : List Tree) :
    Build.Shifted shift (trees env depth list) (trees env depth list) := by
  cases list with
  | nil => exact Build.Shifted.pure rfl
  | cons first rest =>
      apply Build.Shifted.bind (tree_shifted depth first)
      intro node
      apply Build.Shifted.bind (trees_shifted depth rest)
      intro others
      exact Build.Shifted.pure rfl

end

end Render

end Wireframe
