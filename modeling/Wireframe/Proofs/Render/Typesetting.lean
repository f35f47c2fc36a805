import Wireframe.Proofs.Render.Reliability
import Wireframe.Proofs.Scene.Faces

namespace Wireframe

open Assembly (nodes)

/-- The styles of the texts of a component, in their order. What lies below it has its own. -/
def Component.styles : Component → List FontStyle
  | .header props => [.ofWord .bold props.fontWeight]
  | .label props => [.ofWord .regular props.fontWeight]
  | .linkText props => [.ofWord .regular props.fontWeight]
  | .button _ | .socialButton _ => [.medium]
  | .textField props =>
      props.label.toList.map (fun _ => .regular) ++
        props.placeholder.toList.map fun _ => .regular
  | .checkbox _ | .radioButton _ | .switch _ => [.regular]
  | .placeholder props => props.label.toList.map fun _ => .regular
  | .unknown _ => [.bold]
  | .image _ | .colorSwatch _ | .icon _ | .slider _ | .row _ | .column _ | .card _ => []

namespace Environment

variable (env : Environment)

def face? (style : FontStyle) : Option FontName :=
  (Font.chain env.config.fontFamilies style).find? env.fonts

def faces (styles : List FontStyle) : Except Font.Unavailable (List FontName) :=
  styles.mapM (Font.resolve env.fonts env.config.fontFamilies)

theorem faces_nil : env.faces [] = .ok [] := List.mapM_nil

theorem faces_append (front back : List FontStyle) :
    env.faces (front ++ back) = (do
      let first ← env.faces front
      let second ← env.faces back
      pure (first ++ second)) :=
  List.mapM_append

theorem style_cases (style : FontStyle) :
    (∃ font, env.face? style = some font ∧ env.faces [style] = .ok [font] ∧
      Font.resolve env.fonts env.config.fontFamilies style = .ok font) ∨
    ∃ reason, env.face? style = none ∧ env.faces [style] = .error reason ∧
      Font.resolve env.fonts env.config.fontFamilies style = .error reason := by
  unfold face? faces
  rw [List.mapM_cons, List.mapM_nil]
  unfold Font.resolve
  cases (Font.chain env.config.fontFamilies style).find? env.fonts with
  | some font => exact Or.inl ⟨font, rfl, rfl, rfl⟩
  | none => exact Or.inr ⟨_, rfl, rfl, rfl⟩

theorem faces_eq_filterMap {styles : List FontStyle} {fonts : List FontName}
    (found : env.faces styles = .ok fonts) : fonts = styles.filterMap env.face? := by
  induction styles generalizing fonts with
  | nil =>
      rw [env.faces_nil] at found
      cases found
      rfl
  | cons style rest ih =>
      rw [← List.singleton_append, env.faces_append] at found
      rcases env.style_cases style with ⟨font, first, set, _⟩ | ⟨reason, _, unset, _⟩
      · rw [set] at found
        cases others : env.faces rest with
        | ok more =>
            rw [others] at found
            cases found
            rw [List.filterMap_cons_some first, ← ih others]
            rfl
        | error reason =>
            rw [others] at found
            cases found
      · rw [unset] at found
        cases found

end Environment

/-- Builds that need no face and note no entry; their value has texts in these faces. -/
def Build.Shows {α : Type} [Assembly α] (shown : List FontName) (build : Build α) : Prop :=
  ∀ lastId, (build lastId).log.Quiet ∧ Node.facesOf (nodes (build lastId).value) = shown

/-- An attempt at a value whose texts have the faces `before` and then those of these styles. It
fails if one of the styles has no face. -/
def Attempt.Sets {α : Type} [Assembly α] (env : Environment) (before : List FontName)
    (styles : List FontStyle) (attempt : Attempt α) : Prop :=
  ∀ lastId, (attempt.run lastId).log.Quiet ∧
    match env.faces styles with
    | .ok fonts => ∃ value, (attempt.run lastId).value = .ok value ∧
        Node.facesOf (nodes value) = before ++ fonts
    | .error reason => (attempt.run lastId).value = .error (.font reason)

namespace Attempt.Sets

variable {α β : Type} [Assembly α] [Assembly β] {env : Environment}
variable {before own : List FontName} {first second styles : List FontStyle}

theorem pure {value : α} (shown : Node.facesOf (nodes value) = before) :
    Sets env before [] (Pure.pure value : Attempt α) := by
  intro lastId
  rw [env.faces_nil]
  exact ⟨.empty, value, rfl, by rw [shown, List.append_nil]⟩

theorem lift {build : Build α} (shows : build.Shows before) :
    Sets env before [] (liftM build : Attempt α) := by
  intro lastId
  obtain ⟨quiet, shown⟩ := shows lastId
  rw [env.faces_nil]
  exact ⟨quiet.append .empty, (build lastId).value, rfl, by rw [shown, List.append_nil]⟩

theorem bind {attempt : Attempt α} {next : α → Attempt β} (sets : Sets env own first attempt)
    (rest : ∀ value fonts, env.faces first = .ok fonts →
      Node.facesOf (nodes value) = own ++ fonts →
      Sets env (before ++ fonts) second (next value)) :
    Sets env before (first ++ second) (attempt >>= next) := by
  intro lastId
  obtain ⟨quiet, ended⟩ := sets lastId
  rw [env.faces_append]
  cases found : env.faces first with
  | error reason =>
      rw [found] at ended
      rw [bind_error next ended]
      exact ⟨quiet, rfl⟩
  | ok fonts =>
      rw [found] at ended
      obtain ⟨value, made, shown⟩ := ended
      obtain ⟨later, last⟩ := rest value fonts found shown (attempt.run lastId).lastId
      rw [bind_ok next made]
      refine ⟨quiet.append later, ?_⟩
      cases others : env.faces second with
      | error reason =>
          rw [others] at last
          exact last
      | ok more =>
          rw [others] at last
          obtain ⟨value, made, shown⟩ := last
          refine ⟨value, made, ?_⟩
          rw [shown, List.append_assoc]

theorem after {attempt : Attempt α} {next : α → Attempt β} (sets : Sets env own [] attempt)
    (rest : ∀ value, Node.facesOf (nodes value) = own → Sets env before styles (next value)) :
    Sets env before styles (attempt >>= next) := by
  rw [← List.nil_append styles]
  apply bind sets
  intro value fonts found shown
  rw [env.faces_nil] at found
  cases found
  rw [List.append_nil] at shown ⊢
  exact rest value shown

theorem andThen {attempt : Attempt α} {next : α → Attempt β} (sets : Sets env own styles attempt)
    (rest : ∀ value fonts, Node.facesOf (nodes value) = own ++ fonts →
      Sets env (before ++ fonts) [] (next value)) :
    Sets env before styles (attempt >>= next) := by
  rw [← List.append_nil styles]
  apply bind sets
  intro value fonts _ shown
  exact rest value fonts shown

theorem map {attempt : Attempt α} (sets : Sets env before styles attempt) {change : α → β}
    (kept : ∀ value, Node.facesOf (nodes (change value)) = Node.facesOf (nodes value)) :
    Sets env before styles (attempt >>= fun value => Pure.pure (change value)) := by
  apply andThen sets
  intro value fonts shown
  exact pure ((kept value).trans shown)

end Attempt.Sets

namespace Build.Shows

variable {shown : List FontName}

theorem frame (name : String) (content : Frame) {children : List Node}
    (inside : Node.facesOf children = shown) :
    Shows shown (Build.frame name content children) := by
  intro lastId
  refine ⟨Diagnostics.Quiet.empty.append .empty, ?_⟩
  simpa [Build.frame, freshId, Bind.bind, Build.bind, Pure.pure, Build.pure] using inside

theorem shape (kind : ShapeKind) (shape : Shape) : Shows [] (Build.shape kind shape) := by
  intro lastId
  refine ⟨Diagnostics.Quiet.empty.append .empty, ?_⟩
  cases kind <;> rfl

end Build.Shows

theorem Attempt.Sets.framed {env : Environment} {before : List FontName} {children : List Node}
    (inside : Node.facesOf children = before) (name : String) (content : Frame)
    {change : Node → Node} (kept : ∀ node, (change node).faces = node.faces) :
    Attempt.Sets env before []
      (liftM (Build.frame name content children) >>= fun node => Pure.pure (change node)) := by
  apply Attempt.Sets.map (.lift (.frame name content inside))
  intro node
  simp [kept]

namespace Environment

variable (env : Environment)

theorem text_sets (spec : TextSpec) (color : Color) :
    Attempt.Sets env [] [spec.style] (env.text spec color) := by
  intro lastId
  rcases env.style_cases spec.style with ⟨font, _, set, resolved⟩ | ⟨reason, _, unset, failed⟩
  · rw [set, text_set spec resolved]
    exact ⟨.empty, _, rfl, rfl⟩
  · rw [unset, text_unset spec failed]
    exact ⟨.empty, rfl⟩

theorem iconSlot_shows (icon : IconRef) (size : Float32) (color : Color) :
    Build.Shows [] (env.iconSlot icon size color) := by
  intro lastId
  have makes : Build.Makes False Diagnostics.Quiet 1 [] (env.iconSlot icon size color) :=
    env.iconSlot_makes icon size color
  refine ⟨makes.quiet lastId, ?_⟩
  rcases env.iconSlot_cases icon size color lastId with
    ⟨_, empty⟩ | ⟨_, _, _, noted⟩ | ⟨_, vector, _, _, drawn⟩
  · rw [empty]
    rfl
  · rw [noted]
    rfl
  · rw [drawn]
    rfl

end Environment

namespace Render

variable {env : Environment}

theorem kindText_sets (kind : Kind) (spec : TextSpec) (color : Color) :
    Attempt.Sets env [] [spec.style] (kindText env kind spec color) :=
  (env.text_sets spec color).map (by simp)

theorem link_sets (props : LinkProps) :
    Attempt.Sets env [] [.ofWord .regular props.fontWeight] (link env props) := by
  apply Attempt.Sets.map (kindText_sets _ _ _)
  intro node
  simp [Node.faces_mapText]

theorem pill_sets (pill : Pill) : Attempt.Sets env [] [.medium] (pill.build env) := by
  apply Attempt.Sets.after (.lift (env.iconSlot_shows _ _ _))
  intro icon (noFace : Node.facesOf icon = [])
  apply Attempt.Sets.andThen (env.text_sets _ _)
  intro label fonts set
  apply Attempt.Sets.framed _ _ _ (by simp)
  rw [Node.facesOf_append, noFace]
  exact set

theorem fieldLabel_sets (label : Option String) :
    Attempt.Sets env [] (label.toList.map fun _ => .regular) (fieldLabel env label) := by
  cases label with
  | none => exact .pure Node.facesOf_nil
  | some label => exact (env.text_sets _ _).map (by simp)

theorem fieldText_sets (placeholder : Option String) :
    Attempt.Sets env [] (placeholder.toList.map fun _ => .regular)
      (fieldText env placeholder) := by
  cases placeholder with
  | none => exact .framed Node.facesOf_nil _ _ (by simp)
  | some placeholder => exact (env.text_sets _ _).map (by simp [Node.faces_mapText])

theorem textField_sets (props : TextFieldProps) :
    Attempt.Sets env []
      (props.label.toList.map (fun _ => .regular) ++ props.placeholder.toList.map fun _ => .regular)
      (textField env props) := by
  apply Attempt.Sets.bind (fieldLabel_sets _)
  intro label front _ labelSet
  apply Attempt.Sets.after (.lift (env.iconSlot_shows _ _ _))
  intro start noFace
  apply Attempt.Sets.andThen (fieldText_sets _)
  intro content back contentSet
  apply Attempt.Sets.after (.lift (env.iconSlot_shows _ _ _))
  intro stop stopNoFace
  have inside : Node.facesOf (start ++ [content] ++ stop) = back := by simp_all
  apply Attempt.Sets.after (.lift (.frame _ _ inside))
  intro input inputSet
  apply Attempt.Sets.framed _ _ _ (by simp)
  simp_all

theorem labelled_sets (kind : Kind) {control : Node} (noFace : control.faces = [])
    (label : String) : Attempt.Sets env [] [.regular] (labelled env kind control label) := by
  apply Attempt.Sets.andThen (env.text_sets _ _)
  intro text fonts set
  apply Attempt.Sets.framed _ _ _ (by simp)
  rw [Node.facesOf_cons, noFace]
  exact set

theorem marked_sets {mark : Attempt (List Node)} (sets : Attempt.Sets env [] [] mark)
    (name : String) (frame : Frame) (kind : Kind) (label : String) :
    Attempt.Sets env [] [.regular] (do
      let inside ← mark
      let control ← Build.frame name frame inside
      labelled env kind control label) := by
  apply Attempt.Sets.after sets
  intro inside noFace
  apply Attempt.Sets.after (.lift (.frame _ _ noFace))
  intro control noFace
  exact labelled_sets kind (by simpa using noFace) label

theorem checkbox_sets (props : ToggleProps) :
    Attempt.Sets env [] [.regular] (checkbox env props) := by
  unfold checkbox
  cases isChecked props with
  | true => exact marked_sets (.lift (env.iconSlot_shows _ _ _)) _ _ _ _
  | false => exact marked_sets (.pure Node.facesOf_nil) _ _ _ _

theorem radioDot_shows : Build.Shows [] (radioDot env) := by
  intro lastId
  exact ⟨.append (.append .empty .empty) .empty, rfl⟩

theorem radioButton_sets (props : ToggleProps) :
    Attempt.Sets env [] [.regular] (radioButton env props) := by
  have dot : Attempt.Sets env [] [] (do let dot ← radioDot env; pure [dot]) :=
    Attempt.Sets.map (.lift radioDot_shows) (by simp)
  unfold radioButton
  cases isChecked props with
  | true => exact marked_sets dot _ _ _ _
  | false => exact marked_sets (.pure Node.facesOf_nil) _ _ _ _

theorem switch_sets (props : ToggleProps) :
    Attempt.Sets env [] [.regular] (switch env props) := by
  apply Attempt.Sets.after (.lift (.shape _ _))
  intro thumb noFace
  have inside : Node.facesOf [(thumb.rename "Thumb").withPosition
      (some ⟨thumbOffset (isChecked props), (trackSize.height - thumbSide) / 2⟩)] = [] := by
    simpa using noFace
  apply Attempt.Sets.after (.lift (.frame _ _ inside))
  intro control noFace
  exact labelled_sets _ (by simpa using noFace) _

theorem slider_shows (props : SliderProps) : Build.Shows [] (slider env props) := by
  intro lastId
  exact ⟨.append (.append .empty .empty) (.append (.append .empty .empty) .empty), rfl⟩

theorem image_sets (props : ImageProps) : Attempt.Sets env [] [] (image env props) := by
  apply Attempt.Sets.after (.lift (env.iconSlot_shows _ _ _))
  intro glyph noFace
  exact .framed noFace _ _ (by simp)

theorem colorSwatch_shows (props : ColorSwatchProps) : Build.Shows [] (colorSwatch env props) :=
  .frame _ _ Node.facesOf_nil

theorem icon_sets {props : IconProps} (sound : (Component.icon props).error? env.icons = none) :
    Attempt.Sets env [] [] (icon env props) := by
  intro lastId
  unfold Component.error? at sound
  unfold icon
  dsimp only
  rcases env.icon?_cases _ _ _ with ⟨failed, _⟩ | ⟨failed, _⟩ | ⟨_, vector, made⟩
  · cases sound.symm.trans failed
  · cases sound.symm.trans failed
  · rw [made, env.faces_nil]
    exact ⟨.append .empty .empty, _, rfl, rfl⟩

theorem placeholder_sets (props : PlaceholderProps) :
    Attempt.Sets env [] (props.label.toList.map fun _ => .regular) (placeholder env props) := by
  unfold placeholder
  cases props.label with
  | none => exact .framed Node.facesOf_nil _ _ (by simp)
  | some label =>
      apply Attempt.Sets.andThen (env.text_sets _ _)
      intro text fonts set
      exact .framed set _ _ (by simp)

/-- A component that nests no others and that nothing is wrong with is set in the faces for its
styles and fails only if there is none for one of them. -/
theorem component_sets (below : Build (List Node)) {read : Component}
    (sound : read.error? env.icons = none) (single : read.kind?.any Kind.nests = false) :
    Attempt.Sets env [] read.styles (component env below read) := by
  cases read with
  | header props => exact kindText_sets _ _ _
  | label props => exact kindText_sets _ _ _
  | linkText props => exact link_sets props
  | button props => exact pill_sets _
  | socialButton props => exact pill_sets _
  | textField props => exact textField_sets props
  | checkbox props => exact checkbox_sets props
  | radioButton props => exact radioButton_sets props
  | switch props => exact switch_sets props
  | image props => exact image_sets props
  | colorSwatch props => exact .lift (colorSwatch_shows props)
  | icon props => exact icon_sets sound
  | slider props => exact .lift (slider_shows props)
  | placeholder props => exact placeholder_sets props
  | unknown tag => exact (env.text_sets _ _).map (by simp)
  | row props => cases single
  | column props => cases single
  | card props => cases single

end Render

end Wireframe
