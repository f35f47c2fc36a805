import Wireframe.Proofs.Font.Chain
import Wireframe.Proofs.Render.Making
import Wireframe.Proofs.Render.Visit
import Wireframe.Render.Tree

namespace Wireframe

variable {α : Type}

def Build.Leaves (build : Build α) (record : Diagnostics → Prop) : Prop :=
  ∀ lastId, record (build lastId).log

def Build.Quiet (build : Build α) : Prop := build.Leaves Diagnostics.Quiet

def Attempt.Leaves (attempt : Attempt α) (record : Diagnostics → Prop) : Prop :=
  ∀ lastId, (∃ value, (attempt.run lastId).value = .ok value) ∧ record (attempt.run lastId).log

def Attempt.Reliable (attempt : Attempt α) : Prop := Leaves attempt Diagnostics.Quiet

def Environment.HasRegular (env : Environment) : Prop :=
  ∃ family ∈ env.config.fontFamilies, env.fonts ⟨family, .regular⟩ = true

/-- What the parts of a component have in common: they note no entry, fail only for want of a face
and lose numbers only then. -/
abbrev Environment.Makes [Assembly α] (env : Environment) (height : Nat) (used : List Node)
    (attempt : Attempt α) : Prop :=
  Attempt.Makes (¬ env.HasRegular) Diagnostics.Quiet height used attempt

theorem Environment.Makes.reliable [Assembly α] {env : Environment} {height : Nat}
    {attempt : Attempt α} (makes : env.Makes height [] attempt) (regular : env.HasRegular) :
    Attempt.Reliable attempt := by
  intro lastId
  obtain ⟨quiet, ended⟩ := makes lastId [] lastId (.none _ lastId)
  refine ⟨?_, quiet⟩
  cases result : (attempt.run lastId).value with
  | ok value => exact ⟨value, rfl⟩
  | error error =>
      rw [result] at ended
      exact absurd regular ended.1

theorem Build.Makes.quiet [Assembly α] {gaps : Prop} {height : Nat} {build : Build α}
    (makes : Build.Makes gaps Diagnostics.Quiet height [] build) : Build.Quiet build := by
  intro lastId
  exact (makes lastId [] lastId (.none _ lastId)).1

theorem IconRef.isSome_draw (icons : IconProvider) (icon : IconRef) (markup : String)
    (size : Float32) (color : Color) :
    (icon.draw icons markup size color).isSome = Vector.parses markup := by
  unfold draw Vector.parses Vector.ofMarkup?
  rw [Option.isSome_map]
  cases Svg.root? markup with
  | none => rfl
  | some document =>
      simp only [Option.bind_eq_bind, Option.bind_some]
      cases Svg.vector? document with
      | none => rfl
      | some drawing => rfl

namespace Environment

variable {env : Environment}

theorem text_set {font : FontName} (spec : TextSpec)
    (resolved : Font.resolve env.fonts env.config.fontFamilies spec.style = .ok font)
    (color : Color) (lastId : Nat) :
    (env.text spec color).run lastId =
      ⟨.ok (.leaf (.fresh (lastId + 1) spec.content) (.text { spec.run font with fill := color })),
        .empty, lastId + 1⟩ := by
  simp only [text, Build.text, resolved]
  rfl

theorem text_unset {reason : Font.Unavailable} (spec : TextSpec)
    (failed : Font.resolve env.fonts env.config.fontFamilies spec.style = .error reason)
    (color : Color) (lastId : Nat) :
    (env.text spec color).run lastId = ⟨.error (.font reason), .empty, lastId⟩ := by
  simp only [text, Build.text, failed]
  rfl

theorem text_cases (env : Environment) (spec : TextSpec) (color : Color) (lastId : Nat) :
    (∃ font, (env.text spec color).run lastId =
      ⟨.ok (.leaf (.fresh (lastId + 1) spec.content)
        (.text { spec.run font with fill := color })), .empty, lastId + 1⟩) ∨
    (¬ env.HasRegular ∧ ∃ reason,
      (env.text spec color).run lastId = ⟨.error (.font reason), .empty, lastId⟩) := by
  cases resolved : Font.resolve env.fonts env.config.fontFamilies spec.style with
  | ok font => exact Or.inl ⟨font, text_set spec resolved color lastId⟩
  | error reason =>
      refine Or.inr ⟨?_, reason, text_unset spec resolved color lastId⟩
      intro regular
      obtain ⟨font, found⟩ := Font.resolve_of_regular regular spec.style
      cases found.symm.trans resolved

theorem text_makes (spec : TextSpec) (color : Color) : env.Makes 1 [] (env.text spec color) := by
  intro low rest lastId taken
  rw [Node.idsOf_nil, List.append_nil] at taken
  rcases env.text_cases spec color lastId with ⟨font, made⟩ | ⟨faceless, reason, failed⟩
  · rw [made]
    refine ⟨.empty, ?_, ?_⟩
    · simp [Node.height]
    · simpa [Node.ids, Node.Header.fresh] using taken.next
  · rw [failed]
    exact ⟨.empty, faceless, ⟨reason, rfl⟩, taken⟩

theorem icon?_cases (icon : IconRef) (size : Float32) (color : Color) :
    (icon.error? env.icons = some (.missingIcon icon.label) ∧
      env.icon? icon size color = pure none) ∨
    (icon.error? env.icons = some (.invalidMarkup icon.label) ∧
      env.icon? icon size color = throw (.invalidMarkup icon.label)) ∨
    (icon.error? env.icons = none ∧ ∃ vector,
      env.icon? icon size color = do
        let node ← Build.leaf icon.label (.vector vector)
        pure (some node)) := by
  unfold icon? IconRef.error?
  cases icon.markup? env.icons with
  | none => exact Or.inl ⟨rfl, rfl⟩
  | some markup =>
      have drawn := icon.isSome_draw env.icons markup size color
      dsimp only
      cases made : icon.draw env.icons markup size color with
      | none =>
          rw [made, Option.isSome_none] at drawn
          rw [← drawn]
          exact Or.inr (Or.inl ⟨rfl, rfl⟩)
      | some vector =>
          rw [made, Option.isSome_some] at drawn
          rw [← drawn]
          exact Or.inr (Or.inr ⟨rfl, vector, rfl⟩)

theorem icon?_draws {icon : IconRef} {size : Float32} {color : Color} {markup : String}
    {vector : Vector} (found : icon.markup? env.icons = some markup)
    (drawn : icon.draw env.icons markup size color = some vector) :
    env.icon? icon size color = (do
      let node ← Build.leaf icon.label (.vector vector)
      pure (some node)) := by
  rw [icon?, found]
  dsimp only
  rw [drawn]

/-- A slot stays empty without markup; so it does with broken markup, which is noted; and otherwise
it holds what the markup draws. -/
theorem iconSlot_cases (icon : IconRef) (size : Float32) (color : Color) (lastId : Nat) :
    (icon.markup? env.icons = none ∧
      env.iconSlot icon size color lastId = ⟨[], .empty, lastId⟩) ∨
    (∃ markup, icon.markup? env.icons = some markup ∧ Vector.parses markup = false ∧
      env.iconSlot icon size color lastId = ⟨[], .vectorFailure icon.label, lastId⟩) ∨
    ∃ markup vector, icon.markup? env.icons = some markup ∧
      icon.draw env.icons markup size color = some vector ∧
      env.iconSlot icon size color lastId =
        ⟨[.leaf (.fresh (lastId + 1) icon.label) (.vector vector)], .empty, lastId + 1⟩ := by
  cases found : icon.markup? env.icons with
  | none =>
      refine Or.inl ⟨rfl, ?_⟩
      rw [iconSlot, icon?, found]
      rfl
  | some markup =>
      have parses := icon.isSome_draw env.icons markup size color
      cases drawn : icon.draw env.icons markup size color with
      | none =>
          rw [drawn, Option.isSome_none] at parses
          refine Or.inr (Or.inl ⟨markup, rfl, parses.symm, ?_⟩)
          simp only [iconSlot, icon?, found, drawn]
          rfl
      | some vector =>
          refine Or.inr (Or.inr ⟨markup, vector, rfl, drawn, ?_⟩)
          rw [iconSlot, icon?_draws found drawn]
          rfl

theorem iconSlot_makes {gaps : Prop} (icon : IconRef) (size : Float32) (color : Color) :
    Build.Makes gaps Diagnostics.Quiet 1 [] (env.iconSlot icon size color) := by
  intro low rest lastId taken
  rcases env.iconSlot_cases icon size color lastId with
    ⟨_, empty⟩ | ⟨_, _, _, noted⟩ | ⟨_, vector, _, _, drawn⟩
  · rw [empty]
    exact ⟨.empty, by simp, taken⟩
  · rw [noted]
    exact ⟨.vectorFailure _, by simp, taken⟩
  · rw [Node.idsOf_nil, List.append_nil] at taken
    rw [drawn]
    refine ⟨.empty, ?_, ?_⟩
    · simp [Node.height]
    · simpa [Node.ids, Node.Header.fresh] using taken.next

end Environment

namespace Render

variable {env : Environment}

theorem kindText_makes (kind : Kind) (spec : TextSpec) (color : Color) :
    env.Makes 1 [] (kindText env kind spec color) :=
  (env.text_makes spec color).map _ (by simp) (by simp)

theorem link_makes (props : LinkProps) : env.Makes 1 [] (link env props) :=
  (kindText_makes _ _ _).map _ (by simp) (by simp)

theorem pill_makes (pill : Pill) : env.Makes 2 [] (pill.build env) := by
  apply Attempt.Makes.bind (.lift (env.iconSlot_makes _ _ _))
  intro icon iconLow
  apply Attempt.Makes.bind (env.text_makes _ _)
  intro label labelLow
  refine .framed (by simp) _ _ ?_ (by simp) (by simp)
  simp_all

theorem fieldLabel_makes (label : Option String) : env.Makes 1 [] (fieldLabel env label) := by
  cases label with
  | none => exact .pure (by simp) (by simp)
  | some label => exact (env.text_makes _ _).map _ (by simp) (by simp)

theorem fieldText_makes (placeholder : Option String) :
    env.Makes 1 [] (fieldText env placeholder) := by
  cases placeholder with
  | some placeholder => exact (env.text_makes _ _).map _ (by simp) (by simp)
  | none => exact .framed (by simp) _ _ (by simp) (by simp) (by simp)

theorem textField_makes (props : TextFieldProps) : env.Makes 3 [] (textField env props) := by
  apply Attempt.Makes.bind (fieldLabel_makes _)
  intro label labelLow
  apply Attempt.Makes.bind (.lift (env.iconSlot_makes _ _ _))
  intro start startLow
  apply Attempt.Makes.bind (fieldText_makes _)
  intro content contentLow
  apply Attempt.Makes.bind (.lift (env.iconSlot_makes _ _ _))
  intro stop stopLow
  -- The label lies ready while the input area is made around the rest.
  apply Attempt.Makes.frame label 1 (by simp)
  · simp_all
  · intro input inputLow
    refine .framed (by simp) _ _ ?_ (by simp) (by simp)
    have labelLow : Node.heightOf label ≤ 2 := Nat.le_succ_of_le labelLow
    simp_all

theorem labelled_makes (kind : Kind) {control : Node} (controlLow : control.height ≤ 2)
    (label : String) : env.Makes 3 [control] (labelled env kind control label) := by
  apply Attempt.Makes.bind ((env.text_makes _ _).mono (Nat.le_succ 1))
  intro text textLow
  refine .framed (by simp) _ _ ?_ (by simp) (by simp)
  simp_all

theorem marked_makes {mark : Attempt (List Node)} (made : env.Makes 1 [] mark) (name : String)
    (frame : Frame) (kind : Kind) (label : String) :
    env.Makes 3 [] (do
      let inside ← mark
      let control ← Build.frame name frame inside
      labelled env kind control label) := by
  apply Attempt.Makes.bind made
  intro inside insideLow
  apply Attempt.Makes.frame [] 1 (by simp) _ _ insideLow
  intro control controlLow
  exact labelled_makes kind controlLow label

theorem checkbox_makes (props : ToggleProps) : env.Makes 3 [] (checkbox env props) := by
  unfold checkbox
  cases isChecked props with
  | true => exact marked_makes (.lift (env.iconSlot_makes _ _ _)) _ _ _ _
  | false => exact marked_makes (.pure (by simp) (by simp)) _ _ _ _

theorem radioDot_makes {gaps : Prop} :
    Build.Makes gaps Diagnostics.Quiet 1 [] (radioDot env) := by
  apply Build.Makes.bind (.leaf _ _)
  intro dot low
  exact .pure (by simp) (by simpa using low)

theorem radioButton_makes (props : ToggleProps) : env.Makes 3 [] (radioButton env props) := by
  have dot : env.Makes 1 [] (do let dot ← radioDot env; pure [dot]) :=
    (Attempt.Makes.lift radioDot_makes).map _ (by simp) (by simp)
  unfold radioButton
  cases isChecked props with
  | true => exact marked_makes dot _ _ _ _
  | false => exact marked_makes (.pure (by simp) (by simp)) _ _ _ _

theorem switch_makes (props : ToggleProps) : env.Makes 3 [] (switch env props) := by
  apply Attempt.Makes.bind (.lift (.leaf _ _))
  intro thumb thumbLow
  apply Attempt.Makes.frame [] 1 (by simp)
  · simpa using thumbLow
  · intro control controlLow
    exact labelled_makes _ controlLow _

theorem slider_makes {gaps : Prop} (props : SliderProps) :
    Build.Makes gaps Diagnostics.Quiet 2 [] (slider env props) := by
  apply Build.Makes.bind (.leaf _ _)
  intro track trackLow
  exact .framed (by simp) _ _ (by simpa using trackLow) (by simp) (by simp)

theorem image_makes (props : ImageProps) : env.Makes 2 [] (image env props) := by
  apply Attempt.Makes.bind (.lift (env.iconSlot_makes _ _ _))
  intro glyph glyphLow
  exact .framed (by simp) _ _ glyphLow (by simp) (by simp)

theorem colorSwatch_makes {gaps : Prop} (props : ColorSwatchProps) :
    Build.Makes gaps Diagnostics.Quiet 1 [] (colorSwatch env props) :=
  .frame _ _ (by simp)

theorem placeholder_makes (props : PlaceholderProps) :
    env.Makes 2 [] (placeholder env props) := by
  unfold placeholder
  cases props.label with
  | none =>
      have framed : env.Makes 1 [] (placeholder env ⟨props.width, props.height, none⟩) :=
        .framed (by simp) _ _ (by simp) (by simp) (by simp)
      exact framed.mono (Nat.le_succ 1)
  | some label =>
      apply Attempt.Makes.bind (env.text_makes _ _)
      intro text textLow
      exact .framed (by simp) _ _ (by simpa using textLow) (by simp) (by simp)

theorem icon_makes {props : IconProps}
    (sound : (Component.icon props).error? env.icons = none) :
    env.Makes 1 [] (icon env props) := by
  unfold Component.error? at sound
  unfold icon
  dsimp only
  rcases env.icon?_cases _ _ _ with ⟨failed, _⟩ | ⟨failed, _⟩ | ⟨_, vector, made⟩
  · cases sound.symm.trans failed
  · cases sound.symm.trans failed
  · rw [made]
    exact (Attempt.Makes.lift (.leaf _ _)).map
      (Node.withAlign (Layout.select .icon {}).layoutAlign) (by simp) (by simp)

theorem icon_fails {props : IconProps} {error : BuildError}
    (broken : (Component.icon props).error? env.icons = some error) (lastId : Nat) :
    (icon env props).run lastId = ⟨.error error, .empty, lastId⟩ := by
  unfold Component.error? at broken
  unfold icon
  dsimp only
  rcases env.icon?_cases _ _ _ with ⟨failed, missing⟩ | ⟨failed, refused⟩ | ⟨sound, _⟩
  · cases broken.symm.trans failed
    rw [missing]
    rfl
  · cases broken.symm.trans failed
    rw [refused]
    rfl
  · cases broken.symm.trans sound

variable (below : Build (List Node))

theorem component_makes {read : Component} (sound : read.error? env.icons = none)
    (single : read.kind?.any Kind.nests = false) :
    env.Makes 3 [] (component env below read) := by
  have one (attempt : Attempt Node) (made : env.Makes 1 [] attempt) : env.Makes 3 [] attempt :=
    made.mono (by decide)
  have two (attempt : Attempt Node) (made : env.Makes 2 [] attempt) : env.Makes 3 [] attempt :=
    made.mono (by decide)
  cases read with
  | header props => exact one _ (kindText_makes _ _ _)
  | label props => exact one _ (kindText_makes _ _ _)
  | linkText props => exact one _ (link_makes props)
  | button props => exact two _ (pill_makes _)
  | socialButton props => exact two _ (pill_makes _)
  | textField props => exact textField_makes props
  | checkbox props => exact checkbox_makes props
  | radioButton props => exact radioButton_makes props
  | switch props => exact switch_makes props
  | image props => exact two _ (image_makes props)
  | colorSwatch props => exact one _ (.lift (colorSwatch_makes props))
  | icon props => exact one _ (icon_makes sound)
  | slider props => exact two _ (.lift (slider_makes props))
  | placeholder props => exact two _ (placeholder_makes props)
  | unknown tag => exact one _ ((env.text_makes _ _).map _ (by simp) (by simp))
  | row props => cases single
  | column props => cases single
  | card props => cases single

theorem component_alone {read : Component} (single : read.kind?.any Kind.nests = false) :
    component env below read = component env (pure []) read := by
  cases read with
  | row props => cases single
  | column props => cases single
  | card props => cases single
  | _ => rfl

theorem panel_log (kind : Kind) (layout : Layout) (decorate : Frame → Frame) (lastId : Nat) :
    (panel kind layout decorate below lastId).log = (below lastId).log := by
  change (below lastId).log ++ ((.empty ++ .empty) ++ .empty) = (below lastId).log
  simp only [Diagnostics.append_empty]

theorem panel_leaves {record : Diagnostics → Prop} (inside : below.Leaves record) (kind : Kind)
    (layout : Layout) (decorate : Frame → Frame) :
    Attempt.Leaves (liftM (panel kind layout decorate below)) record := by
  intro lastId
  refine ⟨⟨_, rfl⟩, ?_⟩
  change record ((panel kind layout decorate below lastId).log ++ .empty)
  rw [Diagnostics.append_empty, panel_log]
  exact inside lastId

theorem component_nests {record : Diagnostics → Prop} (inside : below.Leaves record)
    {read : Component} (nests : read.kind?.any Kind.nests = true) :
    Attempt.Leaves (component env below read) record := by
  cases read with
  | row props => exact panel_leaves below inside _ _ _
  | column props => exact panel_leaves below inside _ _ _
  | card props => exact panel_leaves below inside _ _ _
  | _ => cases nests

theorem errorText_makes (tag : String) :
    Build.Makes (¬ env.HasRegular) Diagnostics.Quiet 1 [] (errorText env tag) := by
  apply Attempt.Makes.recover (fun _ _ front back => Diagnostics.Quiet.append front back)
    (env.text_makes _ _)
  · intro node low
    exact .pure (by simp) (by simpa using low)
  · intro reason
    exact .pure (by simp) (by simp)

variable {below} {depth : Nat}

theorem recorded_known {read : Component} {kind : Kind} (known : read.kind? = some kind) :
    recorded env below read = (do
      let node ← component env below read
      Build.record .oneBuilt
      pure node) := by
  cases read with
  | unknown tag => cases known
  | _ => rfl

/-- An entry that nothing is wrong with is read as a component, and what is attempted is to build
that. -/
theorem attempt_sound {read : Entry} (sound : read.error? env depth = none) :
    ∃ component, depth ≤ env.config.maxDepth ∧ Component.ofEntry read = .ok component ∧
      component.error? env.icons = none ∧
      read.opens env.config.maxDepth depth = component.kind?.any Kind.nests ∧
      attempt env depth read below = recorded env below component := by
  obtain ⟨component, shallow, reads, whole, opens⟩ := read.reads_of_sound sound
  refine ⟨component, shallow, reads, whole, opens, ?_⟩
  rw [attempt, if_neg (Nat.not_lt.mpr shallow), reads]

/-- An entry that something is wrong with takes no number and leaves no record by itself. -/
theorem attempt_fails {read : Entry} {error : BuildError}
    (wrong : read.error? env depth = some error) (lastId : Nat) :
    (attempt env depth read below).run lastId = ⟨.error error, .empty, lastId⟩ := by
  rcases read.error?_cases env depth with
    ⟨deep, same⟩ | ⟨shallow, mistyped, reads, same⟩ | ⟨shallow, component, reads, same⟩
  · cases wrong.symm.trans same
    rw [attempt, if_pos deep]
    rfl
  · cases wrong.symm.trans same
    rw [attempt, if_neg (Nat.not_lt.mpr shallow), reads]
    rfl
  · have broken := same.symm.trans wrong
    obtain ⟨props, rfl⟩ := Component.eq_icon_of_error broken
    have failed : (component env below (.icon props)).run lastId = ⟨.error error, .empty, lastId⟩ :=
      icon_fails broken lastId
    rw [attempt, if_neg (Nat.not_lt.mpr shallow), reads]
    dsimp only
    rw [recorded_known rfl, Attempt.bind_error _ (congrArg Built.value failed), failed]

end Render

end Wireframe
