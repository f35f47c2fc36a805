import Wireframe.Proofs.Render.Shortage
/-!
Icons in buttons and text fields, and icons by themselves. A slot takes the markup that was given
for it, or else that of its icon in the registry. Without markup it stays empty, and so it does with
broken markup, which is noted under the name of the icon; the component is built all the same. An
icon by itself is a failure in both cases.
-/

namespace Wireframe

/-- The markup that an icon has: its own, or else that of its name in the registry. -/
inductive IconRef.Finds (icons : IconProvider) : IconRef → String → Prop
  | own (name : Option String) (markup : String) : Finds icons ⟨name, some markup⟩ markup
  | registered {name markup : String} (listed : icons.lookup name = some markup) :
      Finds icons ⟨some name, none⟩ markup

theorem IconRef.finds_iff {icons : IconProvider} {icon : IconRef} {markup : String} :
    icon.Finds icons markup ↔ icon.markup? icons = some markup := by
  obtain ⟨name, own⟩ := icon
  constructor
  · intro finds
    cases finds with
    | own => rfl
    | registered listed => exact listed
  · intro found
    cases own with
    | some own =>
        cases Option.some.inj found
        exact .own name markup
    | none =>
        cases name with
        | none => cases found
        | some name => exact .registered found

def IconRef.Lost (icons : IconProvider) (icon : IconRef) : Prop :=
  ∀ markup, ¬ icon.Finds icons markup

theorem IconRef.lost_of_markup {icons : IconProvider} {icon : IconRef}
    (missing : icon.markup? icons = none) : icon.Lost icons := by
  intro markup finds
  cases missing.symm.trans (finds_iff.mp finds)

/-- What a slot holds for an icon, and the broken icons it notes: nothing without markup, nothing
but a note with broken markup, and otherwise the one vector that the markup draws. -/
inductive IconRef.Fills (env : Environment) (icon : IconRef) (size : Float32) (color : Color) :
    List Node → List String → Prop
  | empty (lost : icon.Lost env.icons) : Fills env icon size color [] []
  | broken {markup : String} (found : icon.Finds env.icons markup)
      (broken : Vector.parses markup = false) :
      Fills env icon size color [] [icon.name.getD "Icon"]
  | drawn {markup : String} {vector : Vector} (header : Node.Header)
      (found : icon.Finds env.icons markup)
      (drawn : icon.draw env.icons markup size color = some vector) :
      Fills env icon size color [.leaf header (.vector vector)] []

def Diagnostics.brokenIcons (names : List String) : Diagnostics :=
  { empty with vectorFailures := names }

def Diagnostics.builtWithout (names : List String) : Diagnostics :=
  { oneBuilt with vectorFailures := names }

theorem Diagnostics.brokenIcons_append_oneBuilt (names : List String) :
    brokenIcons names ++ oneBuilt = builtWithout names := by
  change Diagnostics.mk 1 [] (names ++ []) [] 0 = builtWithout names
  rw [List.append_nil]
  rfl

/-- The attempt never fails. It notes nothing but broken icons, and these with its value satisfy a
condition. -/
def Attempt.Yields {α : Type} (attempt : Attempt α) (post : α → List String → Prop) : Prop :=
  ∀ lastId, ∃ value notes last,
    attempt.run lastId = ⟨.ok value, .brokenIcons notes, last⟩ ∧ post value notes

namespace Attempt.Yields

variable {α β : Type} {attempt : Attempt α} {next : α → Attempt β}
variable {post : α → List String → Prop} {result : β → List String → Prop}

theorem pure {value : α} (holds : post value []) : Yields (Pure.pure value) post := by
  intro lastId
  exact ⟨value, [], lastId, rfl, holds⟩

theorem bind (first : attempt.Yields post)
    (rest : ∀ value notes, post value notes →
      (next value).Yields fun made more => result made (notes ++ more)) :
    (attempt >>= next).Yields result := by
  intro lastId
  obtain ⟨value, notes, middle, ran, holds⟩ := first lastId
  obtain ⟨made, more, last, ranNext, holdsNext⟩ := rest value notes holds middle
  refine ⟨made, notes ++ more, last, ?_, holdsNext⟩
  rw [Attempt.bind_ok next (congrArg Built.value ran)]
  simp only [ran, ranNext]
  rfl

theorem after {silent : α → Prop}
    (first : attempt.Yields fun value notes => notes = [] ∧ silent value)
    (rest : ∀ value, silent value → (next value).Yields result) :
    (attempt >>= next).Yields result := by
  apply bind first
  rintro value _ ⟨rfl, holds⟩
  exact rest value holds

end Attempt.Yields

def Node.IsText (characters : String) (node : Node) : Prop :=
  ∃ header run, node = .leaf header (.text run) ∧ run.characters = characters

def Node.IsFieldText (placeholder : Option String) (node : Node) : Prop :=
  match placeholder with
  | some characters => node.IsText characters
  | none => ∃ header frame, node = .container header frame []

namespace Environment

variable {env : Environment}

theorem text_yields (regular : env.HasRegular) (spec : TextSpec) (color : Color) :
    (env.text spec color).Yields fun node notes => notes = [] ∧ node.IsText spec.content := by
  intro lastId
  rcases env.text_cases spec color lastId with ⟨font, made⟩ | ⟨faceless, _⟩
  · exact ⟨_, [], _, made, rfl, _, _, rfl, rfl⟩
  · exact absurd regular faceless

theorem iconSlot_yields (icon : IconRef) (size : Float32) (color : Color) :
    Attempt.Yields (liftM (env.iconSlot icon size color)) (icon.Fills env size color) := by
  intro lastId
  have lifted : (liftM (env.iconSlot icon size color) : Attempt (List Node)).run lastId =
      ⟨.ok (env.iconSlot icon size color lastId).value,
        (env.iconSlot icon size color lastId).log ++ .empty,
        (env.iconSlot icon size color lastId).lastId⟩ := rfl
  rw [lifted]
  rcases env.iconSlot_cases icon size color lastId with
    ⟨missing, empty⟩ | ⟨markup, found, broken, noted⟩ | ⟨markup, vector, found, drawn, made⟩
  · rw [empty]
    exact ⟨[], [], lastId, rfl, .empty (IconRef.lost_of_markup missing)⟩
  · rw [noted]
    exact ⟨[], [icon.label], lastId, rfl, .broken (IconRef.finds_iff.mpr found) broken⟩
  · rw [made]
    exact ⟨_, [], lastId + 1, rfl, .drawn _ (IconRef.finds_iff.mpr found) drawn⟩

end Environment

theorem Build.frame_yields (name : String) (frame : Frame) (children : List Node) :
    Attempt.Yields (liftM (Build.frame name frame children)) fun node notes =>
      notes = [] ∧ ∃ header, node = .container header frame children := by
  intro lastId
  exact ⟨_, [], _, rfl, rfl, _, rfl⟩

def Kind.hasSlots : Kind → Bool
  | .button | .socialButton | .textField => true
  | _ => false

def Kind.asks (kind : Kind) : Bool := kind.hasSlots || kind == .icon

def IconProps.asked (props : IconProps) : IconRef := ⟨some (props.icon.getD "icon"), props.svgData⟩

/-- What a component with slots for icons becomes, and the broken icons it notes: the icon of a
button lies before its label, those of a text field around what stands in it. -/
inductive Component.Slotted (env : Environment) : Component → Node → List String → Prop
  | button {props : ButtonProps} {icon : List Node} {label : Node} {notes : List String}
      (header : Node.Header) (frame : Frame)
      (slot : IconRef.Fills env ⟨props.icon, props.svgData⟩ 18 env.palette.onFill icon notes)
      (text : label.IsText (props.label.getD "Button")) :
      Slotted env (.button props) (.container header frame (icon ++ [label])) notes
  | socialButton {props : SocialButtonProps} {icon : List Node} {label : Node}
      {notes : List String} (header : Node.Header) (frame : Frame)
      (slot : IconRef.Fills env ⟨Render.providerIcon env props, props.svgData⟩ 18
        (env.config.socialStyle (Render.provider props)).icon icon notes)
      (text : label.IsText
        (props.label.getD ("Continue with " ++ Text.capitalize (Render.provider props)))) :
      Slotted env (.socialButton props) (.container header frame (icon ++ [label])) notes
  | textField {props : TextFieldProps} {labels start stop : List Node} {content : Node}
      {startNotes stopNotes : List String} (header boxHeader : Node.Header) (frame box : Frame)
      (label : List.Forall₂ Node.IsText props.label.toList labels)
      (before : IconRef.Fills env ⟨props.icon, props.svgData⟩ 20 env.palette.fieldIcon start
        startNotes)
      (inside : content.IsFieldText props.placeholder)
      (after : IconRef.Fills env ⟨props.endIcon, props.endSvgData⟩ 20 env.palette.fieldIcon stop
        stopNotes) :
      Slotted env (.textField props)
        (.container header frame
          (labels ++ [.container boxHeader box (start ++ [content] ++ stop)]))
        (startNotes ++ stopNotes)

namespace Render

variable {env : Environment}

theorem pill_yields (regular : env.HasRegular) (pill : Pill) :
    (pill.build env).Yields fun node notes => ∃ header frame icon label,
      node = .container header frame (icon ++ [label]) ∧
        pill.icon.Fills env 18 pill.iconColor icon notes ∧ label.IsText pill.label := by
  apply Attempt.Yields.bind (env.iconSlot_yields pill.icon 18 pill.iconColor)
  intro icon notes slot
  apply Attempt.Yields.after (env.text_yields regular _ _)
  intro label text
  apply Attempt.Yields.after (Build.frame_yields _ _ _)
  rintro node ⟨header, rfl⟩
  apply Attempt.Yields.pure
  rw [List.append_nil]
  exact ⟨_, _, icon, label, rfl, slot, text⟩

theorem fieldLabel_yields (regular : env.HasRegular) (label : Option String) :
    (fieldLabel env label).Yields fun nodes notes =>
      notes = [] ∧ List.Forall₂ Node.IsText label.toList nodes := by
  cases label with
  | none => exact .pure ⟨rfl, .nil⟩
  | some label =>
      apply Attempt.Yields.after (env.text_yields regular _ _)
      rintro node ⟨header, run, rfl, same⟩
      exact .pure ⟨rfl, .cons ⟨_, run, rfl, same⟩ .nil⟩

theorem fieldText_yields (regular : env.HasRegular) (placeholder : Option String) :
    (fieldText env placeholder).Yields fun node notes =>
      notes = [] ∧ node.IsFieldText placeholder := by
  cases placeholder with
  | some placeholder =>
      apply Attempt.Yields.after (env.text_yields regular _ _)
      rintro node ⟨header, run, rfl, same⟩
      exact .pure ⟨rfl, _, _, rfl, same⟩
  | none =>
      apply Attempt.Yields.after (Build.frame_yields _ _ _)
      rintro node ⟨header, rfl⟩
      exact .pure ⟨rfl, _, _, rfl⟩

theorem textField_yields (regular : env.HasRegular) (props : TextFieldProps) :
    (textField env props).Yields (Component.Slotted env (.textField props)) := by
  -- What is noted for the two slots is appended in the order in which they are filled.
  apply Attempt.Yields.after (fieldLabel_yields regular props.label)
  intro labels label
  apply Attempt.Yields.bind (env.iconSlot_yields _ 20 _)
  intro start startNotes before
  apply Attempt.Yields.after (fieldText_yields regular props.placeholder)
  intro content inside
  apply Attempt.Yields.bind (env.iconSlot_yields _ 20 _)
  intro stop stopNotes after
  apply Attempt.Yields.after (Build.frame_yields _ _ _)
  rintro input ⟨boxHeader, rfl⟩
  apply Attempt.Yields.after (Build.frame_yields _ _ _)
  rintro node ⟨header, rfl⟩
  apply Attempt.Yields.pure
  rw [List.append_nil]
  exact .textField _ _ _ _ label before inside after

theorem component_yields (regular : env.HasRegular) (below : Build (List Node))
    {component : Component} (slots : component.kind?.any Kind.hasSlots = true) :
    (Render.component env below component).Yields (component.Slotted env) := by
  cases component with
  | button props =>
      intro lastId
      obtain ⟨node, notes, last, ran, header, frame, icon, label, rfl, slot, text⟩ :=
        pill_yields regular _ lastId
      exact ⟨_, notes, last, ran, .button header frame slot text⟩
  | socialButton props =>
      intro lastId
      obtain ⟨node, notes, last, ran, header, frame, icon, label, rfl, slot, text⟩ :=
        pill_yields regular _ lastId
      exact ⟨_, notes, last, ran, .socialButton header frame slot text⟩
  | textField props => exact textField_yields regular props
  | _ => cases slots

theorem icon_draws {props : IconProps} {markup : String}
    (found : props.asked.markup? env.icons = some markup) (parses : Vector.parses markup = true)
    (lastId : Nat) :
    ∃ header color vector,
      props.asked.draw env.icons markup (env.number .icon "size" props.size 24) color =
        some vector ∧
      (icon env props).run lastId = ⟨.ok (.leaf header (.vector vector)), .empty, lastId + 1⟩ := by
  let size := env.number .icon "size" props.size 24
  let color := (props.color.bind fun text =>
    (Color.ofHex? text).or (Color.ofKeyword? text)).getD env.palette.icon
  have whole := props.asked.isSome_draw env.icons markup size color
  rw [parses] at whole
  obtain ⟨vector, drawn⟩ := Option.isSome_iff_exists.mp whole
  have made := env.icon?_draws found drawn
  refine ⟨{ Node.Header.fresh (lastId + 1) props.asked.label with
    layoutAlign := (Layout.select .icon {}).layoutAlign }, color, vector, drawn, ?_⟩
  change (env.icon? props.asked size color >>= _).run lastId = _
  rw [made]
  rfl

variable {below : Build (List Node)} {depth : Nat}

theorem named_eq_mapHeader (tag : String) (node : Node) :
    ∃ change, named tag node = node.mapHeader change := by
  unfold named
  split
  · exact ⟨_, rfl⟩
  · refine ⟨id, ?_⟩
    cases node <;> rfl

theorem entry_ready {read : Entry} {node : Node} {log : Diagnostics} {lastId last : Nat}
    (ran : (attempt env depth read below).run lastId = ⟨.ok node, log, last⟩) :
    entry env depth read below lastId = ⟨some (named read.tag node), log, last⟩ := by
  rw [entry, Build.bind_apply]
  dsimp only
  rw [ran]
  exact congrArg (Built.mk _ · last) (Diagnostics.append_empty log)

theorem entry_refused (regular : env.HasRegular) {read : Entry} {error : BuildError} {lastId : Nat}
    (ran : (attempt env depth read below).run lastId = ⟨.error error, .empty, lastId⟩) :
    ∃ node last,
      env.Warns ("[ERROR: " ++ read.tag ++ "]") ("Error (" ++ read.tag ++ ")") node ∧
      entry env depth read below lastId = ⟨some node, .failure read.tag error, last⟩ := by
  obtain ⟨node, made, warns⟩ := errorText_warns regular read.tag lastId
  refine ⟨node, (errorText env read.tag lastId).lastId, warns, ?_⟩
  rw [entry, Build.bind_apply]
  dsimp only
  rw [ran]
  dsimp only
  rw [Build.bind_apply]
  simp only [Build.record, made, errorText_log, Diagnostics.empty_append,
    Diagnostics.append_empty]

/-- An entry that is read as a component of some kind is built if the component is. -/
theorem attempt_counts {read : Entry} {component : Component} {kind : Kind} {node : Node}
    {log : Diagnostics} {lastId last : Nat} (shallow : depth ≤ env.config.maxDepth)
    (reads : Component.ofEntry read = .ok component) (known : component.kind? = some kind)
    (ran : (Render.component env below component).run lastId = ⟨.ok node, log, last⟩) :
    (attempt env depth read below).run lastId = ⟨.ok node, log ++ .oneBuilt, last⟩ := by
  rw [attempt, if_neg (Nat.not_lt.mpr shallow), reads]
  dsimp only
  rw [recorded_known known, Attempt.bind_ok _ (congrArg Built.value ran), ran]
  rfl

end Render

/-- What becomes of a component that may ask for icons in an entry of some tag, and what it leaves
in the record. One with slots is built; an icon by itself is built if there is markup that draws it,
and is a failure otherwise. -/
inductive Component.Outcome (env : Environment) (tag : String) :
    Component → Node → Diagnostics → Prop
  | slotted {component : Component} {node : Node} {notes : List String}
      (slotted : component.Slotted env node notes) :
      Outcome env tag component node (.builtWithout notes)
  | lost {props : IconProps} {node : Node} (lost : props.asked.Lost env.icons)
      (warns : env.Warns ("[ERROR: " ++ tag ++ "]") ("Error (" ++ tag ++ ")") node) :
      Outcome env tag (.icon props) node (.failure tag (.missingIcon (props.icon.getD "icon")))
  | broken {props : IconProps} {markup : String} {node : Node}
      (found : props.asked.Finds env.icons markup) (broken : Vector.parses markup = false)
      (warns : env.Warns ("[ERROR: " ++ tag ++ "]") ("Error (" ++ tag ++ ")") node) :
      Outcome env tag (.icon props) node (.failure tag (.invalidMarkup (props.icon.getD "icon")))
  | drawn {props : IconProps} {markup : String} {vector : Vector} (header : Node.Header)
      (color : Color) (found : props.asked.Finds env.icons markup)
      (drawn : props.asked.draw env.icons markup (env.number .icon "size" props.size 24) color =
        some vector) :
      Outcome env tag (.icon props) (.leaf header (.vector vector)) .oneBuilt

theorem Component.Slotted.named {env : Environment} {component : Component} {node : Node}
    {notes : List String} (slotted : component.Slotted env node notes) (tag : String) :
    component.Slotted env (Render.named tag node) notes := by
  obtain ⟨change, same⟩ := Render.named_eq_mapHeader tag node
  rw [same]
  cases slotted with
  | button header frame slot text => exact .button _ frame slot text
  | socialButton header frame slot text => exact .socialButton _ frame slot text
  | textField header boxHeader frame box label before inside after =>
      exact .textField _ boxHeader frame box label before inside after

namespace Render

variable {env : Environment} {below : Build (List Node)} {depth : Nat}

theorem entry_slotted (regular : env.HasRegular) {read : Entry} {component : Component}
    (shallow : depth ≤ env.config.maxDepth) (reads : Component.ofEntry read = .ok component)
    (slots : component.kind?.any Kind.hasSlots = true) (lastId : Nat) :
    ∃ node log last, component.Outcome env read.tag node log ∧
      entry env depth read below lastId = ⟨some node, log, last⟩ := by
  obtain ⟨kind, known, _⟩ := Option.any_eq_true _ _ |>.mp slots
  obtain ⟨node, notes, last, ran, slotted⟩ := component_yields regular below slots lastId
  have built := entry_ready (attempt_counts shallow reads known ran)
  rw [Diagnostics.brokenIcons_append_oneBuilt] at built
  exact ⟨_, _, last, .slotted (slotted.named read.tag), built⟩

theorem entry_icon (regular : env.HasRegular) {read : Entry} {props : IconProps}
    (shallow : depth ≤ env.config.maxDepth)
    (reads : Component.ofEntry read = .ok (.icon props)) (lastId : Nat) :
    ∃ node log last, (Component.icon props).Outcome env read.tag node log ∧
      entry env depth read below lastId = ⟨some node, log, last⟩ := by
  have refused (error : BuildError) (broken : props.asked.error? env.icons = some error) :
      ∃ node last,
        env.Warns ("[ERROR: " ++ read.tag ++ "]") ("Error (" ++ read.tag ++ ")") node ∧
        entry env depth read below lastId = ⟨some node, .failure read.tag error, last⟩ := by
    have wrong : read.error? env depth = some error := by
      rw [Entry.error?, if_neg (Nat.not_lt.mpr shallow), reads]
      exact broken
    exact entry_refused regular (attempt_fails wrong lastId)
  -- By its markup alone: nothing is wrong with an icon within the depth limit but that.
  cases found : props.asked.markup? env.icons with
  | none =>
      have broken : props.asked.error? env.icons =
          some (.missingIcon (props.icon.getD "icon")) := by
        rw [IconRef.error?, found]
        rfl
      obtain ⟨node, last, warns, made⟩ := refused _ broken
      exact ⟨node, _, last, .lost (IconRef.lost_of_markup found) warns, made⟩
  | some markup =>
      have finds := IconRef.finds_iff.mpr found
      cases parses : Vector.parses markup with
      | false =>
          have broken : props.asked.error? env.icons =
              some (.invalidMarkup (props.icon.getD "icon")) := by
            rw [IconRef.error?, found]
            dsimp only
            rw [parses]
            rfl
          obtain ⟨node, last, warns, made⟩ := refused _ broken
          exact ⟨node, _, last, .broken finds parses warns, made⟩
      | true =>
          obtain ⟨header, color, vector, drawn, ran⟩ := icon_draws found parses lastId
          have made : entry env depth read below lastId = _ :=
            entry_ready (attempt_counts shallow reads rfl ran)
          obtain ⟨change, same⟩ := named_eq_mapHeader read.tag (.leaf header (.vector vector))
          rw [Diagnostics.empty_append, same] at made
          exact ⟨_, _, _, .drawn (change header) color finds drawn, made⟩

end Render

namespace Renderer

/-- An icon that cannot be drawn never keeps the component around it from being built, and is noted
only where its markup is broken. By itself it is a failure, and nothing else is noted. -/
theorem entry_asks {env : Environment} (regular : env.HasRegular) {depth : Nat}
    (shallow : depth ≤ env.config.maxDepth) {value : Json} {read : Entry} {component : Component}
    (valid : Entry.ofJson? value = some read) (reads : Component.ofEntry read = .ok component)
    (asks : component.kind?.any Kind.asks = true) (renderer : Renderer) :
    ∃ node log lastId, component.Outcome env read.tag node log ∧
      renderer.entry env depth value = (some node, ⟨lastId, renderer.log ++ log⟩) := by
  have built : ∃ node log last, component.Outcome env read.tag node log ∧
      Render.tree env depth (.ofJson value) renderer.lastId = ⟨some node, log, last⟩ := by
    rw [Tree.ofJson_entry valid, Render.tree]
    by_cases slots : component.kind?.any Kind.hasSlots = true
    · exact Render.entry_slotted regular shallow reads slots renderer.lastId
    · cases component with
      | icon props => exact Render.entry_icon regular shallow reads renderer.lastId
      | button props => exact absurd rfl slots
      | socialButton props => exact absurd rfl slots
      | textField props => exact absurd rfl slots
      | _ => cases asks
  obtain ⟨node, log, last, outcome, made⟩ := built
  refine ⟨node, log, last, outcome, ?_⟩
  rw [entry, run, made]

/-- A text field with an icon that nobody knows and broken markup of no name. -/
theorem entry_asks_textField :
    let env : Environment := ⟨.standard, .builtin, Font.ofFaces (Font.family "Inter"), .library⟩
    let props := [("icon", Json.string "rocket"), ("endSvgData", .string "<svg")]
    let value := Json.object [("component", .string "Text Field"), ("props", .object props)]
    let rendered := (fresh 0).entry env 0 value
    env.HasRegular ∧ rendered.2.log = .builtWithout ["Icon"] ∧ ∃ node, rendered.1 = some node ∧
      Component.Slotted env
        (.textField ⟨none, none, some "rocket", none, none, some "<svg"⟩) node ["Icon"] := by
  intro env props value rendered
  have regular : env.HasRegular := ⟨"Inter", by decide, by decide⟩
  have log : rendered.2.log = .builtWithout ["Icon"] := by decide +kernel
  have valid : Entry.ofJson? value = some ⟨"Text Field", props⟩ := rfl
  have reads : Component.ofEntry ⟨"Text Field", props⟩ =
      .ok (.textField ⟨none, none, some "rocket", none, none, some "<svg"⟩) := rfl
  obtain ⟨node, own, lastId, outcome, made⟩ :=
    entry_asks regular (Nat.zero_le _) valid reads rfl (fresh 0)
  have logged : rendered.2.log = .empty ++ own :=
    congrArg (fun result => result.2.log) made
  rw [log, Diagnostics.empty_append] at logged
  refine ⟨regular, log, node, congrArg Prod.fst made, ?_⟩
  cases outcome with
  | slotted slotted =>
      cases congrArg Diagnostics.vectorFailures logged
      exact slotted

end Renderer

end Wireframe
