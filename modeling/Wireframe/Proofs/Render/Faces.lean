import Wireframe.Catalog.Builtin
import Wireframe.Proofs.Render.Shortage
/-!
The faces that a rendering asks its host for. Each text is set in the first face that can be used of
the chain for its style, so without faces there are no texts; what needs none is built all the same.
-/

namespace Wireframe

namespace Environment

variable {env : Environment}

theorem face?_usable {style : FontStyle} {font : FontName} (first : env.face? style = some font) :
    font.family ∈ env.config.fontFamilies ∧ env.fonts font = true ∧
      ∃ before after, Font.chain env.config.fontFamilies style = before ++ font :: after ∧
        ∀ earlier ∈ before, env.fonts earlier = false := by
  obtain ⟨usable, before, after, split, refused⟩ := List.find?_eq_some_iff_append.mp first
  have tried : font ∈ Font.chain env.config.fontFamilies style := by
    rw [split]
    exact List.mem_append_right _ List.mem_cons_self
  refine ⟨Font.family_of_chain tried, usable, before, after, split, ?_⟩
  intro earlier member
  simpa using refused earlier member

def Faceless (env : Environment) : Prop :=
  ∀ family ∈ env.config.fontFamilies, ∀ style, env.fonts ⟨family, style⟩ = false

theorem Faceless.face?_eq_none (faceless : env.Faceless) (style : FontStyle) :
    env.face? style = none := by
  apply List.find?_eq_none.mpr
  intro font tried
  rw [faceless font.family (Font.family_of_chain tried) font.style]
  nofun

theorem Faceless.styles_eq_nil (faceless : env.Faceless) {styles : List FontStyle}
    {fonts : List FontName} (set : env.faces styles = .ok fonts) : styles = [] := by
  cases styles with
  | nil => rfl
  | cons style rest =>
      rw [← List.singleton_append, env.faces_append] at set
      rcases env.style_cases style with ⟨font, first, _⟩ | ⟨reason, _, unset, _⟩
      · cases first.symm.trans (faceless.face?_eq_none style)
      · rw [unset] at set
        cases set

end Environment

namespace Visit

variable {env : Environment} {visit : Visit}

/-- A visit of a well-typed entry within the depth limit whose component needs no text and that
nothing is wrong with: an image, a swatch, a slider, a placeholder without a label, an icon that can
be drawn, a row, a column, a card, or a text field without any text. -/
def Textless (env : Environment) (visit : Visit) : Prop :=
  ∃ entry component, visit.entry = some entry ∧ visit.depth ≤ env.config.maxDepth ∧
    Component.ofEntry entry = .ok component ∧ component.styles = [] ∧
    component.error? env.icons = none

/-- Whatever faces there are, what needs no text is made. -/
theorem Textless.isMade (textless : visit.Textless env) : visit.isMade env = true := by
  obtain ⟨depth, _⟩ := visit
  obtain ⟨entry, component, rfl, shallow, reads, bare, whole⟩ := textless
  have sound : entry.error? env depth = none := by
    rw [Entry.error?, if_neg (Nat.not_lt.mpr shallow), reads]
    exact whole
  have faultless : entry.fault? env depth = none := by
    rw [Entry.fault?_of_sound sound reads, Component.fontError?, bare, env.faces_nil]
  have known : Kind.ofTag? entry.tag ≠ none := by
    rw [← Component.kind?_ofEntry reads]
    intro unknown
    cases component with
    | unknown tag => cases bare
    | _ => cases unknown
  simp [Visit.isMade, isSkipped, unknownTag?, known, Visit.fault?, faultless]

/-- Without faces nothing else is made. -/
theorem textless_of_isMade (faceless : env.Faceless) (made : visit.isMade env = true) :
    visit.Textless env := by
  obtain ⟨depth, _ | entry⟩ := visit
  · cases made
  · have faultless : entry.fault? env depth = none := by
      cases faulty : entry.fault? env depth with
      | none => rfl
      | some error => simp [Visit.isMade, Visit.fault?, faulty] at made
    have sound : entry.error? env depth = none := by
      cases wrong : entry.error? env depth with
      | none => rfl
      | some error => cases (Entry.fault?_of_error wrong).symm.trans faultless
    obtain ⟨component, shallow, reads, whole, _⟩ := entry.reads_of_sound sound
    refine ⟨entry, component, rfl, shallow, reads, ?_, whole⟩
    rw [Entry.fault?_of_sound sound reads, Component.fontError?] at faultless
    cases set : env.faces component.styles with
    | ok fonts => exact faceless.styles_eq_nil set
    | error reason =>
        rw [set] at faultless
        cases faultless

end Visit

namespace Renderer

variable (env : Environment)

/-- Every text of a forest is set in the first face that can be used of the chain for its style,
which is of a family that is listed; in document order the texts are those that the visits ask for,
as far as there are faces. What needs no text is built whatever faces there are; without any, the
forest has no text and nothing else is built. -/
theorem tree_faces (values : List Json) (renderer : Renderer) :
    let visits := Visit.all env.config.maxDepth 0 values
    ∃ forest after, renderer.tree env (.array values) = (.ok forest, after) ∧
      Node.facesOf forest = visits.flatMap (Visit.faces env) ∧
      (∀ node ∈ Node.allOf forest, ∀ font, node.face? = some font →
        font.family ∈ env.config.fontFamilies ∧ env.fonts font = true ∧
        ∃ visit ∈ visits, ∃ style ∈ visit.styles env, ∃ before later,
          Font.chain env.config.fontFamilies style = before ++ font :: later ∧
          ∀ earlier ∈ before, env.fonts earlier = false) ∧
      after.log.built = renderer.log.built + visits.countP (Visit.isMade env) ∧
      (∀ visit ∈ visits, visit.Textless env →
        visit.isMade env = true ∧ ∃ node ∈ Node.allOf forest, visit.Yields env node) ∧
      (env.Faceless →
        (∀ node ∈ Node.allOf forest, node.face? = none) ∧
        ∀ visit ∈ visits, visit.isMade env = true → visit.Textless env) := by
  intro visits
  obtain ⟨forest, after, log, made, noted, rendered⟩ := renderer.tree_renders env values
  have text (node : Node) (member : node ∈ Node.allOf forest) (font : FontName)
      (shown : node.face? = some font) :
      ∃ visit ∈ visits, ∃ style ∈ visit.styles env, env.face? style = some font := by
    have listed : font ∈ Node.facesOf forest := Node.mem_facesOf.mpr ⟨node, member, shown⟩
    rw [rendered.faces] at listed
    obtain ⟨visit, visited, left⟩ := List.mem_flatMap.mp listed
    obtain ⟨style, asked, first⟩ := List.mem_filterMap.mp left
    exact ⟨visit, visited, style, asked, first⟩
  refine ⟨forest, after, made, rendered.faces, ?_, ?_, ?_, ?_⟩
  · intro node member font shown
    obtain ⟨visit, visited, style, asked, first⟩ := text node member font shown
    obtain ⟨listed, usable, chain⟩ := Environment.face?_usable first
    exact ⟨listed, usable, visit, visited, style, asked, chain⟩
  · rw [noted, Diagnostics.built_append, rendered.notes.built]
  · intro visit visited textless
    exact ⟨textless.isMade, rendered.present visit visited textless.isMade⟩
  · intro faceless
    refine ⟨?_, fun _ _ => Visit.textless_of_isMade faceless⟩
    intro node member
    cases shown : node.face? with
    | none => rfl
    | some font =>
        obtain ⟨_, _, style, _, first⟩ := text node member font shown
        cases first.symm.trans (faceless.face?_eq_none style)

/-- A row with a button and a slider: the button is set in the regular face if that is the only one,
and is not built if there is none, while the row and the slider are. -/
theorem tree_faces_row :
    let env (fonts : FontProvider) : Environment := ⟨.standard, .builtin, fonts, .library⟩
    let sparse := env (Font.ofFaces [⟨"Inter", .regular⟩])
    let bare := env fun _ => false
    let button : Json := .object [("component", .string "Button"), ("props", .object [])]
    let slider : Json := .object [("component", .string "Slider"), ("props", .object [])]
    let row : Json := .object
      [("component", .string "Row"), ("props", .object [("children", .array [button, slider])])]
    (∃ forest after, (Renderer.fresh 0).tree sparse (.array [row]) = (.ok forest, after) ∧
      Node.facesOf forest = [⟨"Inter", .regular⟩] ∧ after.log.built = 3) ∧
    bare.Faceless ∧
    ∃ forest after, (Renderer.fresh 0).tree bare (.array [row]) = (.ok forest, after) ∧
      (∀ node ∈ Node.allOf forest, node.face? = none) ∧ after.log.built = 2 := by
  intro env sparse bare button slider row
  let outer : Entry := ⟨"Row", [("children", .array [button, slider])]⟩
  let pill : Entry := ⟨"Button", []⟩
  let track : Entry := ⟨"Slider", []⟩
  have visits : Visit.all Config.standard.maxDepth 0 [row] =
      [⟨0, some outer⟩, ⟨1, some pill⟩, ⟨1, some track⟩] := by
    have opens : outer.opens Config.standard.maxDepth 0 = true := by decide
    have pillCloses : pill.opens Config.standard.maxDepth 1 = false := by decide
    have trackCloses : track.opens Config.standard.maxDepth 1 = false := by decide
    simp [row, button, slider, Visit.all, Entry.ofJson?, Json.member?, Json.string?, Json.object?,
      List.lookup_cons, opens, pillCloses, trackCloses, outer, pill, track, Entry.children,
      Json.array?]
  refine ⟨?_, fun _ _ _ => rfl, ?_⟩
  · obtain ⟨forest, after, made, faces, _, built, _⟩ := tree_faces sparse [row] (.fresh 0)
    rw [visits] at faces built
    refine ⟨forest, after, made, ?_, ?_⟩
    · rw [faces]
      decide +kernel
    · rw [built]
      decide +kernel
  · obtain ⟨forest, after, made, _, _, built, _, faceless⟩ := tree_faces bare [row] (.fresh 0)
    rw [visits] at built
    refine ⟨forest, after, made, (faceless fun _ _ _ => rfl).1, ?_⟩
    rw [built]
    decide +kernel

end Renderer

end Wireframe
