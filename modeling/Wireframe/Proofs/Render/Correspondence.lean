import Mathlib.Data.List.Forall2
import Wireframe.Catalog.Builtin
import Wireframe.Proofs.Render.ContextFree
import Wireframe.Proofs.Render.Reliability
/-!
Nodes and entries. With a regular face every entry that counts has exactly one node, at its place
among the others and at every level: the one that its component builds, a red text that names an
unknown kind, or a red text in the place of what could not be built.
-/

namespace Wireframe

/-- A text in the colour of errors that says `content`, under a name. -/
def Environment.Warns (env : Environment) (content name : String) (node : Node) : Prop :=
  ∃ header run, node = .leaf header (.text run) ∧ header.name = name ∧
    run.characters = content ∧ run.fill = env.palette.error

/-- What stands in the place of an entry with `depth` containers around it. A row, column or card
has a child for each entry below it that counts, in their order, and no others. -/
inductive Stands (env : Environment) : Nat → Entry → Node → Prop
  | failed {depth : Nat} {entry : Entry} {error : BuildError} {node : Node}
      (wrong : entry.error? env depth = some error)
      (warns : env.Warns ("[ERROR: " ++ entry.tag ++ "]") ("Error (" ++ entry.tag ++ ")") node) :
      Stands env depth entry node
  | unknown {depth : Nat} {entry : Entry} {node : Node} (shallow : depth ≤ env.config.maxDepth)
      (foreign : Kind.ofTag? entry.tag = none)
      (warns : env.Warns ("[UNKNOWN: " ++ entry.tag ++ "]") entry.tag node) :
      Stands env depth entry node
  | single {depth : Nat} {entry : Entry} {kind : Kind} {component : Component} {node : Node}
      (lastId : Nat) (sound : entry.error? env depth = none)
      (known : Kind.ofTag? entry.tag = some kind) (alone : kind.nests = false)
      (reads : Component.ofEntry entry = .ok component)
      (made : ((Render.component env (pure []) component).run lastId).value = .ok node) :
      Stands env depth entry (Render.named entry.tag node)
  | nested {depth : Nat} {entry : Entry} {kind : Kind} {component : Component}
      {header : Node.Header} {frame : Frame} {children : List Node} (lastId : Nat)
      (sound : entry.error? env depth = none) (known : Kind.ofTag? entry.tag = some kind)
      (nests : kind.nests = true) (reads : Component.ofEntry entry = .ok component)
      (made : ((Render.component env (pure children) component).run lastId).value =
        .ok (.container header frame children))
      (length : (entry.children.filterMap Entry.ofJson?).length = children.length)
      (each : ∀ pair ∈ (entry.children.filterMap Entry.ofJson?).zip children,
        Stands env (depth + 1) pair.1 pair.2) :
      Stands env depth entry (Render.named entry.tag (.container header frame children))

def Stands.Slot (env : Environment) (depth : Nat) (value : Json) (slot : Option Node) : Prop :=
  match Entry.ofJson? value with
  | none => slot = none
  | some entry => ∃ node, slot = some node ∧ Stands env depth entry node

namespace Stands

variable {env : Environment} {depth : Nat}

theorem of_slots {values : List Json} {slots : List (Option Node)}
    (each : List.Forall₂ (Slot env depth) values slots) :
    List.Forall₂ (Stands env depth) (values.filterMap Entry.ofJson?) (slots.filterMap id) := by
  induction each with
  | nil => exact .nil
  | @cons value slot _ _ first _ ih =>
      unfold Slot at first
      cases valid : Entry.ofJson? value with
      | none =>
          rw [valid] at first
          rw [List.filterMap_cons_none valid, first]
          exact ih
      | some entry =>
          rw [valid] at first
          obtain ⟨node, made, stands⟩ := first
          rw [List.filterMap_cons_some valid, made]
          exact .cons stands ih

theorem of_children {entry : Entry} {kind : Kind} {component : Component} {header : Node.Header}
    {frame : Frame} {children : List Node} (lastId : Nat) (sound : entry.error? env depth = none)
    (known : Kind.ofTag? entry.tag = some kind) (nests : kind.nests = true)
    (reads : Component.ofEntry entry = .ok component)
    (made : ((Render.component env (pure children) component).run lastId).value =
      .ok (.container header frame children))
    (each : List.Forall₂ (Stands env (depth + 1)) (entry.children.filterMap Entry.ofJson?)
      children) :
    Stands env depth entry (Render.named entry.tag (.container header frame children)) := by
  obtain ⟨length, pairs⟩ := List.forall₂_iff_zip.mp each
  exact .nested lastId sound known nests reads made length fun pair member => pairs member

end Stands

def Build.Gives {α : Type} (build : Build α) (holds : α → Prop) : Prop :=
  ∀ lastId, holds (build lastId).value

namespace Render

variable {env : Environment} {depth : Nat} {below : Build (List Node)}

theorem notice_warns (regular : env.HasRegular) (content : String) (size : Float32)
    (style : FontStyle) (lastId : Nat) :
    ∃ node, ((env.notice content size style).run lastId).value = .ok node ∧
      ∀ name, env.Warns content name (node.rename name) := by
  rcases env.text_cases ⟨content, size, style, .left⟩ env.palette.error lastId with
    ⟨font, made⟩ | ⟨faceless, _⟩
  · exact ⟨_, congrArg Built.value made, fun name => ⟨_, _, rfl, rfl, rfl, rfl⟩⟩
  · exact absurd regular faceless

theorem errorText_warns (regular : env.HasRegular) (tag : String) :
    (errorText env tag).Gives fun slot => ∃ node, slot = some node ∧
      env.Warns ("[ERROR: " ++ tag ++ "]") ("Error (" ++ tag ++ ")") node := by
  intro lastId
  obtain ⟨node, made, warns⟩ :=
    notice_warns regular ("[ERROR: " ++ tag ++ "]") 12 .regular lastId
  refine ⟨_, ?_, warns _⟩
  rw [errorText, Build.bind_apply]
  dsimp only
  rw [made]
  rfl

theorem unknown_warns (below : Build (List Node)) (regular : env.HasRegular) (tag : String)
    (lastId : Nat) :
    ∃ node, ((recorded env below (.unknown tag)).run lastId).value = .ok node ∧
      env.Warns ("[UNKNOWN: " ++ tag ++ "]") tag (named tag node) := by
  obtain ⟨node, made, warns⟩ :=
    notice_warns regular ("[UNKNOWN: " ++ tag ++ "]") 16 .bold lastId
  have noted : ((liftM (Build.record (.unknownKind tag)) : Attempt Unit).run lastId).value =
      .ok () := rfl
  refine ⟨node.rename tag, ?_, ?_⟩
  · rw [recorded, Attempt.bind_ok _ noted]
    exact congrArg Built.value (Attempt.bind_ok _ made)
  · -- The text is named already, also where the tag is empty.
    have same : named tag (node.rename tag) = node.rename tag := by
      unfold named
      split
      · cases node <;> rfl
      · rfl
    rw [same]
    exact warns tag

/-- A row, column or card is a frame around what was built below it. -/
theorem component_fills (env : Environment) (below : Build (List Node)) {component : Component}
    (nests : component.kind?.any Kind.nests = true) (lastId : Nat) :
    let inside := below lastId
    ∃ header frame,
      ((Render.component env below component).run lastId).value =
        .ok (.container header frame inside.value) ∧
      ((Render.component env (pure inside.value) component).run inside.lastId).value =
        .ok (.container header frame inside.value) := by
  cases component with
  | row props => exact ⟨_, _, rfl, rfl⟩
  | column props => exact ⟨_, _, rfl, rfl⟩
  | card props => exact ⟨_, _, rfl, rfl⟩
  | _ => cases nests

theorem recorded_value {component : Component} {kind : Kind} {node : Node} {lastId : Nat}
    (known : component.kind? = some kind)
    (made : ((Render.component env below component).run lastId).value = .ok node) :
    ((recorded env below component).run lastId).value = .ok node := by
  rw [recorded_known known, Attempt.bind_ok _ made]
  rfl

theorem attempt_stands (regular : env.HasRegular) {read : Entry}
    (sound : read.error? env depth = none)
    (inside : below.Gives (List.Forall₂ (Stands env (depth + 1))
      (read.children.filterMap Entry.ofJson?))) (lastId : Nat) :
    ∃ node, ((attempt env depth read below).run lastId).value = .ok node ∧
      Stands env depth read (named read.tag node) := by
  obtain ⟨component, shallow, reads, whole, _, made⟩ := attempt_sound sound
  have ofTag := Component.kind?_ofEntry reads
  rw [made]
  cases known : component.kind? with
  | none =>
      cases component with
      | unknown tag =>
          cases Component.ofEntry_unknown reads
          obtain ⟨node, value, warns⟩ := unknown_warns below regular read.tag lastId
          exact ⟨node, value, .unknown shallow (ofTag.symm.trans known) warns⟩
      | _ => cases known
  | some kind =>
      have kindNests : component.kind?.any Kind.nests = kind.nests := by
        rw [known, Option.any_some]
      have tagged := ofTag.symm.trans known
      cases nests : kind.nests with
      | true =>
          obtain ⟨header, frame, value, again⟩ :=
            component_fills env below (kindNests.trans nests) lastId
          exact ⟨_, recorded_value known value,
            .of_children _ sound tagged nests reads again (inside lastId)⟩
      | false =>
          have single := kindNests.trans nests
          obtain ⟨node, value⟩ := ((component_makes below whole single).reliable regular lastId).1
          refine ⟨node, recorded_value known value, ?_⟩
          rw [component_alone below single] at value
          exact .single lastId sound tagged nests reads value

theorem entry_stands (regular : env.HasRegular) (read : Entry)
    (inside : below.Gives (List.Forall₂ (Stands env (depth + 1))
      (read.children.filterMap Entry.ofJson?))) :
    (entry env depth read below).Gives fun slot =>
      ∃ node, slot = some node ∧ Stands env depth read node := by
  intro lastId
  unfold entry
  rw [Build.bind_apply]
  dsimp only
  cases checked : read.error? env depth with
  | none =>
      obtain ⟨node, made, stands⟩ := attempt_stands regular checked inside lastId
      rw [made]
      exact ⟨_, rfl, stands⟩
  | some error =>
      obtain ⟨node, made, warns⟩ := errorText_warns regular read.tag lastId
      rw [attempt_fails checked]
      exact ⟨node, made, .failed checked warns⟩

/-- By induction on what is visited: each value has its slot. -/
theorem trees_stand (regular : env.HasRegular) (depth : Nat) (values : List Json) :
    (trees env depth (Tree.ofList values)).Gives
      (List.Forall₂ (Stands.Slot env depth) values) := by
  fun_induction Visit.all env.config.maxDepth depth values with
  | case1 depth =>
      intro lastId
      exact .nil
  | case2 depth value rest invalid ih =>
      have gap : Stands.Slot env depth value none := by
        unfold Stands.Slot
        rw [invalid]
      intro lastId
      rw [Tree.ofList, Tree.ofJson_invalid invalid, trees, Build.bind_apply]
      exact .cons gap (ih _)
  | case3 depth value rest read valid _ below ih =>
      have inside : (kept (trees env (depth + 1) (Tree.ofList read.children))).Gives
          (List.Forall₂ (Stands env (depth + 1)) (read.children.filterMap Entry.ofJson?)) := by
        intro lastId
        exact Stands.of_slots (below lastId)
      intro lastId
      have filled : Stands.Slot env depth value (tree env depth (.ofJson value) lastId).value := by
        unfold Stands.Slot
        rw [valid, Tree.ofJson_entry valid, tree]
        exact entry_stands regular read inside lastId
      rw [Tree.ofList, trees, Build.bind_apply]
      exact .cons filled (ih _)

end Render

namespace Renderer

variable {env : Environment}

/-- No entry is lost, doubled or moved. With a regular face a list of values becomes the nodes of
its entries that count, one each and in order, and so does what lies below each row, column or card.
-/
theorem tree_corresponds (regular : env.HasRegular) (values : List Json) (renderer : Renderer) :
    ∃ nodes, (renderer.tree env (.array values)).1 = .ok nodes ∧
      List.Forall₂ (Stands env 0) (values.filterMap Entry.ofJson?) nodes := by
  refine ⟨_, congrArg Prod.fst (renderer.tree_array env values), ?_⟩
  exact Stands.of_slots (Render.trees_stand regular 0 values renderer.lastId)

/-- A column around an unknown entry, something that is no entry and a broken one. -/
theorem tree_corresponds_column :
    let env : Environment := ⟨.standard, .builtin, Font.ofFaces (Font.family "Inter"), .library⟩
    let entry (tag : String) (props : List (String × Json)) : Json :=
      .object [("component", .string tag), ("props", .object props)]
    let below := [entry "Mystery" [], .null, entry "Switch" [("checked", .string "on")]]
    let column := entry "Column" [("children", .array below)]
    let rendered := (Renderer.fresh 0).tree env (.array [column])
    env.HasRegular ∧ ∃ node, rendered.1 = .ok [node] ∧
      node.children.map Node.name = ["Mystery", "Error (Switch)"] ∧
      Stands env 0 ⟨"Column", [("children", .array below)]⟩ node := by
  intro env entry below column rendered
  have regular : env.HasRegular := ⟨"Inter", by decide, by decide⟩
  have names : rendered.1.toOption.map (List.map fun node => node.children.map Node.name) =
      some [["Mystery", "Error (Switch)"]] := by decide +kernel
  obtain ⟨nodes, made, stands⟩ := tree_corresponds regular [column] (.fresh 0)
  have one : rendered.1 = .ok nodes := made
  cases stands with
  | cons stands rest =>
      cases rest
      rw [one] at names
      exact ⟨regular, _, made, by simpa [Except.toOption] using names, stands⟩

end Renderer

end Wireframe
