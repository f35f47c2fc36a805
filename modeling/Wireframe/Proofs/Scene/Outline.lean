import Wireframe.Proofs.Scene.Faces
import Wireframe.Proofs.Scene.Line
/-!
What outlines tell. The lines of a tree are told apart by their line breaks and the blanks in front
of them, and a line that is deeper than the one before begins what is below it; so two trees have
one outline if and only if they have one layout, provided that no name has a line break in it.
-/

namespace Wireframe

inductive Sketch where
  | node (line : Line) (below : List Sketch)

namespace Sketch

mutual

def lines (depth : Nat) : Sketch → List (Nat × Line)
  | .node line below => (depth, line) :: linesOf (depth + 1) below

def linesOf (depth : Nat) : List Sketch → List (Nat × Line)
  | [] => []
  | sketch :: rest => sketch.lines depth ++ linesOf depth rest

end

def Shallow (depth : Nat) (rest : List (Nat × Line)) : Prop := ∀ entry ∈ rest.head?, entry.1 < depth

theorem shallow_linesOf {depth : Nat} {rest : List (Nat × Line)} (shallow : Shallow depth rest)
    (sketches : List Sketch) : Shallow (depth + 1) (linesOf depth sketches ++ rest) := by
  intro entry present
  cases sketches with
  | nil =>
      have above := shallow entry (by simpa [linesOf] using present)
      omega
  | cons sketch more =>
      obtain ⟨line, below⟩ := sketch
      rw [linesOf, lines, List.cons_append, List.cons_append, List.head?_cons] at present
      cases present
      exact Nat.lt_succ_self depth

mutual

/-- No tree is the beginning of another: what follows a tree is less deep than what is below it, so it
is not taken for a child. -/
theorem lines_apart {depth : Nat} {rest others : List (Nat × Line)}
    (shallow : Shallow (depth + 1) rest) (shallowOther : Shallow (depth + 1) others)
    (sketch other : Sketch) (same : sketch.lines depth ++ rest = other.lines depth ++ others) :
    sketch = other ∧ rest = others := by
  obtain ⟨line, below⟩ := sketch
  obtain ⟨next, under⟩ := other
  rw [lines, lines] at same
  obtain ⟨first, later⟩ := List.cons.inj same
  obtain ⟨equal, ends⟩ := linesOf_apart shallow shallowOther below under later
  cases first
  exact ⟨by rw [equal], ends⟩

theorem linesOf_apart {depth : Nat} {rest others : List (Nat × Line)}
    (shallow : Shallow depth rest) (shallowOther : Shallow depth others)
    (sketches more : List Sketch)
    (same : linesOf depth sketches ++ rest = linesOf depth more ++ others) :
    sketches = more ∧ rest = others := by
  cases sketches with
  | nil =>
      cases more with
      | nil => exact ⟨rfl, same⟩
      | cons other after =>
          -- The other forest goes on with a line of this depth where the rest of this one begins.
          obtain ⟨next, under⟩ := other
          rw [linesOf, linesOf, lines] at same
          cases same
          exact absurd (shallow _ rfl) (Nat.lt_irrefl depth)
  | cons sketch after =>
      cases more with
      | nil =>
          obtain ⟨line, below⟩ := sketch
          rw [linesOf, linesOf, lines] at same
          cases same
          exact absurd (shallowOther _ rfl) (Nat.lt_irrefl depth)
      | cons other later =>
          rw [linesOf, linesOf, List.append_assoc, List.append_assoc] at same
          obtain ⟨first, rests⟩ := lines_apart (shallow_linesOf shallow after)
            (shallow_linesOf shallowOther later) sketch other same
          obtain ⟨equal, ends⟩ := linesOf_apart shallow shallowOther after later rests
          exact ⟨by rw [first, equal], ends⟩

end

theorem lines_injective {depth : Nat} {sketch other : Sketch}
    (same : sketch.lines depth = other.lines depth) : sketch = other := by
  have none : Shallow (depth + 1) [] := fun _ present => absurd present (by simp)
  exact (lines_apart none none sketch other (by rw [same])).1

end Sketch

namespace Line

def block (entry : Nat × Line) : List Char :=
  List.replicate (2 * entry.1) ' ' ++ entry.2.chars ++ ['\n']

theorem indent_injective {m n : Nat} {front back : List Char}
    (head : ∃ first rest, front = first :: rest ∧ first ≠ ' ')
    (headOther : ∃ first rest, back = first :: rest ∧ first ≠ ' ')
    (same : List.replicate m ' ' ++ front = List.replicate n ' ' ++ back) :
    m = n ∧ front = back := by
  induction m generalizing n with
  | zero =>
      cases n with
      | zero => exact ⟨rfl, same⟩
      | succ n =>
          obtain ⟨first, rest, rfl, apart⟩ := head
          exact absurd (List.cons.inj same).1 apart
  | succ m ih =>
      cases n with
      | zero =>
          obtain ⟨first, rest, rfl, apart⟩ := headOther
          exact absurd (List.cons.inj same).1.symm apart
      | succ n =>
          obtain ⟨equal, fronts⟩ := ih (List.cons.inj same).2
          exact ⟨congrArg (· + 1) equal, fronts⟩

def Unbroken (entries : List (Nat × Line)) : Prop :=
  ∀ entry ∈ entries, '\n' ∉ entry.2.name.toList

theorem block_apart {entry other : Nat × Line} {rest others : List Char}
    (unbroken : '\n' ∉ entry.2.name.toList) (unbrokenOther : '\n' ∉ other.2.name.toList)
    (same : block entry ++ rest = block other ++ others) : entry = other ∧ rest = others := by
  have indented {entry : Nat × Line} (unbroken : '\n' ∉ entry.2.name.toList) :
      '\n' ∉ List.replicate (2 * entry.1) ' ' ++ entry.2.chars := by
    apply List.not_mem_append _ (chars_unbroken unbroken)
    intro present
    exact absurd (List.eq_of_mem_replicate present) (by decide)
  have ended : List.replicate (2 * entry.1) ' ' ++ entry.2.chars ++ '\n' :: rest =
      List.replicate (2 * other.1) ' ' ++ other.2.chars ++ '\n' :: others := by
    simpa [block] using same
  obtain ⟨fronts, ends⟩ :=
    Text.split_first (indented unbroken) (indented unbrokenOther) ended
  obtain ⟨blanks, chars⟩ := indent_injective entry.2.chars_head other.2.chars_head fronts
  exact ⟨Prod.ext (by omega) (chars_injective chars), ends⟩

theorem blocks_injective {entries others : List (Nat × Line)} (unbroken : Unbroken entries)
    (unbrokenOther : Unbroken others) (same : entries.flatMap block = others.flatMap block) :
    entries = others := by
  induction entries generalizing others with
  | nil =>
      cases others with
      | nil => rfl
      | cons other after => simp [block] at same
  | cons entry rest ih =>
      cases others with
      | nil => simp [block] at same
      | cons other after =>
          obtain ⟨first, later⟩ := block_apart (unbroken entry List.mem_cons_self)
            (unbrokenOther other List.mem_cons_self) same
          have equal := ih (fun entry listed => unbroken entry (.tail _ listed))
            (fun other listed => unbrokenOther other (.tail _ listed)) later
          rw [first, equal]

end Line

namespace Node

def content : Node → Line.Content
  | .leaf _ (.text run) => .text run.characters run.align
  | .leaf _ (.rectangle _) => .rectangle
  | .leaf _ (.ellipse _) => .ellipse
  | .leaf _ (.vector _) => .vector
  | .container _ frame _ =>
      .container frame.layout frame.primarySizing frame.counterSizing frame.primaryAlign
        frame.counterAlign frame.spacing

def line (node : Node) : Line :=
  { name := node.name
    layoutAlign := node.header.layoutAlign
    content := node.content
    position := node.header.position }

mutual

def sketch : Node → Sketch
  | .leaf header content => .node (Node.leaf header content).line []
  | .container header frame children =>
      .node (Node.container header frame children).line (sketchesOf children)

def sketchesOf : List Node → List Sketch
  | [] => []
  | node :: rest => node.sketch :: sketchesOf rest

end

theorem tag_content (node : Node) : node.content.tag = node.tag := by
  cases node with
  | leaf header content => cases content <;> rfl
  | container header frame children => rfl

theorem toList_align (layoutAlign : LayoutAlign) :
    (if layoutAlign = .stretch then " stretch" else "").toList =
      spaced (Line.alignWords layoutAlign) := by
  cases layoutAlign <;> rfl

theorem toList_position (position : Option Point) :
    (positionDetail position).toList = spaced (Line.positionWords position) := by
  cases position with
  | none => rfl
  | some point => simp [positionDetail, Line.positionWords, spaced]

theorem toList_leaf (header : Header) (leaf : Leaf) :
    (leafDetail leaf).toList = Line.saying (Node.leaf header leaf).content.said? ++
      spaced (Node.leaf header leaf).content.words := by
  cases leaf with
  | text run =>
      simp [leafDetail, content, Line.Content.said?, Line.Content.words, Line.saying, spaced,
        Text.toList_quoted]
  | _ => rfl

theorem toList_frame (header : Header) (frame : Frame) (children : List Node) :
    (frameDetail frame).toList = Line.saying (container header frame children).content.said? ++
      spaced (container header frame children).content.words := by
  simp [frameDetail, content, Line.Content.said?, Line.Content.words, Line.saying, spaced]

theorem toList_outlineLine {node : Node} {detail : String}
    (shown : detail.toList = Line.saying node.content.said? ++ spaced node.content.words)
    (depth : Nat) :
    (outlineLine depth node.tag node.header detail).toList = Line.block (depth, node.line) := by
  simp only [outlineLine, String.toList_append, String.toList_ofList, toList_align,
    toList_position, shown, Line.block, Line.chars, Line.endWords, line, tag_content, spaced_append]
  simp [name]

mutual

theorem toList_outlineAt (depth : Nat) (node : Node) :
    (node.outlineAt depth).toList = (node.sketch.lines depth).flatMap Line.block := by
  cases node with
  | leaf header content =>
      have first := toList_outlineLine (toList_leaf header content) depth
      rw [sketch, Sketch.lines, Sketch.linesOf, List.flatMap_singleton, ← first, outlineAt]
      rfl
  | container header frame children =>
      have first := toList_outlineLine (toList_frame header frame children) depth
      have below := toList_outlineAll (depth + 1) children
      rw [sketch, Sketch.lines, List.flatMap_cons, ← first, ← below, outlineAt,
        String.toList_append]
      rfl

theorem toList_outlineAll (depth : Nat) (nodes : List Node) :
    (outlineAll depth nodes).toList =
      (Sketch.linesOf depth (sketchesOf nodes)).flatMap Line.block := by
  cases nodes with
  | nil => rfl
  | cons node rest =>
      rw [sketchesOf, Sketch.linesOf, List.flatMap_append, ← toList_outlineAt depth node,
        ← toList_outlineAll depth rest, outlineAll, String.toList_append]

end

mutual

theorem lines_sketch (depth : Nat) (node : Node) :
    (node.sketch.lines depth).map Prod.snd = node.all.map line := by
  cases node with
  | leaf header content => rw [sketch, Sketch.lines, Sketch.linesOf, all]; rfl
  | container header frame children =>
      have below := linesOf_sketches (depth + 1) children
      rw [sketch, Sketch.lines, all, List.map_cons, List.map_cons, below]

theorem linesOf_sketches (depth : Nat) (nodes : List Node) :
    (Sketch.linesOf depth (sketchesOf nodes)).map Prod.snd = (allOf nodes).map line := by
  cases nodes with
  | nil => rw [sketchesOf, Sketch.linesOf, allOf_nil]; rfl
  | cons node rest =>
      rw [sketchesOf, Sketch.linesOf, allOf_cons, List.map_append, List.map_append,
        lines_sketch depth node, linesOf_sketches depth rest]

end

theorem unbroken_lines {node : Node} (named : ∀ inner ∈ node.all, '\n' ∉ inner.name.toList)
    (depth : Nat) : Line.Unbroken (node.sketch.lines depth) := by
  intro entry listed
  have shown := List.mem_map_of_mem (f := Prod.snd) listed
  rw [lines_sketch] at shown
  obtain ⟨inner, present, same⟩ := List.mem_map.mp shown
  rw [← same]
  exact named inner present

/-- Trees without line breaks in names have the same outline if and only if they have the same
shape and nodes in the same places have the same kind, name, text, layout and position. -/
theorem outline_eq_iff {a b : Node} (named : ∀ node ∈ a.all, '\n' ∉ node.name.toList)
    (namedOther : ∀ node ∈ b.all, '\n' ∉ node.name.toList) :
    a.outline = b.outline ↔ a.sketch = b.sketch := by
  constructor
  · intro same
    have chars := congrArg String.toList same
    rw [outline, outline, toList_outlineAt, toList_outlineAt] at chars
    have lines :=
      Line.blocks_injective (unbroken_lines named 0) (unbroken_lines namedOther 0) chars
    exact Sketch.lines_injective lines
  · intro same
    apply String.toList_injective
    rw [outline, outline, toList_outlineAt, toList_outlineAt, same]

/-- A box in a box, numbered one way and the other. -/
theorem outline_eq_iff_renumbered :
    let box (id : Nat) (name : String) := container (.fresh id name) (.plain ⟨1, 1⟩)
    let first := box 2 "an \"outer\" box" [box 1 "stretch" []]
    let second := box 8 "an \"outer\" box" [box 9 "stretch" []]
    (∀ node ∈ first.all, '\n' ∉ node.name.toList) ∧
      (∀ node ∈ second.all, '\n' ∉ node.name.toList) ∧
      first.outline = second.outline ∧ first.sketch = second.sketch := by
  intro box first second
  have named : ∀ node ∈ first.all, '\n' ∉ node.name.toList := by decide +kernel
  have namedOther : ∀ node ∈ second.all, '\n' ∉ node.name.toList := by decide +kernel
  have same : first.outline = second.outline := by decide +kernel
  exact ⟨named, namedOther, same, (outline_eq_iff named namedOther).mp same⟩

/-- Names are not escaped: a box without children whose name has a line break in it looks like a box
with a child. -/
theorem outline_feigned :
    let box (id : Nat) (name : String) := container (.fresh id name) (.plain ⟨1, 1⟩)
    let nested := box 1 "C" [box 2 "D" []]
    let feigned := box 3 "C\" None Fixed/Fixed Min/Min spacing=0\n  CONTAINER \"D" []
    nested.outline = feigned.outline ∧ nested.sketch ≠ feigned.sketch := by
  intro box nested feigned
  have same : nested.outline = feigned.outline := by decide +kernel
  refine ⟨same, ?_⟩
  intro equal
  have below := (Sketch.node.inj equal).2
  cases below

end Node

end Wireframe
