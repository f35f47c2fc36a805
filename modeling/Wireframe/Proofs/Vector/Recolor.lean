import Wireframe.Vector.Basic
/-!
Recolouring artwork. It is a map over the fills: one colour that is not white becomes the new
colour, and everything else of the artwork stays. How often a colour was put on before does not
show, unless that colour was white, on which no later one takes.
-/

namespace Wireframe.Vector

mutual

/-- An element without its fills: its groups and paths with all else that they have. -/
def Element.unfilled : Element → Element
  | .group id transform opacity children => .group id transform opacity (unfilledAll children)
  | .path id data _ stroke => .path id data none stroke

def unfilledAll : List Element → List Element
  | [] => []
  | element :: rest => element.unfilled :: unfilledAll rest

end

def unfilled (vector : Vector) : Vector := { vector with root := vector.root.unfilled }

mutual

theorem Element.length_fills_unfilled (element : Element) :
    element.unfilled.fills.length = element.fills.length := by
  cases element with
  | group id transform opacity children =>
      rw [Element.unfilled, Element.fills, Element.fills, length_fillsOf_unfilledAll children]
  | path id data fill stroke => rfl

theorem length_fillsOf_unfilledAll (elements : List Element) :
    (fillsOf (unfilledAll elements)).length = (fillsOf elements).length := by
  cases elements with
  | nil => rfl
  | cons element rest =>
      rw [unfilledAll, fillsOf, fillsOf, List.length_append, List.length_append,
        Element.length_fills_unfilled element, length_fillsOf_unfilledAll rest]

end

mutual

/-- An element is known by its fills and the rest of it. -/
theorem Element.eq_of_unfilled {first second : Element}
    (rest : first.unfilled = second.unfilled) (fills : first.fills = second.fills) :
    first = second := by
  cases first with
  | group id transform opacity children =>
      cases second with
      | group id' transform' opacity' children' =>
          rw [Element.unfilled, Element.unfilled] at rest
          injection rest with sameId sameTransform sameOpacity sameChildren
          rw [Element.fills, Element.fills] at fills
          rw [sameId, sameTransform, sameOpacity, eq_of_unfilledAll sameChildren fills]
      | path id' data' fill' stroke' =>
          rw [Element.unfilled, Element.unfilled] at rest
          cases rest
  | path id data fill stroke =>
      cases second with
      | group id' transform' opacity' children' =>
          rw [Element.unfilled, Element.unfilled] at rest
          cases rest
      | path id' data' fill' stroke' =>
          rw [Element.unfilled, Element.unfilled] at rest
          injection rest with sameId sameData _ sameStroke
          rw [Element.fills, Element.fills] at fills
          injection fills with sameFill _
          rw [sameId, sameData, sameFill, sameStroke]

theorem eq_of_unfilledAll {first second : List Element}
    (rest : unfilledAll first = unfilledAll second) (fills : fillsOf first = fillsOf second) :
    first = second := by
  cases first with
  | nil =>
      cases second with
      | nil => rfl
      | cons other others =>
          rw [unfilledAll, unfilledAll] at rest
          cases rest
  | cons element elements =>
      cases second with
      | nil =>
          rw [unfilledAll, unfilledAll] at rest
          cases rest
      | cons other others =>
          rw [unfilledAll, unfilledAll] at rest
          injection rest with head tail
          -- The fills part where the first elements end, as these have as many paths.
          have paths : element.fills.length = other.fills.length := by
            rw [← Element.length_fills_unfilled element, head,
              Element.length_fills_unfilled other]
          rw [fillsOf, fillsOf] at fills
          obtain ⟨headFills, tailFills⟩ := List.append_inj fills paths
          rw [Element.eq_of_unfilled head headFills, eq_of_unfilledAll tail tailFills]

end

theorem eq_of_unfilled {first second : Vector} (rest : first.unfilled = second.unfilled)
    (fills : first.root.fills = second.root.fills) : first = second := by
  cases first
  cases second
  injection rest with sameSize sameBox sameRoot samePreserve
  cases sameSize
  cases sameBox
  cases samePreserve
  cases Element.eq_of_unfilled sameRoot fills
  rfl

def repaint (color : Color) (fill : Option Paint) : Option Paint :=
  if recolors fill then some (.solid color) else fill

def tint (color old : Color) : Color := if old.isWhite then old else color

/-- A colour is replaced unless there is none or it is white. -/
def isReplaced (old : Option Color) : Bool := old.any fun color => !color.isWhite

section

variable (fill : Option Paint)

theorem recolors_eq : recolors fill = isReplaced (solid? fill) := by
  rw [recolors]
  cases solid? fill with
  | none => rfl
  | some old => rfl

theorem solid?_repaint (color : Color) :
    solid? (repaint color fill) = (solid? fill).map (tint color) := by
  rw [repaint, recolors_eq]
  cases solid : solid? fill with
  | none => exact solid
  | some old =>
      cases white : old.isWhite with
      | true => simp [isReplaced, tint, white, solid]
      | false => simp [isReplaced, tint, white, solid?]

theorem recolors_repaint {color : Color} (tinted : color.isWhite = false) :
    recolors (repaint color fill) = recolors fill := by
  rw [repaint]
  split
  · rename_i replaced
    rw [replaced]
    exact congrArg not tinted
  · rfl

theorem repaint_repaint {first : Color} (tinted : first.isWhite = false) (second : Color) :
    repaint second (repaint first fill) = repaint second fill := by
  rw [repaint, recolors_repaint fill tinted]
  split
  · rename_i replaced
    rw [repaint, if_pos replaced]
  · rename_i kept
    rw [repaint, repaint, if_neg kept, if_neg kept]

theorem recolors_whitened {color : Color} (white : color.isWhite = true) :
    recolors (repaint color fill) = false := by
  rw [repaint]
  split
  · exact congrArg not white
  · rename_i kept
    exact Bool.not_eq_true _ ▸ kept

end

mutual

/-- An element with its fills mapped. -/
def Element.recolor (color : Color) : Element → Element
  | .group id transform opacity children => .group id transform opacity (recolorAll color children)
  | .path id data fill stroke => .path id data (repaint color fill) stroke

def recolorAll (color : Color) : List Element → List Element
  | [] => []
  | element :: rest => element.recolor color :: recolorAll color rest

end

mutual

theorem Element.unfilled_recolor (color : Color) (element : Element) :
    (element.recolor color).unfilled = element.unfilled := by
  cases element with
  | group id transform opacity children =>
      rw [Element.recolor, Element.unfilled, Element.unfilled,
        unfilledAll_recolorAll color children]
  | path id data fill stroke => rfl

theorem unfilledAll_recolorAll (color : Color) (elements : List Element) :
    unfilledAll (recolorAll color elements) = unfilledAll elements := by
  cases elements with
  | nil => rfl
  | cons element rest =>
      rw [recolorAll, unfilledAll, unfilledAll, Element.unfilled_recolor color element,
        unfilledAll_recolorAll color rest]

end

mutual

theorem Element.fills_recolor (color : Color) (element : Element) :
    (element.recolor color).fills = element.fills.map (repaint color) := by
  cases element with
  | group id transform opacity children =>
      rw [Element.recolor, Element.fills, Element.fills, fillsOf_recolorAll color children]
  | path id data fill stroke => rfl

theorem fillsOf_recolorAll (color : Color) (elements : List Element) :
    fillsOf (recolorAll color elements) = (fillsOf elements).map (repaint color) := by
  cases elements with
  | nil => rfl
  | cons element rest =>
      rw [recolorAll, fillsOf, fillsOf, List.map_append, Element.fills_recolor color element,
        fillsOf_recolorAll color rest]

end

mutual

theorem Element.pass_eq (color : Color) (element : Element) :
    element.pass color = (element.recolor color, element.fills.countP recolors) := by
  cases element with
  | group id transform opacity children =>
      rw [Element.pass, passAll_eq color children, Element.recolor, Element.fills]
  | path id data fill stroke =>
      rw [Element.pass, Element.recolor, repaint, Element.fills, List.countP_singleton]
      split <;> rfl

theorem passAll_eq (color : Color) (elements : List Element) :
    passAll color elements = (recolorAll color elements, (fillsOf elements).countP recolors) := by
  cases elements with
  | nil => rfl
  | cons element rest =>
      rw [passAll, Element.pass_eq color element, passAll_eq color rest, recolorAll, fillsOf,
        List.countP_append]

end

section

variable {vector : Vector}

theorem recolor_preserved (preserved : vector.preserveColors = true) (color : Color) :
    vector.recolor color = (vector, 0) :=
  if_pos preserved

theorem recolor_free (free : vector.preserveColors = false) (color : Color) :
    vector.recolor color =
      ({ vector with root := vector.root.recolor color }, vector.root.fills.countP recolors) := by
  rw [recolor, free, Element.pass_eq]
  rfl

theorem recolor_maps (free : vector.preserveColors = false) (color : Color) :
    let recolored := vector.recolor color
    recolored.1.unfilled = vector.unfilled ∧
      recolored.1.root.fills = vector.root.fills.map (repaint color) := by
  rw [recolor_free free color]
  refine ⟨?_, vector.root.fills_recolor color⟩
  exact congrArg (fun root => { vector with root }) (vector.root.unfilled_recolor color)

theorem fillColors_recolor (free : vector.preserveColors = false) (color : Color) :
    (vector.recolor color).1.fillColors = vector.fillColors.map (Option.map (tint color)) := by
  rw [fillColors, fillColors, (recolor_maps free color).2, List.map_map, List.map_map]
  apply List.map_congr_left
  intro fill _
  exact solid?_repaint fill color

theorem replaced_recolor (free : vector.preserveColors = false) (color : Color) :
    (vector.recolor color).2 = vector.fillColors.countP isReplaced := by
  rw [recolor_free free color, fillColors, List.countP_map]
  apply List.countP_congr
  intro fill _
  rw [recolors_eq]
  rfl

theorem recolor_recolor {first : Color} (tinted : first.isWhite = false) (second : Color) :
    (vector.recolor first).1.recolor second = vector.recolor second := by
  cases preserved : vector.preserveColors with
  | true => rw [recolor_preserved preserved, recolor_preserved preserved]
  | false =>
      have fills := vector.root.fills_recolor first
      have root : (vector.root.recolor first).recolor second = vector.root.recolor second := by
        apply Element.eq_of_unfilled
        · rw [Element.unfilled_recolor, Element.unfilled_recolor, Element.unfilled_recolor]
        · rw [Element.fills_recolor, fills, Element.fills_recolor, List.map_map]
          apply List.map_congr_left
          intro fill _
          exact repaint_repaint fill tinted second
      have replaced : (vector.root.recolor first).fills.countP recolors =
          vector.root.fills.countP recolors := by
        rw [fills, List.countP_map]
        apply List.countP_congr
        intro fill _
        exact iff_of_eq (congrArg (· = true) (recolors_repaint fill tinted))
      have still : (vector.recolor first).1.preserveColors = false := by
        rw [recolor_free preserved first, preserved]
      rw [recolor_free still second, recolor_free preserved second]
      rw [recolor_free preserved first, root, replaced]

theorem recolor_whitened {color : Color} (white : color.isWhite = true) (later : Color) :
    (vector.recolor color).1.recolor later = ((vector.recolor color).1, 0) := by
  cases preserved : vector.preserveColors with
  | true => rw [recolor_preserved preserved, recolor_preserved preserved]
  | false =>
      have whitened : ∀ fill ∈ (vector.root.recolor color).fills, recolors fill = false := by
        rw [Element.fills_recolor]
        intro fill present
        obtain ⟨old, _, rfl⟩ := List.mem_map.mp present
        exact recolors_whitened old white
      have root : (vector.root.recolor color).recolor later = vector.root.recolor color := by
        apply Element.eq_of_unfilled
        · rw [Element.unfilled_recolor]
        · have kept : ∀ fill ∈ (vector.root.recolor color).fills,
              repaint later fill = id fill := by
            intro fill present
            exact if_neg (by simp [whitened fill present])
          rw [Element.fills_recolor, List.map_congr_left kept, List.map_id]
      have replaced : (vector.root.recolor color).fills.countP recolors = 0 :=
        List.countP_eq_zero.mpr fun fill present => by simp [whitened fill present]
      have still : (vector.recolor color).1.preserveColors = false := by
        rw [recolor_free preserved color, preserved]
      rw [recolor_free still later]
      rw [recolor_free preserved color, root, replaced]

end

/-- Recolouring leaves artwork of several tones alone. In any other it replaces every colour that is
not white among the fills, in one pass that counts them, and changes nothing else. So a second pass
of the same colour changes nothing, only the last of several colours shows, and after white none
does. -/
theorem recolor_replaces (vector : Vector) (color : Color) :
    let recolored := vector.recolor color
    (vector.preserveColors = true → recolored = (vector, 0)) ∧
    (vector.preserveColors = false →
      recolored.1.unfilled = vector.unfilled ∧
      recolored.1.root.fills = vector.root.fills.map (repaint color) ∧
      recolored.1.fillColors = vector.fillColors.map (Option.map (tint color)) ∧
      recolored.1.pathCount = vector.pathCount ∧
      recolored.2 = vector.fillColors.countP isReplaced ∧
      vector.root.pass color = (recolored.1.root, recolored.2)) ∧
    (recolored.1.recolor color).1 = recolored.1 ∧
    (color.isWhite = false → ∀ later, recolored.1.recolor later = vector.recolor later) ∧
    (color.isWhite = true → ∀ later, recolored.1.recolor later = (recolored.1, 0)) := by
  intro recolored
  refine ⟨fun preserved => recolor_preserved preserved color, ?_, ?_, fun tinted =>
    recolor_recolor tinted, fun white => recolor_whitened white⟩
  · intro free
    obtain ⟨rest, fills⟩ := recolor_maps free color
    refine ⟨rest, fills, fillColors_recolor free color, ?_, replaced_recolor free color, ?_⟩
    · exact (congrArg List.length fills).trans (List.length_map _)
    · rw [Element.pass_eq, show recolored = _ from recolor_free free color]
  · cases white : color.isWhite with
    | true => rw [recolor_whitened white color]
    | false => rw [recolor_recolor white color]

example :
    let artwork : Vector := ⟨.square 24, .square 24, .group "" none 1
      [.path "" "M 0 0" (some (.solid .black)) none, .path "" "M 1 1" (some (.solid .white)) none,
        .path "" "M 2 2" (some .other) none], false⟩
    let recolored := artwork.recolor (.rgb 0 0 1)
    recolored.1.fillColors = [some (.rgb 0 0 1), some .white, none] ∧ recolored.2 = 1 := by
  decide +kernel

end Wireframe.Vector
