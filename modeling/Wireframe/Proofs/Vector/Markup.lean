import Wireframe.Proofs.Binary.Text
import Wireframe.Proofs.Vector.Recolor
import Wireframe.Proofs.Vector.Tag
import Wireframe.Svg.Document
import Wireframe.Vector.Markup
/-!
The markup that artwork is written as. A scanner of tags reads it back as one `svg` element around
the tree of the artwork: an element around others for each group, and an element that stands alone
for each path, with the paint of the path in its attributes. Recolouring keeps this, as it keeps the
data of the paths, and all artwork that was read from markup has data that can be written.
-/

namespace Wireframe.Vector

open Binary (singleText)
open Markup (Head Plain IsName attributeChars)

mutual

def Element.data : Element → List String
  | .group _ _ _ children => dataOf children
  | .path _ data _ _ => [data]

def dataOf : List Element → List String
  | [] => []
  | element :: rest => element.data ++ dataOf rest

end

/-- Artwork whose data can stand in an attribute. -/
def IsPlain (vector : Vector) : Prop := ∀ data ∈ vector.root.data, Plain data

def painted (vector : Vector) (colors : List Color) : Vector :=
  colors.foldl (fun vector color => (vector.recolor color).1) vector

mutual

theorem Element.data_unfilled (element : Element) : element.unfilled.data = element.data := by
  cases element with
  | group id transform opacity children => exact dataOf_unfilledAll children
  | path id data fill stroke => rfl

theorem dataOf_unfilledAll (elements : List Element) :
    dataOf (unfilledAll elements) = dataOf elements := by
  cases elements with
  | nil => rfl
  | cons element rest =>
      rw [unfilledAll, dataOf, dataOf, Element.data_unfilled element, dataOf_unfilledAll rest]

end

theorem data_recolor (vector : Vector) (color : Color) :
    (vector.recolor color).1.root.data = vector.root.data := by
  cases preserved : vector.preserveColors with
  | true => rw [recolor_preserved preserved]
  | false =>
      have rest := congrArg Vector.root (recolor_maps preserved color).1
      have data := congrArg Element.data rest
      exact (Element.data_unfilled _).symm.trans (data.trans (Element.data_unfilled _))

theorem IsPlain.painted {vector : Vector} (plain : vector.IsPlain) (colors : List Color) :
    (vector.painted colors).IsPlain := by
  induction colors generalizing vector with
  | nil => exact plain
  | cons color later ih =>
      have next : (vector.recolor color).1.IsPlain := by
        rw [IsPlain, data_recolor]
        exact plain
      exact ih next

theorem pathCount_painted (vector : Vector) (colors : List Color) :
    (vector.painted colors).pathCount = vector.pathCount := by
  induction colors generalizing vector with
  | nil => rfl
  | cons color later ih =>
      have next : (vector.recolor color).1.pathCount = vector.pathCount := by
        cases preserved : vector.preserveColors with
        | true => rw [recolor_preserved preserved]
        | false =>
            exact (congrArg List.length (recolor_maps preserved color).2).trans
              (List.length_map _)
      exact (ih _).trans next

theorem plain_append {first second : String} (before : Plain first) (after : Plain second) :
    Plain (first ++ second) := by
  rw [Plain, String.toList_append, List.forall_mem_append]
  exact ⟨before, after⟩

theorem plain_intercalate {separator : String} (between : Plain separator) {parts : List String}
    (all : ∀ part ∈ parts, Plain part) : Plain (separator.intercalate parts) := by
  induction parts with
  | nil => exact List.forall_mem_nil _
  | cons part rest ih =>
      have first := all part List.mem_cons_self
      have later := ih fun other listed => all other (List.mem_cons_of_mem part listed)
      cases rest with
      | nil => rwa [String.intercalate_singleton]
      | cons next others =>
          rw [String.intercalate_cons_cons]
          exact plain_append (plain_append first between) later

theorem isPlain_of_isDigit {c : Char} (digit : c.isDigit = true) : Markup.isPlain c = true := by
  have apart {other : Char} (mark : other.isDigit = false) : c ≠ other := by
    rintro rfl
    exact absurd (mark.symm.trans digit) Bool.false_ne_true
  rw [Markup.isPlain, decide_eq_true (apart rfl), decide_eq_true (apart rfl),
    decide_eq_true (apart rfl), decide_eq_true (apart rfl)]
  rfl

theorem plain_singleText (x : Float32) : Plain (singleText x) := by
  have marks : ∀ c ∈ Binary.textMarks, Markup.isPlain c = true := by
    simp [Binary.textMarks, Markup.isPlain]
  intro c present
  rcases Binary.singleText_chars x c present with digit | mark
  · exact isPlain_of_isDigit digit
  · exact marks c mark

/-- The marks of markup come before the lower case letters. -/
theorem isPlain_hexDigitChar (n : Nat) : Markup.isPlain (Color.hexDigitChar n) = true := by
  unfold Color.hexDigitChar
  split
  · rename_i small
    interval_cases n <;> rfl
  · have late : (Char.ofNat (87 + n)).toNat = 0 ∨ 97 ≤ (Char.ofNat (87 + n)).toNat := by
      rw [Char.toNat_ofNat]
      split <;> omega
    have apart {other : Char} (mark : 0 < other.toNat ∧ other.toNat < 97) :
        Char.ofNat (87 + n) ≠ other := by
      rintro rfl
      omega
    rw [Markup.isPlain, decide_eq_true (apart (by decide)), decide_eq_true (apart (by decide)),
      decide_eq_true (apart (by decide)), decide_eq_true (apart (by decide))]
    rfl

theorem plain_toHex (color : Color) : Plain color.toHex := by
  have bytes (byte : Nat) : ∀ c ∈ Color.byteHex byte, Markup.isPlain c = true := by
    simp [Color.byteHex, isPlain_hexDigitChar]
  intro c present
  rw [Color.toHex, String.toList_ofList] at present
  simp only [List.cons_append, List.mem_cons, List.mem_append] at present
  rcases present with rfl | (red | green) | blue
  · rfl
  · exact bytes _ c red
  · exact bytes _ c green
  · exact bytes _ c blue

theorem plain_pathText (segments : List Svg.Segment) : Plain (Svg.pathText segments) := by
  have blank : Plain " " := by simp [Plain, Markup.isPlain]
  have letters (segment : Svg.Segment) : Plain segment.letter := by
    cases segment <;> simp [Svg.Segment.letter, Plain, Markup.isPlain]
  refine plain_intercalate blank (List.forall_mem_map.mpr fun segment _ => ?_)
  refine plain_intercalate blank (List.forall_mem_cons.mpr ⟨letters segment, ?_⟩)
  intro part listed
  obtain ⟨p, _, number⟩ := List.mem_flatMap.mp listed
  simp only [List.mem_cons, List.not_mem_nil, or_false] at number
  rcases number with rfl | rfl
  · exact plain_singleText p.x
  · exact plain_singleText p.y

theorem dataOf_append (first second : List Element) :
    dataOf (first ++ second) = dataOf first ++ dataOf second := by
  induction first with
  | nil => rfl
  | cons element rest ih => rw [List.cons_append, dataOf, dataOf, ih, List.append_assoc]

mutual

theorem plain_elements (frame : Option Svg.Rect) (figure : Svg.Figure) :
    ∀ data ∈ dataOf (figure.elements frame), Plain data := by
  cases figure with
  | group id transform opacity isFrame box reach children =>
      intro data listed
      simp only [Svg.Figure.elements, dataOf, Element.data, List.append_nil] at listed
      exact plain_elementsOf _ children data listed
  | path id segments isVisible fill stroke box reach =>
      rw [Svg.Figure.elements]
      split
      · exact List.forall_mem_singleton.mpr (plain_pathText segments)
      · exact List.forall_mem_nil _
  | image box reach => exact List.forall_mem_nil _

theorem plain_elementsOf (frame : Option Svg.Rect) (figures : List Svg.Figure) :
    ∀ data ∈ dataOf (Svg.Figure.elementsOf frame figures), Plain data := by
  cases figures with
  | nil => exact List.forall_mem_nil _
  | cons figure rest =>
      rw [Svg.Figure.elementsOf, dataOf_append, List.forall_mem_append]
      exact ⟨plain_elements frame figure, plain_elementsOf frame rest⟩

end

theorem isPlain_of_ofMarkup? {source : String} {size : Size} {vector : Vector}
    (drawn : ofMarkup? source size = some vector) : vector.IsPlain := by
  simp only [ofMarkup?, Svg.vector?, Option.bind_eq_bind, Option.bind_eq_some_iff,
    Option.map_eq_some_iff] at drawn
  obtain ⟨document, _, ⟨viewBox, root⟩, ⟨⟨size, figures⟩, _, shown⟩, same⟩ := drawn
  cases shown
  cases same
  exact plain_elementsOf none figures

def matrixText (m : Matrix) : String :=
  "matrix(" ++ " ".intercalate ([m.a, m.b, m.c, m.d, m.e, m.f].map singleText) ++ ")"

def paintText (paint : Option Paint) : String :=
  match solid? paint with
  | some color => color.toHex
  | none => "none"

def veil? (paint : Option Paint) : Option String :=
  (solid? paint).bind fun color => if color.a < 1 then some (singleText color.a) else none

structure ShowsGroup (transform : Option Matrix) (opacity : Float32) (head : Head) : Prop where
  name : head.name = "g"
  once : head.names.Nodup
  only : ∀ key ∈ head.names, key ∈ ["transform", "opacity"]
  moved : head.attribute? "transform" = transform.map matrixText
  veiled : head.attribute? "opacity" = if opacity < 1 then some (singleText opacity) else none

structure ShowsPath (data : String) (fill : Option Paint) (stroke : Option Stroke)
    (head : Head) : Prop where
  name : head.name = "path"
  once : head.names.Nodup
  only : ∀ key ∈ head.names,
    key ∈ ["d", "fill", "fill-opacity", "stroke", "stroke-opacity", "stroke-width"]
  drawn : head.attribute? "d" = some data
  filled : head.attribute? "fill" = some (paintText fill)
  unfilled : head.attribute? "fill" = some "none" ↔ solid? fill = none
  fillVeil : head.attribute? "fill-opacity" = veil? fill
  stroked : head.attribute? "stroke" = stroke.map fun stroke => paintText stroke.paint
  strokeVeil : head.attribute? "stroke-opacity" = stroke.bind fun stroke => veil? stroke.paint
  strokeWidth : head.attribute? "stroke-width" = stroke.map fun stroke => singleText stroke.width

mutual

/-- Markup that shows an element: tags around others for a group and one tag for a path. -/
inductive Element.Shown : Element → Markup.Element → Prop
  | group {id : String} {transform : Option Matrix} {opacity : Float32} {children : List Element}
      {head : Head} {inside : List Markup.Element} (tag : ShowsGroup transform opacity head)
      (content : ShownAll children inside) :
      Element.Shown (.group id transform opacity children) (.around head inside)
  | path {id data : String} {fill : Option Paint} {stroke : Option Stroke} {head : Head}
      (tag : ShowsPath data fill stroke head) :
      Element.Shown (.path id data fill stroke) (.alone head)

inductive ShownAll : List Element → List Markup.Element → Prop
  | nil : ShownAll [] []
  | cons {element : Element} {rest : List Element} {shown : Markup.Element}
      {others : List Markup.Element} (first : element.Shown shown) (later : ShownAll rest others) :
      ShownAll (element :: rest) (shown :: others)

end

def transformAttributes : Option Matrix → List (String × String)
  | some m => [("transform", matrixText m)]
  | none => []

def opacityAttributes (opacity : Float32) : List (String × String) :=
  if opacity < 1 then [("opacity", singleText opacity)] else []

def groupHead (transform : Option Matrix) (opacity : Float32) : Head :=
  ⟨"g", transformAttributes transform ++ opacityAttributes opacity⟩

def paintAttributes (name veil : String) (paint : Option Paint) : List (String × String) :=
  (name, paintText paint) :: (veil? paint).toList.map fun text => (veil, text)

def strokeAttributes : Option Stroke → List (String × String)
  | some stroke =>
      paintAttributes "stroke" "stroke-opacity" stroke.paint ++
        [("stroke-width", singleText stroke.width)]
  | none => []

def pathHead (data : String) (fill : Option Paint) (stroke : Option Stroke) : Head :=
  ⟨"path", ("d", data) :: (paintAttributes "fill" "fill-opacity" fill ++ strokeAttributes stroke)⟩

mutual

def Element.drawing : Element → Markup.Element
  | .group _ transform opacity children => .around (groupHead transform opacity) (drawings children)
  | .path _ data fill stroke => .alone (pathHead data fill stroke)

def drawings : List Element → List Markup.Element
  | [] => []
  | element :: rest => element.drawing :: drawings rest

end

def frameHead (vector : Vector) : Head :=
  ⟨"svg", [("xmlns", svgNamespace), ("width", singleText vector.size.width),
    ("height", singleText vector.size.height),
    ("viewBox", "0 0 " ++ singleText vector.viewBox.width ++ " " ++
      singleText vector.viewBox.height)]⟩

theorem toList_attr (name value : String) :
    (attr name value).toList = attributeChars (name, value) := by
  simp [attr, attributeChars]

theorem toList_paintMarkup (name veil : String) (named : name ++ "-opacity" = veil)
    (paint : Option Paint) :
    (paintMarkup name paint).toList = (paintAttributes name veil paint).flatMap attributeChars := by
  cases paint with
  | none => simp [paintMarkup, paintAttributes, paintText, veil?, solid?, toList_attr]
  | some paint =>
      cases paint with
      | solid color =>
          by_cases veiled : color.a < 1 <;>
            simp [paintMarkup, paintAttributes, paintText, veil?, solid?, toList_attr, veiled, named]
      | other => simp [paintMarkup, paintAttributes, paintText, veil?, solid?, toList_attr]

theorem toList_strokeMarkup (stroke : Option Stroke) :
    (strokeMarkup stroke).toList = (strokeAttributes stroke).flatMap attributeChars := by
  cases stroke with
  | none => rfl
  | some stroke =>
      simp [strokeMarkup, strokeAttributes, toList_attr,
        toList_paintMarkup "stroke" "stroke-opacity" rfl]

theorem toList_transformMarkup (transform : Option Matrix) :
    (transformMarkup transform).toList =
      (transformAttributes transform).flatMap attributeChars := by
  cases transform with
  | none => rfl
  | some m => simp [transformMarkup, transformAttributes, matrixText, toList_attr]

theorem toList_opacityMarkup (opacity : Float32) :
    (opacityMarkup opacity).toList = (opacityAttributes opacity).flatMap attributeChars := by
  unfold opacityMarkup opacityAttributes
  split
  · simp [toList_attr]
  · rfl

mutual

theorem Element.toList_markup (element : Element) :
    element.markup.toList = element.drawing.chars := by
  cases element with
  | group id transform opacity children =>
      simp [Element.markup, Element.drawing, Markup.Element.chars, Markup.Element.tags,
        Markup.Tag.chars, Head.chars, groupHead, toList_transformMarkup, toList_opacityMarkup,
        toList_markupAll children]
  | path id data fill stroke =>
      simp [Element.markup, Element.drawing, Markup.Element.chars, Markup.Element.tags,
        Markup.Tag.chars, Head.chars, pathHead, toList_attr, toList_strokeMarkup,
        toList_paintMarkup "fill" "fill-opacity" rfl]

theorem toList_markupAll (elements : List Element) :
    (markupAll elements).toList =
      (Markup.Element.tagsOf (drawings elements)).flatMap Markup.Tag.chars := by
  cases elements with
  | nil => rfl
  | cons element rest =>
      rw [markupAll, String.toList_append, Element.toList_markup element, toList_markupAll rest,
        drawings, Markup.Element.tagsOf, List.flatMap_append]
      rfl

end

theorem toList_markup (vector : Vector) :
    vector.markup.toList = (Markup.Element.around vector.frameHead [vector.root.drawing]).chars := by
  simp [markup, Markup.Element.chars, Markup.Element.tags, Markup.Element.tagsOf,
    Markup.Tag.chars, Head.chars, frameHead, toList_attr, Element.toList_markup]

theorem toHex_ne_none (color : Color) : color.toHex ≠ "none" := by
  intro same
  have chars := congrArg String.toList same
  rw [Color.toHex, String.toList_ofList] at chars
  exact absurd (List.cons.inj chars).1 (by decide)

theorem paintText_eq_none (paint : Option Paint) : paintText paint = "none" ↔ solid? paint = none := by
  unfold paintText
  cases solid? paint with
  | none => simp
  | some color => simp [toHex_ne_none]

theorem groupHead_shows (transform : Option Matrix) (opacity : Float32) :
    ShowsGroup transform opacity (groupHead transform opacity) := by
  unfold groupHead opacityAttributes
  cases transform <;> by_cases veiled : opacity < 1 <;> constructor <;>
    simp [transformAttributes, Head.names, Head.attribute?, List.lookup_cons, veiled]

theorem pathHead_shows (data : String) (fill : Option Paint) (stroke : Option Stroke) :
    ShowsPath data fill stroke (pathHead data fill stroke) := by
  cases stroke with
  | none =>
      cases veil : veil? fill <;> constructor <;>
        simp [pathHead, paintAttributes, strokeAttributes, Head.names, Head.attribute?,
          List.lookup_cons, paintText_eq_none, veil]
  | some stroke =>
      cases veil : veil? fill <;> cases strokeVeil : veil? (some stroke.paint) <;> constructor <;>
        simp [pathHead, paintAttributes, strokeAttributes, Head.names, Head.attribute?,
          List.lookup_cons, paintText_eq_none, veil, strokeVeil]

mutual

theorem Element.drawing_shown (element : Element) : element.Shown element.drawing := by
  cases element with
  | group id transform opacity children =>
      exact .group (groupHead_shows transform opacity) (drawings_shown children)
  | path id data fill stroke => exact .path (pathHead_shows data fill stroke)

theorem drawings_shown (elements : List Element) : ShownAll elements (drawings elements) := by
  cases elements with
  | nil => exact .nil
  | cons element rest => exact .cons (Element.drawing_shown element) (drawings_shown rest)

end

mutual

theorem Element.Shown.paths {element : Element} {shown : Markup.Element}
    (shows : element.Shown shown) :
    (shown.all.countP fun inner => inner.head.name = "path") = element.fills.length := by
  cases shows with
  | group tag content =>
      have other : ¬ "g" = "path" := by decide
      rw [Markup.Element.all, List.countP_cons, content.paths, Element.fills]
      simp [Markup.Element.head, tag.name, other]
  | path tag => simp [Markup.Element.all, Markup.Element.head, Element.fills, tag.name]

theorem ShownAll.paths {elements : List Element} {shown : List Markup.Element}
    (shows : ShownAll elements shown) :
    ((Markup.Element.allOf shown).countP fun inner => inner.head.name = "path") =
      (fillsOf elements).length := by
  cases shows with
  | nil => rfl
  | cons first later =>
      rw [Markup.Element.allOf, List.countP_append, first.paths, later.paths, fillsOf,
        List.length_append]

end

theorem plain_matrixText (m : Matrix) : Plain (matrixText m) := by
  have texts : Plain "matrix(" ∧ Plain ")" ∧ Plain " " := by simp [Plain, Markup.isPlain]
  refine plain_append (plain_append texts.1 (plain_intercalate texts.2.2 ?_)) texts.2.1
  exact List.forall_mem_map.mpr fun entry _ => plain_singleText entry

theorem plain_paintText (paint : Option Paint) : Plain (paintText paint) := by
  unfold paintText
  split
  · exact plain_toHex _
  · simp [Plain, Markup.isPlain]

theorem plain_paintAttributes (name veil : String) (paint : Option Paint) :
    ∀ entry ∈ paintAttributes name veil paint, Plain entry.2 := by
  have veils : ∀ text ∈ veil? paint, Plain text := by
    intro text veiled
    obtain ⟨color, _, below⟩ := Option.bind_eq_some_iff.mp veiled
    obtain ⟨_, same⟩ := Option.ite_none_right_eq_some.mp below
    cases same
    exact plain_singleText color.a
  refine List.forall_mem_cons.mpr ⟨plain_paintText paint, List.forall_mem_map.mpr ?_⟩
  exact fun text listed => veils text (Option.mem_toList.mp listed)

theorem groupHead_proper (transform : Option Matrix) (opacity : Float32) :
    (groupHead transform opacity).Proper where
  name := by simp [groupHead, IsName, Markup.isWord]
  keys := by
    have named : ∀ key ∈ ["transform", "opacity"], IsName key := by
      simp [IsName, Markup.isWord]
    exact fun entry listed =>
      named _ ((groupHead_shows transform opacity).only _ (List.mem_map_of_mem listed))
  values := by
    refine List.forall_mem_append.mpr ⟨?_, ?_⟩
    · cases transform with
      | none => exact List.forall_mem_nil _
      | some m => exact List.forall_mem_singleton.mpr (plain_matrixText m)
    · unfold opacityAttributes
      split
      · exact List.forall_mem_singleton.mpr (plain_singleText opacity)
      · exact List.forall_mem_nil _

theorem pathHead_proper {data : String} (plain : Plain data) (fill : Option Paint)
    (stroke : Option Stroke) : (pathHead data fill stroke).Proper where
  name := by simp [pathHead, IsName, Markup.isWord]
  keys := by
    have named : ∀ key ∈ ["d", "fill", "fill-opacity", "stroke", "stroke-opacity",
        "stroke-width"], IsName key := by
      simp [IsName, Markup.isWord]
    exact fun entry listed =>
      named _ ((pathHead_shows data fill stroke).only _ (List.mem_map_of_mem listed))
  values := by
    refine List.forall_mem_cons.mpr ⟨plain, List.forall_mem_append.mpr ⟨?_, ?_⟩⟩
    · exact plain_paintAttributes _ _ fill
    · cases stroke with
      | none => exact List.forall_mem_nil _
      | some stroke =>
          refine List.forall_mem_append.mpr ⟨plain_paintAttributes _ _ _, ?_⟩
          exact List.forall_mem_singleton.mpr (plain_singleText stroke.width)

theorem frameHead_proper (vector : Vector) : vector.frameHead.Proper where
  name := by simp [frameHead, IsName, Markup.isWord]
  keys := by simp [frameHead, IsName, Markup.isWord]
  values := by
    have space : Plain svgNamespace := by simp [svgNamespace, Plain, Markup.isPlain]
    have marks : Plain "0 0 " ∧ Plain " " := by simp [Plain, Markup.isPlain]
    have box := plain_append (plain_append (plain_append marks.1
      (plain_singleText vector.viewBox.width)) marks.2) (plain_singleText vector.viewBox.height)
    simp [frameHead, space, box, plain_singleText]

mutual

theorem Element.drawing_proper {element : Element} (plain : ∀ data ∈ element.data, Plain data) :
    ∀ inner ∈ element.drawing.all, inner.head.Proper := by
  cases element with
  | group id transform opacity children =>
      exact List.forall_mem_cons.mpr ⟨groupHead_proper transform opacity, drawings_proper plain⟩
  | path id data fill stroke =>
      have drawn : Plain data := plain data (List.mem_singleton.mpr rfl)
      exact List.forall_mem_singleton.mpr (pathHead_proper drawn fill stroke)

theorem drawings_proper {elements : List Element} (plain : ∀ data ∈ dataOf elements, Plain data) :
    ∀ inner ∈ Markup.Element.allOf (drawings elements), inner.head.Proper := by
  cases elements with
  | nil => exact List.forall_mem_nil _
  | cons element rest =>
      obtain ⟨first, later⟩ := List.forall_mem_append.mp plain
      exact List.forall_mem_append.mpr
        ⟨Element.drawing_proper first, drawings_proper later⟩

end

/-- Artwork that was read from markup can be written; and artwork that can be written, in whatever
colours it has been painted, is written as one `svg` element around the tree of it and nothing else,
with one `path` element for each path and no mark of markup in a value. -/
theorem markup_reads :
    (∀ (source : String) (size : Size) (vector : Vector),
      ofMarkup? source size = some vector → vector.IsPlain) ∧
    ∀ vector : Vector, vector.IsPlain → ∀ colors : List Color,
      let painted := vector.painted colors
      ∃ shown : Markup.Element,
        let document := Markup.Element.around painted.frameHead [shown]
        Markup.read? painted.markup = some document ∧
        painted.markup.toList = document.chars ∧
        painted.root.Shown shown ∧
        (shown.all.countP fun inner => inner.head.name = "path") = painted.pathCount ∧
        painted.pathCount = vector.pathCount ∧
        ∀ inner ∈ document.all, ∀ entry ∈ inner.head.attributes, Plain entry.2 := by
  refine ⟨fun source size vector => isPlain_of_ofMarkup?, ?_⟩
  intro vector plain colors painted
  have shows : painted.root.Shown painted.root.drawing := painted.root.drawing_shown
  have inside := Element.drawing_proper (plain.painted colors)
  let document := Markup.Element.around painted.frameHead [painted.root.drawing]
  have proper : ∀ inner ∈ document.all, inner.head.Proper := by
    refine List.forall_mem_cons.mpr ⟨painted.frameHead_proper, ?_⟩
    exact List.forall_mem_append.mpr ⟨inside, List.forall_mem_nil _⟩
  have reads : Markup.read? painted.markup = some document :=
    Markup.read?_of_chars proper painted.toList_markup
  exact ⟨painted.root.drawing, reads, Markup.chars_of_read? reads, shows, shows.paths,
    vector.pathCount_painted colors, fun inner within => (proper inner within).values⟩

/-- A group that is moved, with a path in it that is half transparent and has a stroke. -/
theorem markup_reads_moved :
    let artwork : Vector := ⟨.square 24, .square 24, .group "" (some ⟨1, 0, 0, 1, 2, 3⟩) 0.5
      [.group "" none 1 [], .path "" "M 0 0 L 1 1" (some (.solid ⟨1, 0, 0, 0.5⟩))
        (some ⟨.other, 2⟩)], false⟩
    artwork.IsPlain ∧ ∃ shown : Markup.Element,
      Markup.read? (artwork.painted [.black, .white]).markup =
        some (.around (artwork.painted [.black, .white]).frameHead [shown]) ∧
      (artwork.painted [.black, .white]).root.Shown shown := by
  intro artwork
  have plain : artwork.IsPlain := by
    simp [artwork, IsPlain, Element.data, dataOf, Plain, Markup.isPlain]
  obtain ⟨shown, reads, _, shows, _⟩ := markup_reads.2 artwork plain [.black, .white]
  exact ⟨plain, shown, reads, shows⟩

end Wireframe.Vector
