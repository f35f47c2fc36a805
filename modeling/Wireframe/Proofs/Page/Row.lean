import Mathlib.Algebra.Order.Ring.Unbundled.Rat
import Wireframe.Proofs.Binary.Exact
import Wireframe.Proofs.Page.Frames
/-!
Rows of frames in exact numbers. The page is followed step by step with numbers of any kind: with
those of the page it is the page, and with rational numbers it shows where frames would lie if no
sum were rounded. There a new frame lies beside all others, and a row to which frames are only added
and from which they are only removed has a gap between any two of its frames.
-/

namespace Wireframe

open Binary (exact)

instance : Coordinate ℚ where
  half x := x / 2
  least := min
  greatest := max
  isNumber _ := true
  lowest := 0
  highest := 0

namespace Box

/-- A box lies right of all others with a gap between it and the nearest, level with the highest. -/
structure Beside (gap : ℚ) (others : List (Box ℚ)) (box : Box ℚ) : Prop where
  apart : ∀ other ∈ others, other.right + gap ≤ box.left
  nearest : ∃ other ∈ others, other.right + gap = box.left
  below : ∀ other ∈ others, box.top ≤ other.top
  level : ∃ other ∈ others, box.top = other.top

variable {others : List (Box ℚ)}

theorem rightmost_spec (some : others ≠ []) :
    (∃ other ∈ others, other.right = rightmost others) ∧
      ∀ other ∈ others, other.right ≤ rightmost others := by
  have pick : (others.map right).max? = Option.some (rightmost others) := by
    cases others with
    | nil => exact absurd rfl some
    | cons first rest => rfl
  have ⟨member, greatest⟩ := List.max?_eq_some_iff.mp pick
  exact ⟨List.mem_map.mp member, fun other listed => greatest _ (List.mem_map_of_mem listed)⟩

theorem topmost_spec (some : others ≠ []) :
    (∃ other ∈ others, other.top = topmost others) ∧
      ∀ other ∈ others, topmost others ≤ other.top := by
  have pick : (others.map top).min? = Option.some (topmost others) := by
    cases others with
    | nil => exact absurd rfl some
    | cons first rest => rfl
  have ⟨member, least⟩ := List.min?_eq_some_iff.mp pick
  exact ⟨List.mem_map.mp member, fun other listed => least _ (List.mem_map_of_mem listed)⟩

theorem next_beside (some : others ≠ []) (gap center firstTop width : ℚ) :
    let place := next gap center firstTop width others
    Beside gap others ⟨place.1, place.2, width⟩ := by
  have placed : next gap center firstTop width others =
      (rightmost others + gap, topmost others) := by
    simp [next, some]
  have ⟨⟨last, lastListed, isLast⟩, within⟩ := rightmost_spec some
  have ⟨⟨first, firstListed, isFirst⟩, under⟩ := topmost_spec some
  simp only [placed]
  constructor
  · intro other listed
    have := within other listed
    simpa using this
  · exact ⟨last, lastListed, by simp [isLast]⟩
  · exact under
  · exact ⟨first, firstListed, isFirst.symm⟩

end Box

/-- What placement knows of a frame: its number, whether it can be resized and where it lies. -/
structure Plot (α : Type) where
  id : Nat
  isContainer : Bool
  box : Box α

def Node.plot (node : Node) : Plot Float32 := ⟨node.id, node.frame?.isSome, node.box⟩

namespace Row

variable {α : Type} [Coordinate α] (read : Float32 → α)

def place (page : Page) (node : Node) (row : List (Plot α)) : List (Plot α) :=
  let width := read node.box.width
  let position := Box.next (read page.gap) (read page.viewport.center.x)
    (read page.viewport.top + read Page.firstFrameOffset) width (row.map Plot.box)
  row ++ [⟨node.id, node.frame?.isSome, ⟨position.1, position.2, width⟩⟩]

def modify (id : Nat) (change : Plot α → Plot α) : List (Plot α) → List (Plot α)
  | [] => []
  | plot :: rest => if plot.id = id then change plot :: rest else plot :: modify id change rest

def moved (position : Point) (plot : Plot α) : Plot α :=
  { plot with box := { plot.box with left := read position.x, top := read position.y } }

def resized (width : Float32) (plot : Plot α) : Plot α :=
  if plot.isContainer then { plot with box := { plot.box with width := read width } } else plot

def edit (page : Page) (row : List (Plot α)) : Page.Edit → List (Plot α)
  | .add draft => place read page (draft.node (page.lastId + 1)) row
  | .remove id => row.eraseP fun plot => plot.id = id
  | .move id position => modify id (moved read (position.getD .origin)) row
  | .resize id size => modify id (resized read size.width) row
  | .takeId | .appendChild .. | .removeChild .. => row

def still (frames : List Node) (row : List (Plot α)) : List (Plot α) :=
  row.filter fun plot => plot.id ∈ frames.map Node.id

/-- A row once its page has become `page` without moves: what is still there stays where it is, and
what is new is placed behind it. -/
def follow (page : Page) (row : List (Plot α)) : List (Plot α) :=
  let new := page.frames.filter fun frame => frame.id ∉ row.map Plot.id
  new.foldl (fun row frame => place read page frame row) (still page.frames row)

theorem place_plots (page : Page) (draft : Draft) :
    place id page (draft.node (page.lastId + 1)) (page.frames.map Node.plot) =
      (page.add draft).2.frames.map Node.plot := by
  have boxes : (page.frames.map Node.plot).map Plot.box = page.frames.map Node.box := by
    rw [List.map_map]
    rfl
  rw [Page.frames_add, List.map_append, place, boxes]
  cases draft <;> rfl

theorem plots_modify (number : Nat) {change : Node → Node} {after : Plot Float32 → Plot Float32}
    (same : ∀ node, (change node).plot = after node.plot) (page : Page) :
    (page.modify number change).frames.map Node.plot =
      modify number after (page.frames.map Node.plot) := by
  change (Page.modifyFirst _ change page.frames).map Node.plot = _
  induction page.frames with
  | nil => rfl
  | cons node rest ih =>
      rw [Page.modifyFirst, List.map_cons, modify]
      by_cases found : node.id = number
      · have isPlot : node.plot.id = number := found
        rw [if_pos (decide_eq_true found), if_pos isPlot, List.map_cons, same]
      · have notPlot : ¬ node.plot.id = number := found
        rw [if_neg (by simpa using found), if_neg notPlot, List.map_cons, ih]

theorem plots_kept (number : Nat) {change : Node → Node}
    (same : ∀ node, (change node).plot = node.plot) (page : Page) :
    (page.modify number change).frames.map Node.plot = page.frames.map Node.plot := by
  have nothing (row : List (Plot Float32)) : modify number (fun plot => plot) row = row := by
    induction row with
    | nil => rfl
    | cons plot rest ih => simp [modify, ih]
  have kept : (page.modify number change).frames.map Node.plot =
      modify number (fun plot => plot) (page.frames.map Node.plot) := plots_modify number same page
  rw [kept, nothing]

/-- With the numbers of the page a row is the page. -/
theorem edit_plots (page : Page) (made : Page.Edit) :
    edit id page (page.frames.map Node.plot) made = (page.edit made).frames.map Node.plot := by
  cases made with
  | takeId => rfl
  | add draft => exact place_plots page draft
  | appendChild number draft =>
      have same (node : Node) : (node.append [draft.node (page.lastId + 1)]).plot = node.plot := by
        cases node <;> rfl
      exact (plots_kept number same page.freshId.2).symm
  | removeChild number child =>
      have same (node : Node) : (node.removeChild child).plot = node.plot := by
        cases node <;> rfl
      exact (plots_kept number same page).symm
  | remove number => exact List.eraseP_map
  | move number position =>
      have same (node : Node) :
          (node.withPosition position).plot = moved id (position.getD .origin) node.plot := by
        cases node <;> rfl
      exact (plots_modify number same page).symm
  | resize number size =>
      have same (node : Node) : (node.resize size).plot = resized id size.width node.plot := by
        cases node <;> rfl
      exact (plots_modify number same page).symm

/-- What is left of a list is found in it by numbers that are there once. -/
theorem filter_of_sublist {β : Type} {number : β → Nat} {kept all : List β}
    (sub : kept.Sublist all) (distinct : (all.map number).Nodup) :
    (all.filter fun item => number item ∈ kept.map number) = kept := by
  induction sub with
  | slnil => rfl
  | @cons kept all item sub ih =>
      rw [List.map_cons, List.nodup_cons] at distinct
      have gone : number item ∉ kept.map number := fun here =>
        distinct.1 ((sub.map number).subset here)
      rw [List.filter_cons_of_neg (by simpa using gone), ih distinct.2]
  | @cons_cons kept all item sub ih =>
      rw [List.map_cons, List.nodup_cons] at distinct
      rw [List.filter_cons_of_pos (by simp)]
      congr 1
      refine (List.filter_congr ?_).trans (ih distinct.2)
      intro other later
      have apart : number other ≠ number item := by
        intro same
        apply distinct.1
        rw [← same]
        exact List.mem_map_of_mem later
      simp [apart]

section

variable {page after : Page} {kept : List Node} {row : List (Plot α)}

omit [Coordinate α] in
theorem still_ids (same : row.map Plot.id = page.frames.map Node.id)
    (sub : kept.Sublist page.frames) (distinct : (page.frames.map Node.id).Nodup) :
    (still kept row).map Plot.id = kept.map Node.id := by
  have filtered : (still kept row).map Plot.id =
      (row.map Plot.id).filter fun number => number ∈ kept.map Node.id := by
    rw [List.filter_map]
    rfl
  rw [filtered, same, List.filter_map]
  exact congrArg (List.map Node.id) (filter_of_sublist sub distinct)

theorem still_plots (sub : kept.Sublist page.frames) (distinct : (page.frames.map Node.id).Nodup) :
    still kept (page.frames.map Node.plot) = kept.map Node.plot := by
  rw [still, List.filter_map]
  exact congrArg (List.map Node.plot) (filter_of_sublist sub distinct)

theorem follow_kept (same : row.map Plot.id = page.frames.map Node.id)
    (sub : kept.Sublist page.frames) (ids : after.frames.map Node.id = kept.map Node.id) :
    follow read after row = still kept row := by
  have old : (after.frames.filter fun frame => frame.id ∉ row.map Plot.id) = [] := by
    rw [List.filter_eq_nil_iff]
    intro frame present
    have listed : frame.id ∈ kept.map Node.id := ids ▸ List.mem_map_of_mem present
    have before := (sub.map Node.id).subset listed
    rw [same]
    simpa using before
  rw [follow, old, List.foldl_nil, still, still, ids]

theorem follow_added {new : Node} (same : row.map Plot.id = page.frames.map Node.id)
    (sub : kept.Sublist page.frames) (apart : new.id ∉ page.frames.map Node.id)
    (frames : after.frames = kept ++ [new]) :
    follow read after row = place read after new (still kept row) := by
  have others : (kept.filter fun frame => frame.id ∉ row.map Plot.id) = [] := by
    rw [List.filter_eq_nil_iff]
    intro frame present
    have before := (sub.map Node.id).subset (List.mem_map_of_mem present)
    rw [same]
    simpa using before
  have added : (after.frames.filter fun frame => frame.id ∉ row.map Plot.id) = [new] := by
    rw [frames, List.filter_append, others, same]
    simpa using apart
  have stays : still after.frames row = still kept row := by
    unfold still
    apply List.filter_congr
    intro plot present
    have given : plot.id ∈ page.frames.map Node.id := same ▸ List.mem_map_of_mem present
    have differs : plot.id ≠ new.id := fun equal => apart (equal ▸ given)
    simp [frames, differs]
  rw [follow, added, stays, List.foldl_cons, List.foldl_nil]

end

/-- A row with at least a gap between any two frames, in which all are level. -/
structure Lined (gap top : ℚ) (row : List (Plot ℚ)) : Prop where
  apart : row.Pairwise fun left right => left.box.right + gap ≤ right.box.left
  level : ∀ plot ∈ row, plot.box.top = top
  wide : ∀ plot ∈ row, 0 ≤ plot.box.width

theorem exact_firstFrameOffset : exact Page.firstFrameOffset = 100 := by
  have decoded : Binary.decodeSingle Page.firstFrameOffset = .finite false 13107200 (-17) := by
    decide +kernel
  rw [exact, decoded]
  norm_num [Binary.Datum.value]

theorem place_spec (page : Page) (node : Node) (row : List (Plot ℚ)) :
    ∃ plot, place exact page node row = row ++ [plot] ∧ plot.id = node.id ∧
      plot.box.width = exact node.box.width ∧
      (row = [] → plot.box.top = exact page.viewport.top + 100) ∧
      (row ≠ [] → Box.Beside (exact page.gap) (row.map Plot.box) plot.box) := by
  refine ⟨_, rfl, rfl, rfl, ?_, ?_⟩
  · rintro rfl
    rw [← exact_firstFrameOffset]
    rfl
  · intro some
    have boxes : row.map Plot.box ≠ [] := by simpa using some
    exact Box.next_beside boxes _ _ _ _

namespace Lined

variable {gap top : ℚ} {row : List (Plot ℚ)}

theorem nil : Lined gap top [] := ⟨.nil, nofun, nofun⟩

theorem still (lined : Lined gap top row) (frames : List Node) :
    Lined gap top (still frames row) := by
  have sub : (Row.still frames row).Sublist row := List.filter_sublist
  constructor
  · exact lined.apart.sublist sub
  · exact fun plot present => lined.level plot (sub.subset present)
  · exact fun plot present => lined.wide plot (sub.subset present)

theorem place {page : Page} {node : Node}
    (lined : Lined (exact page.gap) (exact page.viewport.top + 100) row)
    (wide : 0 ≤ exact node.box.width) :
    Lined (exact page.gap) (exact page.viewport.top + 100) (place exact page node row) := by
  obtain ⟨plot, placed, _, width, first, later⟩ := place_spec page node row
  rw [placed]
  constructor
  · rw [List.pairwise_append]
    refine ⟨lined.apart, List.pairwise_singleton _ plot, ?_⟩
    intro other present new isNew
    rw [List.mem_singleton.mp isNew]
    have some : row ≠ [] := List.ne_nil_of_mem present
    exact (later some).apart other.box (List.mem_map_of_mem present)
  · intro other present
    rcases List.mem_append.mp present with old | new
    · exact lined.level other old
    · rw [List.mem_singleton.mp new]
      by_cases none : row = []
      · exact first none
      · obtain ⟨box, listed, same⟩ := (later none).level
        obtain ⟨highest, old, rfl⟩ := List.mem_map.mp listed
        rw [same, lined.level highest old]
  · intro other present
    rcases List.mem_append.mp present with old | new
    · exact lined.wide other old
    · rw [List.mem_singleton.mp new, width]
      exact wide

/-- The order of a row is that from left to right. -/
theorem ordered (lined : Lined gap top row) (apart : 0 ≤ gap) :
    row.Pairwise fun left right => left.box.left ≤ right.box.left := by
  apply lined.apart.imp_of_mem
  intro left right present _ between
  have wide := lined.wide left present
  have edge : left.box.right = left.box.left + left.box.width := rfl
  linarith

end Lined

end Row

end Wireframe
