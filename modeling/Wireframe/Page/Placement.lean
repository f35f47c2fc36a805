import Wireframe.Binary.Format
/-!
Where a new frame goes in a row of frames: to the right of all of them and level with the highest,
or in the middle of the view when there is none. The rule is stated for any numbers with these
operations, so it can be read with exact numbers as well as with those of the page.
-/

namespace Wireframe

/-- What placement asks of numbers. Some values may be no numbers; they count as no edge. -/
class Coordinate (α : Type) extends Add α, Sub α where
  half : α → α
  least : α → α → α
  greatest : α → α → α
  isNumber : α → Bool
  lowest : α
  highest : α

instance : Coordinate Float32 where
  half x := x / 2
  least := Binary.least
  greatest := Binary.greatest
  isNumber x := !x.isNaN
  lowest := -1 / 0
  highest := 1 / 0

structure Box (α : Type) where
  left : α
  top : α
  width : α

namespace Box

variable {α : Type} [Coordinate α]

def right (box : Box α) : α := box.left + box.width

def pick (choose : α → α → α) : List α → Option α
  | [] => none
  | value :: rest =>
      if Coordinate.isNumber value then some (rest.foldl choose value) else pick choose rest

def rightmost (boxes : List (Box α)) : α :=
  (pick Coordinate.greatest (boxes.map right)).getD Coordinate.lowest

def topmost (boxes : List (Box α)) : α :=
  (pick Coordinate.least (boxes.map top)).getD Coordinate.highest

/-- The left and top of a new box of a width beside others. The first box is centred on `center`, at
`firstTop`. -/
def next (gap center firstTop width : α) (boxes : List (Box α)) : α × α :=
  if boxes.isEmpty then (center - Coordinate.half width, firstTop)
  else (rightmost boxes + gap, topmost boxes)

end Box

end Wireframe
