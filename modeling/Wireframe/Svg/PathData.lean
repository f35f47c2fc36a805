import Wireframe.Svg.Arc
import Wireframe.Svg.Path

namespace Wireframe.Svg

inductive Command where
  | move
  | line
  | horizontal
  | vertical
  | cubic
  | smoothCubic
  | quad
  | smoothQuad
  | arc
  | close
  deriving DecidableEq, Repr

def Command.ofLetter? (c : Char) : Option (Command × Bool) :=
  let command : Option Command := match c.toLower with
    | 'm' => some .move
    | 'l' => some .line
    | 'h' => some .horizontal
    | 'v' => some .vertical
    | 'c' => some .cubic
    | 's' => some .smoothCubic
    | 'q' => some .quad
    | 't' => some .smoothQuad
    | 'a' => some .arc
    | 'z' => some .close
    | _ => none
  command.map (·, c.isUpper)

inductive Drawing where
  | move (p : WidePoint)
  | line (p : WidePoint)
  | horizontal (x : Float)
  | vertical (y : Float)
  | cubic (c d p : WidePoint)
  | smoothCubic (d p : WidePoint)
  | quad (c p : WidePoint)
  | smoothQuad (p : WidePoint)
  | arc (rx ry rotation : Float) (large sweep : Bool) (p : WidePoint)
  | close

def flag? (cs : List Char) : Option (Bool × List Char) :=
  match skip cs with
  | '0' :: rest => some (false, skip (skipComma rest))
  | '1' :: rest => some (true, skip (skipComma rest))
  | _ => none

def listPoint? (cs : List Char) : Option (WidePoint × List Char) := do
  let (x, cs) ← listNumber? cs
  let (y, cs) ← listNumber? cs
  pure (⟨x, y⟩, cs)

def Command.read? (command : Command) (cs : List Char) : Option (Drawing × List Char) :=
  match command with
  | .move => (listPoint? cs).map fun (p, cs) => (.move p, cs)
  | .line => (listPoint? cs).map fun (p, cs) => (.line p, cs)
  | .horizontal => (listNumber? cs).map fun (x, cs) => (.horizontal x, cs)
  | .vertical => (listNumber? cs).map fun (y, cs) => (.vertical y, cs)
  | .cubic => do
      let (c, cs) ← listPoint? cs
      let (d, cs) ← listPoint? cs
      let (p, cs) ← listPoint? cs
      pure (.cubic c d p, cs)
  | .smoothCubic => do
      let (d, cs) ← listPoint? cs
      let (p, cs) ← listPoint? cs
      pure (.smoothCubic d p, cs)
  | .quad => do
      let (c, cs) ← listPoint? cs
      let (p, cs) ← listPoint? cs
      pure (.quad c p, cs)
  | .smoothQuad => (listPoint? cs).map fun (p, cs) => (.smoothQuad p, cs)
  | .arc => do
      let (rx, cs) ← listNumber? cs
      let (ry, cs) ← listNumber? cs
      let (rotation, cs) ← listNumber? cs
      let (large, cs) ← flag? cs
      let (sweep, cs) ← flag? cs
      let (p, cs) ← listPoint? cs
      pure (.arc rx ry rotation large sweep p, cs)
  | .close => some (.close, cs)

/-- Where the subpath started, where the pen is, and the control points that a smooth curve after
the last command reflects. -/
structure Position where
  start : WidePoint
  pen : WidePoint
  cubicControl : Option WidePoint
  quadControl : Option WidePoint

namespace Position

def origin : Position := ⟨⟨0, 0⟩, ⟨0, 0⟩, none, none⟩

def moveTo (p : WidePoint) (position : Position) : Position :=
  ⟨position.start, p, none, none⟩

def reflect (position : Position) : Option WidePoint → WidePoint
  | some c => ⟨position.pen.x * 2 - c.x, position.pen.y * 2 - c.y⟩
  | none => position.pen

def locate (position : Position) (absolute : Bool) (p : WidePoint) : WidePoint :=
  if absolute then p else p.plus position.pen

end Position

def Drawing.run (absolute : Bool) (position : Position) :
    Drawing → List Segment × Position
  | .move p =>
      let p := position.locate absolute p
      ([.move p.narrow], ⟨p, p, none, none⟩)
  | .line p =>
      let p := position.locate absolute p
      ([.line p.narrow], position.moveTo p)
  | .horizontal x =>
      let p : WidePoint := ⟨if absolute then x else x + position.pen.x, position.pen.y⟩
      ([.line p.narrow], position.moveTo p)
  | .vertical y =>
      let p : WidePoint := ⟨position.pen.x, if absolute then y else y + position.pen.y⟩
      ([.line p.narrow], position.moveTo p)
  | .cubic c d p =>
      let c := position.locate absolute c
      let d := position.locate absolute d
      let p := position.locate absolute p
      ([.cubic c.narrow d.narrow p.narrow], { position.moveTo p with cubicControl := some d })
  | .smoothCubic d p =>
      let c := position.reflect position.cubicControl
      let d := position.locate absolute d
      let p := position.locate absolute p
      ([.cubic c.narrow d.narrow p.narrow], { position.moveTo p with cubicControl := some d })
  | .quad c p =>
      let c := position.locate absolute c
      let p := position.locate absolute p
      ([.quad c.narrow p.narrow], { position.moveTo p with quadControl := some c })
  | .smoothQuad p =>
      let c := position.reflect position.quadControl
      let p := position.locate absolute p
      ([.quad c.narrow p.narrow], { position.moveTo p with quadControl := some c })
  | .arc rx ry rotation large sweep p =>
      let p := position.locate absolute p
      let arc : EndArc := ⟨position.pen, p, rx, ry, radians rotation, large, sweep⟩
      match arc.toCurves with
      | none => ([.line p.narrow], position.moveTo p)
      | some curves =>
          let stop := (curves.getLast?.map fun (_, _, stop) => stop).getD position.pen
          (curves.map fun (c, d, p) => .cubic c.narrow d.narrow p.narrow, position.moveTo stop)
  | .close => ([.close], ⟨position.start, position.start, none, none⟩)

/-- The command that numbers without a letter belong to: the last one, where a line follows a move.
A close takes none. -/
def Command.repeated? : Command → Option Command
  | .move => some .line
  | .close => none
  | command => some command

def startsNumber (c : Char) : Bool := c.isDigit || c = '.' || c = '-' || c = '+'

/-- The command at the start of a list: its letter, or the one before it when a number follows. The
first command of a path is a move. -/
def nextCommand? (last : Option (Command × Bool)) (cs : List Char) :
    Option ((Command × Bool) × List Char) :=
  match cs with
  | [] => none
  | c :: rest =>
      match Command.ofLetter? c, last with
      | some (command, absolute), none =>
          if command = .move then some ((command, absolute), rest) else none
      | some next, some _ => some (next, rest)
      | none, some (command, absolute) =>
          if startsNumber c then
            command.repeated?.map fun command => ((command, absolute), c :: rest)
          else none
      | none, none => none

def pathSegments : Nat → Option (Command × Bool) → Position → List Char → List Segment
  | 0, _, _, _ => []
  | fuel + 1, last, position, cs =>
      match nextCommand? last (skip cs) with
      | none => []
      | some ((command, absolute), rest) =>
          match command.read? rest with
          | none => []
          | some (drawing, rest) =>
              let (segments, position) := drawing.run absolute position
              segments ++ pathSegments fuel (some (command, absolute)) position rest

def pathOfData? (data : String) : Option (List Segment) :=
  let cs := data.toList
  path? (pathSegments (cs.length + 1) none .origin cs)

end Wireframe.Svg
