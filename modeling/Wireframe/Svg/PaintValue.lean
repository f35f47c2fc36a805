import Wireframe.Svg.Ink
import Wireframe.Svg.Link

namespace Wireframe.Svg

inductive PlainPaint where
  | none
  | currentColor
  | ink (ink : Ink)
  deriving DecidableEq, Repr

/-- A paint: a plain one, that of the element which uses this one, or a link to a gradient or
pattern, with a paint for when the link fails. -/
inductive PaintValue where
  | plain (paint : PlainPaint)
  | contextFill
  | contextStroke
  | link (id : String) (fallback : PlainPaint)
  deriving DecidableEq, Repr

def PlainPaint.ofChars? (cs : List Char) : Option PlainPaint :=
  match String.ofList cs with
  | "none" => some .none
  | "currentColor" => some .currentColor
  | _ => (Ink.ofChars? cs).map .ink

namespace PaintValue

/-- Reads a paint. A link that fails paints nothing unless it says otherwise, and so does `inherit`
where there is nothing to inherit from. -/
def ofText? (text : String) : Option PaintValue :=
  let cs := Text.trimChars text.toList
  match String.ofList cs with
  | "none" | "inherit" => some (.plain .none)
  | "currentColor" => some (.plain .currentColor)
  | "context-fill" => some .contextFill
  | "context-stroke" => some .contextStroke
  | _ =>
      if (Text.after? "url(".toList cs).isNone then (Ink.ofChars? cs).map (.plain ∘ .ink)
      else
        match bracketLink? cs with
        | Option.none => Option.none
        | some (id, rest) =>
            match skip rest with
            | [] => some (.link id .none)
            | rest => (PlainPaint.ofChars? rest).map (.link id)

def target? (text : String) : Option String :=
  match ofText? text with
  | some (.link id _) => some id
  | _ => Option.none

end PaintValue

end Wireframe.Svg
