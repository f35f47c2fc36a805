import Wireframe.Vector.Basic
import Wireframe.Binary.Shortest

namespace Wireframe.Vector

open Binary (singleText)

def attr (name value : String) : String := " " ++ name ++ "=\"" ++ value ++ "\""

def paintMarkup (name : String) : Option Paint → String
  | some (.solid color) =>
      attr name color.toHex ++
        (if color.a < 1 then attr (name ++ "-opacity") (singleText color.a) else "")
  | _ => attr name "none"

def strokeMarkup : Option Stroke → String
  | some stroke =>
      paintMarkup "stroke" (some stroke.paint) ++ attr "stroke-width" (singleText stroke.width)
  | none => ""

def transformMarkup : Option Matrix → String
  | some m =>
      attr "transform"
        ("matrix(" ++ " ".intercalate ([m.a, m.b, m.c, m.d, m.e, m.f].map singleText) ++ ")")
  | none => ""

def opacityMarkup (opacity : Float32) : String :=
  if opacity < 1 then attr "opacity" (singleText opacity) else ""

mutual

def Element.markup : Element → String
  | .group _ transform opacity children =>
      "<g" ++ transformMarkup transform ++ opacityMarkup opacity ++ ">" ++ markupAll children ++
        "</g>"
  | .path _ data fill stroke =>
      "<path" ++ attr "d" data ++ paintMarkup "fill" fill ++ strokeMarkup stroke ++ "/>"

def markupAll : List Element → String
  | [] => ""
  | element :: rest => element.markup ++ markupAll rest

end

def svgNamespace : String := "http://www.w3.org/2000/svg"

def markup (vector : Vector) : String :=
  "<svg" ++ attr "xmlns" svgNamespace ++
    attr "width" (singleText vector.size.width) ++
    attr "height" (singleText vector.size.height) ++
    attr "viewBox" ("0 0 " ++ singleText vector.viewBox.width ++ " " ++
      singleText vector.viewBox.height) ++
    ">" ++ vector.root.markup ++ "</svg>"

end Wireframe.Vector
