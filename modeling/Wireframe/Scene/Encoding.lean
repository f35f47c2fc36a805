import Wireframe.Scene.Node

namespace Wireframe

def paintsToJson (fills : List Paint) : Json := .array (fills.map Paint.toJson)

def strokeToJson : Option Stroke → Json
  | some stroke => stroke.toJson
  | none => .null

def shadowToJson : Option Shadow → Json
  | some shadow => shadow.toJson
  | none => .null

namespace Text.Run

def jsonMembers (run : Run) : List (String × Json) :=
  [("characters", .string run.characters), ("font", run.font.toJson),
    ("fontSize", .single run.fontSize), ("fill", run.fill.toJson),
    ("align", constant run.align.word), ("verticalAlign", constant run.verticalAlign.word),
    ("autoResize", constant run.autoResize.word), ("decoration", constant run.decoration.word)]

end Text.Run

namespace Shape

def jsonMembers (shape : Shape) : List (String × Json) :=
  [("size", shape.size.toJson), ("cornerRadius", .single shape.cornerRadius),
    ("fills", paintsToJson shape.fills), ("stroke", strokeToJson shape.stroke)]

end Shape

namespace Frame

def jsonMembers (frame : Frame) : List (String × Json) :=
  [("size", frame.size.toJson), ("layout", constant frame.layout.word),
    ("primarySizing", constant frame.primarySizing.word),
    ("counterSizing", constant frame.counterSizing.word),
    ("primaryAlign", constant frame.primaryAlign.word),
    ("counterAlign", constant frame.counterAlign.word), ("spacing", .single frame.spacing),
    ("padding", frame.padding.toJson), ("cornerRadius", .single frame.cornerRadius),
    ("fills", paintsToJson frame.fills), ("stroke", strokeToJson frame.stroke),
    ("shadow", shadowToJson frame.shadow), ("clipsContent", .bool frame.clipsContent)]

end Frame

namespace Leaf

def jsonMembers : Leaf → List (String × Json)
  | .text run => run.jsonMembers
  | .rectangle shape => shape.jsonMembers
  | .ellipse shape => shape.jsonMembers
  | .vector artwork => artwork.jsonMembers

end Leaf

namespace Node

def Header.jsonMembers (header : Header) : List (String × Json) :=
  [("id", .int header.id), ("name", .string header.name),
    ("layoutAlign", constant header.layoutAlign.word), ("layoutGrow", .single header.layoutGrow)] ++
    (match header.position with
      | some point => [("position", point.toJson)]
      | none => [])

mutual

def toJson : Node → Json
  | .leaf header content =>
      .object (header.jsonMembers ++ [("type", .string (Node.leaf header content).tag)] ++
        content.jsonMembers)
  | .container header frame children =>
      .object (header.jsonMembers ++ [("type", .string "CONTAINER")] ++ frame.jsonMembers ++
        [("children", .array (nodesToJson children))])

def nodesToJson : List Node → List Json
  | [] => []
  | node :: rest => node.toJson :: nodesToJson rest

end

end Node

end Wireframe
