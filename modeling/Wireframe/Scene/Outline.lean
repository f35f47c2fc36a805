import Wireframe.Scene.Node
import Wireframe.Text.Quoted
/-!
Outlines: one line for each node with its kind, name, text, layout and position, two blanks for each
level. Ids and paint are not part of an outline.
-/

namespace Wireframe.Node

open Binary (singleText)

def leafDetail : Leaf → String
  | .text run => " " ++ Text.quoted run.characters ++ " " ++ run.align.word
  | _ => ""

def frameDetail (frame : Frame) : String :=
  " " ++ frame.layout.word ++ " " ++ frame.primarySizing.word ++ "/" ++ frame.counterSizing.word ++
    " " ++ frame.primaryAlign.word ++ "/" ++ frame.counterAlign.word ++
    " spacing=" ++ singleText frame.spacing

def positionDetail : Option Point → String
  | some point => " at (" ++ singleText point.x ++ ", " ++ singleText point.y ++ ")"
  | none => ""

def outlineLine (depth : Nat) (tag : String) (header : Header) (detail : String) : String :=
  String.ofList (List.replicate (2 * depth) ' ') ++ tag ++ " \"" ++ header.name ++ "\"" ++
    (if header.layoutAlign = .stretch then " stretch" else "") ++ detail ++
    positionDetail header.position ++ "\n"

mutual

def outlineAt (depth : Nat) : Node → String
  | .leaf header content =>
      outlineLine depth (Node.leaf header content).tag header (leafDetail content)
  | .container header frame children =>
      outlineLine depth "CONTAINER" header (frameDetail frame) ++ outlineAll (depth + 1) children

def outlineAll (depth : Nat) : List Node → String
  | [] => ""
  | node :: rest => node.outlineAt depth ++ outlineAll depth rest

end

def outline (node : Node) : String := node.outlineAt 0

end Wireframe.Node
