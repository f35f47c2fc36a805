import Wireframe.Json.Codec

namespace Wireframe

structure Size where
  width : Float32
  height : Float32
  deriving DecidableEq

structure Point where
  x : Float32
  y : Float32
  deriving DecidableEq

structure Padding where
  top : Float32
  right : Float32
  bottom : Float32
  left : Float32
  deriving DecidableEq

namespace Size

def zero : Size := ⟨0, 0⟩

def square (side : Float32) : Size := ⟨side, side⟩

def codec : Json.Codec Size :=
  .record "struct Size"
    [.must "width" .single Size.width fun width size => { size with width },
      .must "height" .single Size.height fun height size => { size with height }]
    zero

def toJson (size : Size) : Json := codec.encode size

end Size

namespace Point

def origin : Point := ⟨0, 0⟩

def toJson (point : Point) : Json := .object [("x", .single point.x), ("y", .single point.y)]

end Point

namespace Padding

def symmetric (horizontal vertical : Float32) : Padding :=
  ⟨vertical, horizontal, vertical, horizontal⟩

def uniform (width : Float32) : Padding := symmetric width width

def none : Padding := uniform 0

def toJson (padding : Padding) : Json :=
  .object [("top", .single padding.top), ("right", .single padding.right),
    ("bottom", .single padding.bottom), ("left", .single padding.left)]

end Padding

end Wireframe
