import Wireframe.Icon.Builtin
import Wireframe.Json.Codec
/-!
Icons by name. A registry holds icons of its own under exact names and may fall back on the icons of
the library, whose names are found in any case and with blanks around them.
-/

namespace Wireframe.Icon

def builtin : List (String × String) := glyphs ++ brands

/-- The markup of a library icon, by its exact name or its name in lower case without blanks. -/
def builtin? (name : String) : Option String :=
  (builtin.lookup name).or (builtin.lookup (Text.lower (Text.trim name)))

def isBrand (name : String) : Bool :=
  (brands.lookup (Text.lower (Text.trim name))).isSome

structure Registry where
  icons : List (String × String)
  multiTone : List String
  fallback : Bool

namespace Registry

def empty : Registry := ⟨[], [], false⟩

def library : Registry := ⟨[], [], true⟩

def withFallback (registry : Registry) : Registry := { registry with fallback := true }

def insert (name markup : String) (registry : Registry) : Registry :=
  { registry with icons := Table.insert name markup registry.icons }

def insertMultiTone (name markup : String) (registry : Registry) : Registry :=
  { registry with
    icons := Table.insert name markup registry.icons
    multiTone := name :: registry.multiTone }

def ofText (text : String) : Except Json.Fault Registry :=
  ((Json.Codec.table .text).ofText text).map fun icons => { empty with icons }

def lookup (registry : Registry) (name : String) : Option String :=
  match registry.icons.lookup name with
  | some markup => some markup
  | none => if registry.fallback then builtin? name else none

def isMultiTone (registry : Registry) (name : String) : Bool :=
  match registry.icons.lookup name with
  | some _ => registry.multiTone.contains name
  | none => registry.fallback && isBrand name

def names (registry : Registry) : List String :=
  let own := registry.icons.map Prod.fst
  let known := if registry.fallback then own ++ builtin.map Prod.fst else own
  (Table.ofList (known.map fun name => (name, ()))).map Prod.fst

end Registry

end Wireframe.Icon

namespace Wireframe

/-- What rendering asks icons for: the markup under a name, and whether it keeps its colours. -/
structure IconProvider where
  lookup : String → Option String
  isMultiTone : String → Bool

namespace IconProvider

def ofRegistry (registry : Icon.Registry) : IconProvider :=
  ⟨registry.lookup, registry.isMultiTone⟩

instance : Coe Icon.Registry IconProvider := ⟨ofRegistry⟩

def library : IconProvider := Icon.Registry.library

end IconProvider

end Wireframe
