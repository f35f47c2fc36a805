import Wireframe.Main
import Wireframe.Scene.Outline
import Wireframe.Proofs.Table
import Wireframe.Proofs.Text.Case
import Wireframe.Proofs.Text.Quoted
import Wireframe.Proofs.Text.Trim
import Wireframe.Proofs.Text.Bytes
import Wireframe.Proofs.Json.Distinct
import Wireframe.Proofs.Json.Lexeme
import Wireframe.Proofs.Json.Legible
import Wireframe.Proofs.Json.Scanned
import Wireframe.Proofs.Json.Assembly
import Wireframe.Proofs.Json.Printed
import Wireframe.Proofs.Json.Numeral
import Wireframe.Proofs.Json.Restore
import Wireframe.Proofs.Json.Faithful
import Wireframe.Proofs.Json.Tagged
import Wireframe.Proofs.Binary.Pattern
import Wireframe.Proofs.Binary.Exact
import Wireframe.Proofs.Binary.Shortest
import Wireframe.Proofs.Binary.Text
import Wireframe.Proofs.Font.Chain
import Wireframe.Proofs.Font.Database
import Wireframe.Proofs.Scene.Measure
import Wireframe.Proofs.Scene.Faces
import Wireframe.Proofs.Scene.Line
import Wireframe.Proofs.Scene.Outline
import Wireframe.Proofs.Render.Numbering
import Wireframe.Proofs.Render.Uniformity
import Wireframe.Proofs.Render.ContextFree
import Wireframe.Proofs.Render.Visit
import Wireframe.Proofs.Render.Making
import Wireframe.Proofs.Render.Reliability
import Wireframe.Proofs.Render.Forest
import Wireframe.Proofs.Render.Correspondence
import Wireframe.Proofs.Render.Depth
import Wireframe.Proofs.Render.Typesetting
import Wireframe.Proofs.Render.Shortage
import Wireframe.Proofs.Render.Accounting
import Wireframe.Proofs.Render.Faces
import Wireframe.Proofs.Render.Alike
import Wireframe.Proofs.Render.Pruning
import Wireframe.Proofs.Render.Casing
import Wireframe.Proofs.Render.Defaults
import Wireframe.Proofs.Render.Slots
import Wireframe.Proofs.Render.Layout
import Wireframe.Proofs.Page.Frames
import Wireframe.Proofs.Page.Identity
import Wireframe.Proofs.Page.Row
import Wireframe.Proofs.Session.Call
import Wireframe.Proofs.Session.Destination
import Wireframe.Proofs.Session.Isolation
import Wireframe.Proofs.Session.Identity
import Wireframe.Proofs.Session.Notice
import Wireframe.Proofs.Session.Turn
import Wireframe.Proofs.Session.Refusal
import Wireframe.Proofs.Session.Discard
import Wireframe.Proofs.Session.Standalone
import Wireframe.Proofs.Session.Undo
import Wireframe.Proofs.Session.UnknownKind
import Wireframe.Proofs.Session.Row
import Wireframe.Proofs.Session.Fence
import Wireframe.Proofs.Session.Wire
import Wireframe.Proofs.Vector.Recolor
import Wireframe.Proofs.Component.Reading
import Wireframe.Proofs.Icon.Registry
import Wireframe.Proofs.Icon.Listing
import Wireframe.Proofs.Config.Choice
import Wireframe.Proofs.Config.Partial
import Wireframe.Proofs.Catalog.Describe
import Wireframe.Proofs.Catalog.Restore
import Wireframe.Proofs.Color.Hex
import Wireframe.Proofs.Vector.Tag
import Wireframe.Proofs.Vector.Markup
