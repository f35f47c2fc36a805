namespace Wireframe

inductive Kind where
  | header
  | label
  | linkText
  | button
  | socialButton
  | textField
  | checkbox
  | radioButton
  | switch
  | image
  | colorSwatch
  | icon
  | slider
  | placeholder
  | row
  | column
  | card
  deriving DecidableEq, Repr

namespace Kind

def tag : Kind → String
  | .header => "Header"
  | .label => "Label"
  | .linkText => "Link Text"
  | .button => "Button"
  | .socialButton => "Social Button"
  | .textField => "Text Field"
  | .checkbox => "Checkbox"
  | .radioButton => "RadioButton"
  | .switch => "Switch"
  | .image => "Image"
  | .colorSwatch => "ColorSwatch"
  | .icon => "Icon"
  | .slider => "Slider"
  | .placeholder => "Placeholder"
  | .row => "Row"
  | .column => "Column"
  | .card => "Card"

def all : List Kind :=
  [.header, .label, .linkText, .button, .socialButton, .textField, .checkbox, .radioButton, .switch,
    .image, .colorSwatch, .icon, .slider, .placeholder, .row, .column, .card]

def ofTag? (tag : String) : Option Kind := all.find? fun kind => kind.tag = tag

theorem ofTag?_tag (kind : Kind) : ofTag? kind.tag = some kind := by
  cases kind <;> decide

theorem tag_of_ofTag? {tag : String} {kind : Kind} (named : ofTag? tag = some kind) :
    kind.tag = tag := by
  simpa using List.find?_some named

def nests : Kind → Bool
  | .row | .column | .card => true
  | _ => false

end Kind

end Wireframe
