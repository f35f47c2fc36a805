import Wireframe.Catalog.Basic

namespace Wireframe.Catalog

open PropSpec (string number boolean)

def builtin : Catalog := [
  .ofKind .header
    "For screen titles or section headings." [
    string "text" "The heading text" |>.asRequired,
    string "textAlign" "Text alignment (default CENTER for headers)"
      |>.withOptions ["LEFT", "CENTER", "RIGHT"]],
  .ofKind .textField
    "For user text input. This component renders a label and input box together." [
    string "label" "Label text displayed above the field",
    string "placeholder" "Placeholder text inside the input area",
    string "icon" "Optional icon name (from available icons)",
    string "endIcon" "Icon name for the END/RIGHT of the input (e.g., visibility toggle)"],
  .ofKind .button
    "For user actions like submit, save, cancel." [
    string "label" "Text displayed on the button" |>.asRequired,
    string "color" "Color hint for button style"
      |>.withOptions ["primary", "secondary", "destructive"],
    string "icon" "Optional icon name (from available icons)",
    string "width" "Set button width: FULL stretches, HUG fits content"
      |>.withOptions ["FULL", "HUG"] |>.withDefault (.string "FULL")],
  .ofKind .socialButton
    "Branded button for social authentication (e.g., Continue with Google, Apple, Facebook)." [
    string "provider" "Social provider identifier"
      |>.withOptions ["google", "apple", "facebook"] |>.asRequired,
    string "label" "Button label. Defaults to 'Continue with <Provider>' if omitted.",
    string "width" "Width behavior of the button" |>.withOptions ["FULL", "HUG"]
      |>.withDefault (.string "FULL"),
    string "icon" "Icon name (usually same as provider, e.g. 'google')"],
  .ofKind .checkbox
    "For agreeing to terms or selecting multiple options. Renders a box and a label." [
    string "label" "Text label next to the checkbox" |>.asRequired,
    boolean "checked" "Initial state (true/false)" |>.withDefault (.bool false)],
  .ofKind .radioButton
    "For selecting a single option from a group. Renders a circle and a label." [
    string "label" "Text label next to the radio button" |>.asRequired,
    boolean "checked" "Initial state (true/false)" |>.withDefault (.bool false),
    string "groupName" "Identifier grouping related radio buttons" |>.asRequired],
  .ofKind .switch
    "For toggling settings on/off. Renders a switch and a label." [
    string "label" "Text label next to the switch" |>.asRequired,
    boolean "checked" "Initial state (true/false)" |>.withDefault (.bool false)],
  .ofKind .label
    "For simple, non-interactive text display." [
    string "text" "The text content" |>.asRequired,
    string "textAlign" "Text alignment (default LEFT)"
      |>.withOptions ["LEFT", "CENTER", "RIGHT"]],
  .ofKind .icon
    "For displaying a standalone icon." [
    string "icon" "Icon name (from available icons)" |>.asRequired,
    number "size" "Optional size hint (e.g., 24, 32)"],
  .ofKind .linkText
    ("Inline or standalone clickable text link for secondary navigation (e.g., Forgot " ++
      "password?, Sign up).") [
    string "text" "Link label text" |>.asRequired,
    string "align" "Horizontal alignment of the link"
      |>.withOptions ["LEFT", "CENTER", "RIGHT"] |>.withDefault (.string "LEFT"),
    string "variant" "Visual emphasis level of the link"
      |>.withOptions ["PRIMARY", "SECONDARY", "SUBTLE"] |>.withDefault (.string "SECONDARY")],
  .ofKind .row
    ("A container that arranges items HORIZONTALLY. Use this for controls, items " ++
      "side-by-side, etc.") [
    number "spacing" "Space between items (e.g., 8, 16)" |>.withDefault (.int 8),
    string "alignment" "Vertical alignment of items" |>.withOptions ["TOP", "CENTER", "BOTTOM"]
      |>.withDefault (.string "CENTER"),
    string "justify" "Horizontal distribution (MIN=start, MAX=end)"
      |>.withOptions ["MIN", "CENTER", "MAX", "SPACE_BETWEEN"] |>.withDefault (.string "MIN")],
  .ofKind .column
    "A container that arranges items VERTICALLY. Use this to group items in a card, etc." [
    number "spacing" "Space between items (e.g., 8, 16)" |>.withDefault (.int 8),
    string "alignment" "Horizontal alignment (MIN=left, MAX=right)"
      |>.withOptions ["MIN", "CENTER", "MAX"] |>.withDefault (.string "MIN")],
  .ofKind .card
    ("A container with padding, background, border, and shadow for grouping related content. " ++
      "Perfect for product cards, info panels, etc.") [
    number "padding" "Internal padding (default 16)" |>.withDefault (.int 16),
    number "spacing" "Space between child items (default 12)" |>.withDefault (.int 12),
    string "backgroundColor" "Card background color (default white)"
      |>.withOptions ["white", "light", "dark"] |>.withDefault (.string "white"),
    boolean "hasBorder" "Show border around card (default true)" |>.withDefault (.bool true),
    boolean "hasShadow" "Show drop shadow (default true)" |>.withDefault (.bool true)],
  .ofKind .slider
    "A horizontal slider for progress bars, volume, etc. Renders a track and a thumb." [
    number "value" "Position of thumb (0 to 100)" |>.withDefault (.int 30)],
  .ofKind .placeholder
    "A simple gray box to represent an image, album art, or other media." [
    number "width" "Width of the box (default 100)" |>.withDefault (.int 100),
    number "height" "Height of the box (default 100)" |>.withDefault (.int 100),
    string "label" "Optional text inside the box"],
  .ofKind .image
    ("Displays an image with proper sizing and corner radius. Use this for photos, product " ++
      "images, avatars, etc.") [
    number "width" "Image width in pixels (default 100)" |>.withDefault (.int 100),
    number "height" "Image height in pixels (default 100)" |>.withDefault (.int 100),
    string "alt" "Alternative text description of the image" |>.withDefault (.string "Image"),
    number "cornerRadius" "Corner roundness (0=square, 50+=circle, default 8)"
      |>.withDefault (.int 8),
    string "fit" "How image fills container (default FILL)"
      |>.withOptions ["FILL", "FIT", "CROP"] |>.withDefault (.string "FILL")],
  .ofKind .colorSwatch
    "A colored circle or square for color selection UI. Better than Image for color pickers." [
    string "color" "Color name or hint (red, blue, green, black, white, etc.)" |>.asRequired,
    number "size" "Size of the swatch (default 40)" |>.withDefault (.int 40),
    boolean "selected" "Whether this color is selected (shows border)"
      |>.withDefault (.bool false),
    string "shape" "Shape of swatch (default circle)" |>.withOptions ["circle", "square"]
      |>.withDefault (.string "circle")]]

end Wireframe.Catalog
