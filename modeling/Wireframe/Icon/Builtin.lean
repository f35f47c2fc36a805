import Wireframe.Vector.Markup

namespace Wireframe.Icon

def glyph (size color data : String) : String :=
  "<svg" ++ Vector.attr "xmlns" Vector.svgNamespace ++ Vector.attr "height" size ++
    Vector.attr "viewBox" "0 0 24 24" ++ Vector.attr "width" size ++ Vector.attr "fill" color ++
    "><path" ++ Vector.attr "d" data ++ "/></svg>"

def checkmark : String :=
  glyph "16px" "#FFFFFF" "M9 16.2L4.8 12l-1.4 1.4L9 19 21 7l-1.4-1.4L9 16.2z"

def imageGlyph : String :=
  glyph "24px" "#FFFFFF"
    ("M21 19V5c0-1.1-.9-2-2-2H5c-1.1 0-2 .9-2 2v14c0 1.1.9 2 2 2h14c1.1 0 2-.9 2-2zM8.5 13.5l2.5 " ++
      "3.01L14.5 12l4.5 6H5l3.5-4.5z")

def glyphData : List (String × String) := [
  ("search", "M15.5 14h-.79l-.28-.27C15.41 12.59 16 11.11 16 9.5 16 5.91 13.09 3 9.5 3S3 5.91 3 " ++
    "9.5 5.91 16 9.5 16c1.61 0 3.09-.59 4.23-1.57l.27.28v.79l5 4.99L20.49 19l-4.99-5zm-6 0C7.01 " ++
    "14 5 11.99 5 9.5S7.01 5 9.5 5 14 7.01 14 9.5 11.99 14 9.5 14z"),
  ("home", "M10 20v-6h4v6h5v-8h3L12 3 2 12h3v8z"),
  ("menu", "M3 18h18v-2H3v2zm0-5h18v-2H3v2zm0-7v2h18V6H3z"),
  ("close", "M19 6.41L17.59 5 12 10.59 6.41 5 5 6.41 10.59 12 5 17.59 6.41 19 12 13.41 17.59 19 " ++
    "19 17.59 13.41 12 19 6.41z"),
  ("settings", "M19.43 12.98c.04-.32.07-.64.07-.98s-.03-.66-.07-.98l2.11-1.65c.19-." ++
    "15.24-.42.12-.64l-2-3.46c-.12-.22-.39-.3-.61-.22l-2.49 " ++
    "1c-.52-.4-1.08-.73-1.69-.98l-.38-2.65C14.46 2.18 14.25 2 14 2h-4c-.25 0-.46.18-.49.42l-.38 " ++
    "2.65c-.61.25-1.17.59-1.69.98l-2.49-1c-.23-.08-.49 0-.61.22l-2 " ++
    "3.46c-.13.22-.07.49.12.64l2.11 1.65c-.04.32-.07.65-.07.98s.03.66.07.98l-2.11 " ++
    "1.65c-.19.15-.24.42-.12.64l2 3.46c.12.22.39.3.61.22l2.49-1c.52.4 1.08.73 1.69.98l.38 " ++
    "2.65c.03.24.24.42.49.42h4c.25 0 .46-.18.49-.42l.38-2.65c.61-.25 1.17-.59 1.69-.98l2.49 " ++
    "1c.23.08.49 0 .61-.22l2-3.46c.12-.22.07-.49-.12-.64l-2.11-1.65zM12 15.5c-1.93 " ++
    "0-3.5-1.57-3.5-3.5s1.57-3.5 3.5-3.5 3.5 1.57 3.5 3.5-1.57 3.5-3.5 3.5z"),
  ("done", "M9 16.2L4.8 12l-1.4 1.4L9 19 21 7l-1.4-1.4L9 16.2z"),
  ("info", "M12 2C6.48 2 2 6.48 2 12s4.48 10 10 10 10-4.48 10-10S17.52 2 12 2zm1 " ++
    "15h-2v-6h2v6zm0-8h-2V7h2v2z"),
  ("check_circle", "M12 2C6.48 2 2 6.48 2 12s4.48 10 10 10 10-4.48 10-10S17.52 2 12 2zm-2 " ++
    "15l-5-5 1.41-1.41L10 14.17l7.59-7.59L19 8l-9 9z"),
  ("delete", "M6 19c0 1.1.9 2 2 2h8c1.1 0 2-.9 2-2V7H6v12zM19 4h-3.5l-1-1h-5l-1 1H5v2h14V4z"),
  ("visibility", "M12 4.5C7 4.5 2.73 7.61 1 12c1.73 4.39 6 7.5 11 7.5s9.27-3.11 11-7.5C21.27 " ++
    "7.61 17 4.5 12 4.5zm0 10c-2.48 0-4.5-2.02-4.5-4.5S9.52 5.5 12 5.5 16.5 7.52 16.5 10 14.48 " ++
    "14.5 12 14.5zm0-7C10.9 7.5 10 8.4 10 9.5S10.9 11.5 12 11.5 14 10.6 14 9.5 13.1 7.5 12 7.5z"),
  ("visibility_off", "M12 7c2.76 0 5 2.24 5 5 0 .65-.13 1.26-.36 1.83l2.92 2.92c1.51-1.26 " ++
    "2.7-2.89 3.43-4.75C21.27 7.61 17 4.5 12 4.5c-1.77 0-3.38.53-4.79 1.4l1.57 1.57C9.46 7.13 " ++
    "10.69 7 12 7zm-1.07 1.14L13 10.21c.57.25 1.03.71 1.28 1.28l2.07 2.07c.08-.34.14-.7.14-1.06 " ++
    "0-2.76-2.24-5-5-5-.36 0-.72.05-1.06.14zM2.01 3.87l2.68 2.68C3.06 7.83 1.77 9.53 1 11.5 " ++
    "2.73 15.89 7 19 12 19c1.52 0 2.98-.29 4.32-.82l3.42 3.42 1.41-1.41L3.42 2.45 2.01 " ++
    "3.87zm7.5 8.58l-1.57-1.57C7.62 10.64 7.35 10 7 10c-.36 0-.64.28-.64.63 0 " ++
    ".35.28.63.63.63.35 0 .64-.28.64-.63 0 .35.28.63.63.63.34 0 .64-.28.64-.63 0 " ++
    ".35.28.63.63.63.34 0 .64-.28.64-.63zM12 17c-2.76 0-5-2.24-5-5 0-.65.13-1.26.36-1.83l2.92 " ++
    "2.92c-1.51 1.26-2.7 2.89-3.43 4.75C7.27 16.39 3 13.5 3 11.5c1.73-4.39 6-7.5 11-7.5 1.77 0 " ++
    "3.38.53 4.79 1.4l-1.57-1.57C15.54 4.13 13.8 4 12 4c-4.97 0-9.27 3.11-11 7.5 1.73 4.39 6.03 " ++
    "7.5 11 7.5 1.52 0 2.98-.29 4.32-.82l-3.42-3.42C13.26 16.87 12.65 17 12 17z"),
  ("person", "M12 12c2.21 0 4-1.79 4-4s-1.79-4-4-4-4 1.79-4 4 1.79 4 4 4zm0 2c-2.67 0-8 1.34-8 " ++
    "4v2h16v-2c0-2.66-5.33-4-8-4z"),
  ("account_circle", "M12 2C6.48 2 2 6.48 2 12s4.48 10 10 10 10-4.48 10-10S17.52 2 12 2zm0 " ++
    "4c1.93 0 3.5 1.57 3.5 3.5S13.93 13 12 13s-3.5-1.57-3.5-3.5S10.07 6 12 6zm0 14c-2.03 " ++
    "0-4.43-.82-6.14-2.88C7.55 15.8 9.68 15 12 15s4.45.8 6.14 2.12C16.43 19.18 14.03 20 12 20z"),
  ("email", "M20 4H4c-1.1 0-1.99.9-1.99 2L2 18c0 1.1.9 2 2 2h16c1.1 0 2-.9 " ++
    "2-2V6c0-1.1-.9-2-2-2zm0 4l-8 5-8-5V6l8 5 8-5v2z"),
  ("lock", "M18 8h-1V6c0-2.76-2.24-5-5-5S7 3.24 7 6v2H6c-1.1 0-2 .9-2 2v10c0 1.1.9 2 2 2h12c1.1 " ++
    "0 2-.9 2-2V10c0-1.1-.9-2-2-2zm-6 9c-1.1 0-2-.9-2-2s.9-2 2-2 2 .9 2 2-.9 2-2 " ++
    "2zm3.1-9H8.9V6c0-1.71 1.39-3.1 3.1-3.1 1.71 0 3.1 1.39 3.1 3.1v2z"),
  ("phone", "M6.62 10.79c1.44 2.83 3.76 5.14 6.59 6.59l2.2-2.2c.27-.27.67-.36 1.02-.24 1.12.37 " ++
    "2.33.57 3.57.57.55 0 1 .45 1 1V20c0 .55-.45 1-1 1-9.39 0-17-7.61-17-17 0-.55.45-1 " ++
    "1-1h3.5c.55 0 1 .45 1 1 0 1.25.2 2.45.57 3.57.11.35.03.74-.25 1.02l-2.2 2.2z"),
  ("add", "M19 13h-6v6h-2v-6H5v-2h6V5h2v6h6v2z"),
  ("remove", "M19 13H5v-2h14v2z"),
  ("edit", "M3 17.25V21h3.75L17.81 9.94l-3.75-3.75L3 17.25zM20.71 7.04c.39-.39.39-1.02 " ++
    "0-1.41l-2.34-2.34c-.39-.39-1.02-.39-1.41 0l-1.83 1.83 3.75 3.75 1.83-1.83z"),
  ("save", "M17 3H5c-1.11 0-2 .9-2 2v14c0 1.1.89 2 2 2h14c1.1 0 2-.9 2-2V7l-4-4zm-5 16c-1.66 " ++
    "0-3-1.34-3-3s1.34-3 3-3 3 1.34 3 3-1.34 3-3 3zm3-10H5V5h10v4z"),
  ("arrow_back", "M20 11H7.83l5.59-5.59L12 4l-8 8 8 8 1.41-1.41L7.83 13H20v-2z"),
  ("arrow_forward", "M12 4l-1.41 1.41L16.17 11H4v2h12.17l-5.58 5.59L12 20l8-8-8-8z"),
  ("arrow_drop_down", "M7 10l5 5 5-5H7z"),
  ("arrow_drop_up", "M7 14l5-5 5 5H7z"),
  ("more_vert", "M12 8c1.1 0 2-.9 2-2s-.9-2-2-2-2 .9-2 2 .9 2 2 2zm0 2c-1.1 0-2 .9-2 2s.9 2 2 2 " ++
    "2-.9 2-2-.9-2-2-2zm0 6c-1.1 0-2 .9-2 2s.9 2 2 2 2-.9 2-2-.9-2-2-2z"),
  ("more_horiz", "M6 10c-1.1 0-2 .9-2 2s.9 2 2 2 2-.9 2-2-.9-2-2-2zm12 0c-1.1 0-2 .9-2 2s.9 2 2 " ++
    "2 2-.9 2-2-.9-2-2-2zm-6 0c-1.1 0-2 .9-2 2s.9 2 2 2 2-.9 2-2-.9-2-2-2z"),
  ("refresh", "M17.65 6.35C16.2 4.9 14.21 4 12 4c-4.42 0-7.99 3.58-7.99 8s3.57 8 7.99 8c3.73 0 " ++
    "6.84-2.55 7.73-6h-2.08c-.82 2.33-3.04 4-5.65 4-3.31 0-6-2.69-6-6s2.69-6 6-6c1.66 0 3.14.69 " ++
    "4.22 1.78L13 11h7V4l-2.35 2.35z"),
  ("star", "M12 17.27L18.18 21l-1.64-7.03L22 9.24l-7.19-.61L12 2 9.19 8.63 2 9.24l5.46 " ++
    "4.73L5.82 21 12 17.27z"),
  ("favorite", "M12 21.35l-1.45-1.32C5.4 15.36 2 12.28 2 8.5 2 5.42 4.42 3 7.5 3c1.74 0 3.41.81 " ++
    "4.5 2.09C13.09 3.81 14.76 3 16.5 3 19.58 3 22 5.42 22 8.5c0 3.78-3.4 6.86-8.55 11.54L12 " ++
    "21.35z"),
  ("light_mode", "M12 7c-2.76 0-5 2.24-5 5s2.24 5 5 5 5-2.24 5-5-2.24-5-5-5zM2 13h2c.55 0 1-.45 " ++
    "1-1s-.45-1-1-1H2c-.55 0-1 .45-1 1s.45 1 1 1zm18 0h2c.55 0 1-.45 1-1s-.45-1-1-1h-2c-.55 0-1 " ++
    ".45-1 1s.45 1 1 1zM11 2v2c0 .55.45 1 1 1s1-.45 1-1V2c0-.55-.45-1-1-1s-1 .45-1 1zm0 18v2c0 " ++
    ".55.45 1 1 1s1-.45 1-1v-2c0-.55-.45-1-1-1s-1 .45-1 1zM5.99 4.58c-.39-.39-1.02-.39-1.41 " ++
    "0-.39.39-.39 1.02 0 1.41l1.06 1.06c.39.39 1.02.39 1.41 0s.39-1.02 0-1.41L5.99 4.58zm12.73 " ++
    "12.73c-.39-.39-1.02-.39-1.41 0-.39.39-.39 1.02 0 1.41l1.06 1.06c.39.39 1.02.39 1.41 0 " ++
    ".39-.39.39-1.02 0-1.41l-1.06-1.06zM5.99 18.01c.39.39 1.02.39 1.41 0 .39-.39.39-1.02 " ++
    "0-1.41l-1.06-1.06c-.39-.39-1.02-.39-1.41 0-.39.39-.39 1.02 0 1.41l1.06 " ++
    "1.06zm12.73-12.73c.39.39 1.02.39 1.41 0 .39-.39.39-1.02 " ++
    "0-1.41l-1.06-1.06c-.39-.39-1.02-.39-1.41 0-.39.39-.39 1.02 0 1.41l1.06 1.06z"),
  ("dark_mode", "M12 3c-4.97 0-9 4.03-9 9s4.03 9 9 9 9-4.03 9-9c0-.46-.04-.92-.1-1.36-.98 " ++
    "1.37-2.58 2.26-4.4 2.26-2.98 0-5.4-2.42-5.4-5.4 0-1.81.89-3.42 " ++
    "2.26-4.4-.44-.06-.9-.1-1.36-.1z"),
  ("notifications", "M12 22c1.1 0 2-.9 2-2h-4c0 1.1.9 2 2 " ++
    "2zm6-6v-5c0-3.07-1.63-5.64-4.5-6.32V4c0-.83-.67-1.5-1.5-1.5s-1.5.67-1.5 1.5v.68C7.64 5.36 " ++
    "6 7.92 6 11v5l-2 2v1h16v-1l-2-2z"),
  ("warning", "M1 21h22L12 2 1 21zm12-3h-2v-2h2v2zm0-4h-2v-4h2v4z"),
  ("error", "M12 2C6.48 2 2 6.48 2 12s4.48 10 10 10 10-4.48 10-10S17.52 2 12 2zm1 " ++
    "15h-2v-2h2v2zm0-4h-2V7h2v6z"),
  ("help", "M12 2C6.48 2 2 6.48 2 12s4.48 10 10 10 10-4.48 10-10S17.52 2 12 2zm1 " ++
    "17h-2v-2h2v2zm2.07-7.75l-.9.92C13.45 12.9 13 13.5 13 15h-2v-.5c0-1.1.45-2.1 " ++
    "1.17-2.83l1.24-1.26c.37-.36.59-.86.59-1.41 0-1.1-.9-2-2-2s-2 .9-2 2H8c0-2.21 1.79-4 4-4s4 " ++
    "1.79 4 4c0 .88-.36 1.68-.93 2.25z"),
  ("calendar_today", "M20 3h-1V1h-2v2H7V1H5v2H4c-1.1 0-2 .9-2 2v16c0 1.1.9 2 2 2h16c1.1 0 2-.9 " ++
    "2-2V5c0-1.1-.9-2-2-2zm0 18H4V8h16v13z"),
  ("schedule", "M12 2C6.48 2 2 6.48 2 12s4.48 10 10 10 10-4.48 10-10S17.52 2 12 2zm4.5 16.5L11 " ++
    "13V7h1.5v5.2l4.5 2.7-.5 1.6z"),
  ("attach_file", "M16.5 6v11.5c0 2.21-1.79 4-4 4s-4-1.79-4-4V5c0-1.38 1.12-2.5 2.5-2.5s2.5 " ++
    "1.12 2.5 2.5v10.5c0 .55-.45 1-1 1s-1-.45-1-1V6H10v9.5c0 1.38 1.12 2.5 2.5 2.5s2.5-1.12 " ++
    "2.5-2.5V5c0-2.21-1.79-4-4-4S7 2.79 7 5v12.5c0 3.04 2.46 5.5 5.5 5.5s5.5-2.46 " ++
    "5.5-5.5V6h-1.5z"),
  ("upload_file", "M9 16h6v-6h4l-7-7-7 7h4v6zm-4 2h14v2H5v-2z"),
  ("download", "M19 9h-4V3H9v6H5l7 7 7-7zM5 18v2h14v-2H5z"),
  ("shopping_cart", "M7 18c-1.1 0-1.99.9-1.99 2S5.9 22 7 22s2-.9 2-2-.9-2-2-2zM1 2v2h2l3.6 " ++
    "7.59-1.35 2.45c-.16.28-.25.61-.25.96 0 1.1.9 2 2 2h12v-2H7.42c-.14 " ++
    "0-.25-.11-.25-.25l.03-.12.9-1.63h7.45c.75 0 1.41-.41 " ++
    "1.75-1.03l3.58-6.49c.08-.14.12-.31.12-.48 0-.55-.45-1-1-1H5.21l-.94-2H1v-2zm16 16c-1.1 " ++
    "0-1.99.9-1.99 2s.9 2 2 2 2-.9 2-2-.9-2-2-2z"),
  ("shopping_bag", "M18 6V4c0-1.1-.9-2-2-2h-4c-1.1 0-2 .9-2 2v2H2v15h20V6h-4zm-6-2h4v2h-4V4zM4 " ++
    "8h16v11H4V8z"),
  ("store", "M20 4H4v2h16V4zM21 14v-2l-1-5H4L3 12v2h1v6h10v-6h4v6h2v-6h1zm-9 4H6v-4h6v4z"),
  ("credit_card", "M20 4H4c-1.11 0-1.99.89-1.99 2L2 18c0 1.11.89 2 2 2h16c1.11 0 2-.89 " ++
    "2-2V6c0-1.11-.89-2-2-2zm0 14H4v-6h16v6zm0-10H4V6h16v2z"),
  ("receipt", "M18 17H6v-2h12v2zm0-4H6v-2h12v2zm0-4H6V7h12v2zM3 22l1.5-1.5L6 22l1.5-1.5L9 " ++
    "22l1.5-1.5L12 22l1.5-1.5L15 22l1.5-1.5L18 22l1.5-1.5L21 22V2l-1.5 1.5L18 2l-1.5 1.5L15 " ++
    "2l-1.5 1.5L12 2l-1.5 1.5L9 2 7.5 3.5 6 2 4.5 3.5 3 2v20z"),
  ("local_offer", "M21.41 11.58l-9-9C12.05 2.22 11.55 2 11 2H4c-1.1 0-2 .9-2 2v7c0 .55.22 " ++
    "1.05.59 1.42l9 9c.36.36.86.58 1.41.58s1.05-.22 " ++
    "1.41-.59l7-7c.37-.36.59-.86.59-1.41s-.23-1.06-.59-1.42zM5.5 7C4.67 7 4 6.33 4 5.5S4.67 4 " ++
    "5.5 4 7 4.67 7 5.5 6.33 7 5.5 7z"),
  ("payment", "M20 4H4C2.89 4 2.01 4.89 2.01 6L2 18c0 1.11.89 2 2 2h16c1.11 0 2-.89 " ++
    "2-2V6c0-1.11-.89-2-2-2zM20 18H4v-6h16v6zm0-10H4V6h16v2z"),
  ("redeem", "M20 6h-2.18c.11-.31.18-.65.18-1 0-1.66-1.34-3-3-3-1.05 0-1.96.54-2.5 " ++
    "1.35-.54-.81-1.45-1.35-2.5-1.35-1.66 0-3 1.34-3 3 0 .35.07.69.18 1H4c-1.11 0-1.99.89-1.99 " ++
    "2L2 19c0 1.11.89 2 2 2h16c1.11 0 2-.89 2-2V8c0-1.11-.89-2-2-2zm-5-2c.55 0 1 .45 1 1s-.45 " ++
    "1-1 1-1-.45-1-1 .45-1 1-1zM9 4c.55 0 1 .45 1 1s-.45 1-1 1-1-.45-1-1 .45-1 1-1zM20 " ++
    "19H4V8h16v11z"),
  ("play_arrow", "M8 5v14l11-7L8 5z"),
  ("pause", "M6 19h4V5H6v14zm8-14v14h4V5h-4z"),
  ("stop", "M6 6h12v12H6V6z"),
  ("skip_next", "M6 18l8.5-6L6 6v12zM16 6v12h2V6h-2z"),
  ("skip_previous", "M6 6h2v12H6V6zm3.5 6l8.5 6V6l-8.5 6z"),
  ("fast_forward", "M4 18l8.5-6L4 6v12zm9-12v12l8.5-6L13 6z"),
  ("fast_rewind", "M11 18V6l-8.5 6 8.5 6zm-2-6l6 6V6l-6 6z"),
  ("volume_up", "M3 9v6h4l5 5V4L7 9H3zm13.5 3c0-1.77-1.02-3.29-2.5-4.03v8.05c1.48-.73 2.5-2.25 " ++
    "2.5-4.02zM14 3.23v2.06c2.89.86 5 3.54 5 6.71s-2.11 5.85-5 6.71v2.06c4.01-.91 7-4.49 " ++
    "7-8.77s-2.99-7.86-7-8.77z"),
  ("volume_off", "M16.5 12c0-1.77-1.02-3.29-2.5-4.03v2.21l2.45 2.45c.03-.2.05-.41.05-.63zM12 " ++
    "4L7 9H3v6h4l5 5v-6.7l-4.28-4.28L12 4zM4 11H2v2h2v-2zm15.5 1.5c0 .21-.02.42-.05.63l1.39 " ++
    "1.39c.21-.5.36-1.02.46-1.57.14-1 .14-2.04 0-3.04-.1-.55-.25-1.07-.46-1.57L19.4 6.7c.83 " ++
    "1.38 1.1 2.97 1.1 4.8 0 .42-.02.85-.05 1.28l-2.02 2.02zM10.12 7.34l-1.42-1.42L12 " ++
    "4.17v.35L10.12 7.34zM8.55 7.5L5 4 3.6 5.4 20.6 22.4l1.4-1.4L8.55 7.5z"),
  ("shuffle", "M10.59 9.17L5.41 4 4 5.41l5.17 5.17 1.42-1.41zM14.5 4l2.04 2.04L4 18.59 5.41 20 " ++
    "17.96 7.46 20 9.5V4h-5.5zM18.59 13.41L13.41 18.59 14.83 20l5.17-5.17-1.42-1.42z"),
  ("repeat", "M7 7h10v3l4-4-4-4v3H5v6h2V7zm10 10H7v-3l-4 4 4 4v-3h12v-6h-2v4z"),
  ("flight", "M21 16v-2l-8-5V3.5c0-.83-.67-1.5-1.5-1.5S10 2.67 10 3.5V9l-8 5v2l8-2.5V19l-2 " ++
    "1.5V22l3.5-1 3.5 1v-1.5L13 19v-5.5l8 2.5z"),
  ("directions_car", "M18.92 6.01C18.72 5.42 18.16 5 17.5 5h-11c-.66 0-1.21.42-1.42 1.01L3 " ++
    "12v8c0 .55.45 1 1 1h1c.55 0 1-.45 1-1v-1h12v1c0 .55.45 1 1 1h1c.55 0 1-.45 " ++
    "1-1v-8l-2.08-5.99zM6.5 16c-.83 0-1.5-.67-1.5-1.5S5.67 13 6.5 13s1.5.67 1.5 1.5S7.33 16 6.5 " ++
    "16zm11 0c-.83 0-1.5-.67-1.5-1.5s.67-1.5 1.5-1.5 1.5.67 1.5 1.5S18.33 16 17.5 16zM5 " ++
    "11l1.5-4.5h11L19 11H5z"),
  ("train", "M12 2c-4 0-8 .5-8 4v9.5C4 17.43 5.57 19 7.5 19L6 20.5v.5h12v-.5L16.5 19c1.93 0 " ++
    "3.5-1.57 3.5-3.5V6c0-3.5-4-4-8-4zM7.5 17c-.83 0-1.5-.67-1.5-1.5S6.67 14 7.5 14s1.5.67 1.5 " ++
    "1.5S8.33 17 7.5 17zm9 0c-.83 0-1.5-.67-1.5-1.5s.67-1.5 1.5-1.5 1.5.67 1.5 1.5S17.33 17 " ++
    "16.5 17zM18 10H6V7h12v3z"),
  ("map", "M20.5 3l-.16.03L15 5.1 9 3l-6.32 2.11C2.29 5.25 2 5.58 2 6v13c0 " ++
    ".3.15.58.42.79l.16.09L8 21l6-2.05 " ++
    "6.32-2.11c.39-.13.68-.49.68-.9V4c0-.3-.15-.58-.42-.79L20.5 3zM15 17.9l-6 " ++
    "2.05V7.1l6-2.05v12.85z"),
  ("pin_drop", "M12 2C8.13 2 5 5.13 5 9c0 5.25 7 13 7 13s7-7.75 7-13c0-3.87-3.13-7-7-7zm0 " ++
    "9.5c-1.38 0-2.5-1.12-2.5-2.5s1.12-2.5 2.5-2.5 2.5 1.12 2.5 2.5-1.12 2.5-2.5 2.5z"),
  ("navigation", "M12 2L4.5 20.29l.71.71L12 18l6.79 3 .71-.71L12 2z"),
  ("share", "M18 16.08c-.76 0-1.44.3-1.96.77L8.91 " ++
    "12.7c.05-.23.09-.46.09-.7s-.04-.47-.09-.7l7.05-4.11c.54.5 1.25.81 2.04.81 1.66 0 3-1.34 " ++
    "3-3s-1.34-3-3-3-3 1.34-3 3c0 .24.04.47.09.7L8.04 8.81C7.5 8.31 6.79 8 6 8c-1.66 0-3 1.34-3 " ++
    "3s1.34 3 3 3c.79 0 1.5-.31 2.04-.81l7.12 4.16c-.05.21-.08.43-.08.65 0 1.66 1.34 3 3 " ++
    "3s3-1.34 3-3-1.34-3-3-3z"),
  ("thumb_up", "M1 21h4V9H1v12zm22-11c0-1.1-.9-2-2-2h-6.31l.95-4.57.03-.32c0-.4" ++
    "1-.17-.79-.44-1.06L14.17 1 7.59 7.59C7.22 7.95 7 8.45 7 9v10c0 1.1.9 2 2 2h9c.83 0 1.54-.5 " ++
    "1.84-1.22l3.02-7.05c.09-.23.14-.47.14-.73v-2z"),
  ("chat", "M20 2H4c-1.1 0-2 .9-2 2v18l4-4h14c1.1 0 2-.9 2-2V4c0-1.1-.9-2-2-2zm-2 " ++
    "12H6v-2h12v2zm0-3H6V9h12v2zm0-3H6V6h12v2z"),
  ("send", "M2.01 21L23 12 2.01 3 2 10l15 2-15 2 .01 7z"),
  ("logout", "M17 7l-1.41 1.41L18.17 11H8v2h10.17l-2.58 2.58L17 17l5-5-5-5zM4 5h8V3H4c-1.1 0-2 " ++
    ".9-2 2v14c0 1.1.9 2 2 2h8v-2H4V5z"),
  ("filter_list", "M10 18h4v-2h-4v2zM3 6v2h18V6H3zm3 7h12v-2H6v2z")]

def brands : List (String × String) := [
  ("google", "<svg xmlns=\"http://www.w3.org/2000/svg\" width=\"24\" height=\"24\" viewBox=\"0 " ++
    "0 24 24\"><circle cx=\"12\" cy=\"12\" r=\"10\" fill=\"#FFFFFF\"/><path d=\"M17.6 " ++
    "11.2H12v2.4h3.2c-.3 1.5-1.6 2.6-3.2 2.6-1.9 0-3.4-1.6-3.4-3.6s1.5-3.6 3.4-3.6c.9 0 1.6.3 " ++
    "2.2.8l1.7-1.7C14.8 7.2 13.5 6.6 12 6.6c-3 0-5.6 2.5-5.6 5.6s2.5 5.6 5.6 5.6c3.2 0 5.7-2.3 " ++
    "5.7-5.7 0-.3 0-.6-.1-.9z\" fill=\"#4285F4\"/></svg>"),
  ("apple", "<svg xmlns=\"http://www.w3.org/2000/svg\" width=\"24\" height=\"24\" viewBox=\"0 0 " ++
    "24 24\"><rect x=\"2\" y=\"2\" width=\"20\" height=\"20\" rx=\"6\" fill=\"#000000\"/><path " ++
    "d=\"M15.1 12.4c0-1.5 1.2-2.2 1.3-2.3-.7-1-1.8-1.2-2.2-1.2-.9-.1-1.8.6-2.3.6-.5 " ++
    "0-1.2-.5-2-.5-1 0-2 .6-2.5 1.5-1.1 1.9-.3 4.6.8 6.1.5.7 1.1 1.6 1.9 1.5.8 0 1-.5 " ++
    "2-.5s1.2.5 2 .5c.8 0 1.3-.8 1.8-1.5.6-.8.8-1.6.8-1.7 0 0-1.6-.6-1.6-2.5zM13.6 " ++
    "7.9c.4-.5.7-1.2.6-1.9-.6 0-1.3.4-1.8.9-.4.4-.7 1.1-.6 1.8.7.1 1.4-.3 1.8-.8z\" " ++
    "fill=\"#FFFFFF\"/></svg>"),
  ("facebook", "<svg xmlns=\"http://www.w3.org/2000/svg\" width=\"24\" height=\"24\" " ++
    "viewBox=\"0 0 24 24\"><rect x=\"2\" y=\"2\" width=\"20\" height=\"20\" rx=\"4\" " ++
    "fill=\"#1877F2\"/><path d=\"M15.1 22v-7h2.3l.4-2.8h-2.7v-1.8c0-.8.2-1.3 " ++
    "1.4-1.3h1.4V6.6c-.3 0-1.1-.1-2.1-.1-2.1 0-3.5 1.3-3.5 3.6v2.1H10V15h2.3v7z\" " ++
    "fill=\"#FFFFFF\"/></svg>")]

def glyphs : List (String × String) :=
  glyphData.map fun (name, data) => (name, glyph "24px" "#000000" data)

end Wireframe.Icon
