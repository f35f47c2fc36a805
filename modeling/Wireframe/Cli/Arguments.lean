namespace Wireframe.Cli

inductive Setting where
  | device
  | prompt
  | config
  deriving DecidableEq, Repr

inductive Switch where
  | systemFonts
  | describe
  | verbose
  deriving DecidableEq, Repr

structure Arguments where
  input : Option String
  device : Option String
  prompt : Option String
  config : Option String
  systemFonts : Bool
  describe : Bool
  verbose : Bool
  deriving DecidableEq, Repr

namespace Arguments

def none : Arguments := ⟨.none, .none, .none, .none, false, false, false⟩

def once (old : Option String) (value : String) : Option (Option String) :=
  if old.isSome then .none else some (some value)

def oncePath (old : Option String) (path : String) : Option (Option String) :=
  if path = "" then .none else once old path

def setInput (path : String) (arguments : Arguments) : Option Arguments :=
  (oncePath arguments.input path).map fun input => { arguments with input }

def set (setting : Setting) (value : String) (arguments : Arguments) : Option Arguments :=
  match setting with
  | .device => (once arguments.device value).map fun device => { arguments with device }
  | .prompt => (once arguments.prompt value).map fun prompt => { arguments with prompt }
  | .config => (oncePath arguments.config value).map fun config => { arguments with config }

def turnOn (switch : Switch) (arguments : Arguments) : Option Arguments :=
  match switch with
  | .systemFonts =>
      if arguments.systemFonts then .none else some { arguments with systemFonts := true }
  | .describe => if arguments.describe then .none else some { arguments with describe := true }
  | .verbose => if arguments.verbose then .none else some { arguments with verbose := true }

end Arguments

inductive Flag where
  | setting (setting : Setting)
  | switch (switch : Switch)
  deriving DecidableEq, Repr

def Flag.ofLong? (name : List Char) : Option Flag :=
  match String.ofList name with
  | "device" => some (.setting .device)
  | "prompt" => some (.setting .prompt)
  | "config" => some (.setting .config)
  | "system-fonts" => some (.switch .systemFonts)
  | "describe" => some (.switch .describe)
  | "verbose" => some (.switch .verbose)
  | _ => none

def Flag.ofShort? : Char → Option Flag
  | 'd' => some (.setting .device)
  | 'p' => some (.setting .prompt)
  | 'c' => some (.setting .config)
  | 'v' => some (.switch .verbose)
  | _ => none

/-- One argument by itself: a path, the end of the settings, switches, or switches before a setting
with its value or without it. -/
inductive Argument where
  | path (path : String)
  | endOfSettings
  | switches (switches : List Switch)
  | setting (switches : List Switch) (setting : Setting) (value : Option String)
  deriving DecidableEq, Repr

namespace Argument

def ofShorts? : List Char → Option Argument
  | [] => some (.switches [])
  | c :: rest =>
      match Flag.ofShort? c with
      | none => none
      | some (.setting named) =>
          match rest with
          | [] => some (.setting [] named none)
          | '=' :: value => some (.setting [] named (some (String.ofList value)))
          | value => some (.setting [] named (some (String.ofList value)))
      | some (.switch switch) =>
          match ofShorts? rest with
          | some (.switches others) => some (.switches (switch :: others))
          | some (.setting others named value) => some (.setting (switch :: others) named value)
          | _ => none

def ofLong? (text : List Char) : Option Argument :=
  let name := text.takeWhile (· ≠ '=')
  match Flag.ofLong? name, text.drop name.length with
  | some (.setting named), [] => some (.setting [] named none)
  | some (.setting named), _ :: value =>
      some (.setting [] named (some (String.ofList value)))
  | some (.switch switch), [] => some (.switches [switch])
  | _, _ => none

def ofText? (text : String) : Option Argument :=
  match text.toList with
  | ['-', '-'] => some .endOfSettings
  | '-' :: '-' :: name => ofLong? name
  | '-' :: c :: rest => ofShorts? (c :: rest)
  | _ => some (.path text)

end Argument

namespace Arguments

def isValue (text : String) : Bool :=
  match text.toList with
  | '-' :: _ :: _ => false
  | _ => true

def turnAllOn : List Switch → Arguments → Option Arguments
  | [], arguments => some arguments
  | switch :: rest, arguments => (arguments.turnOn switch).bind (turnAllOn rest)

def readPaths : List String → Arguments → Option Arguments
  | [], arguments => some arguments
  | path :: rest, arguments => (arguments.setInput path).bind (readPaths rest)

def read : List String → Arguments → Option Arguments
  | [], arguments => some arguments
  | text :: rest, arguments =>
      match Argument.ofText? text with
      | .none => .none
      | some (.path path) => (arguments.setInput path).bind (read rest)
      | some .endOfSettings => readPaths rest arguments
      | some (.switches switches) => (turnAllOn switches arguments).bind (read rest)
      | some (.setting switches setting (some value)) =>
          ((turnAllOn switches arguments).bind (set setting value)).bind (read rest)
      | some (.setting switches setting .none) =>
          match rest with
          | [] => .none
          | value :: rest =>
              if isValue value then
                ((turnAllOn switches arguments).bind (set setting value)).bind (read rest)
              else .none

def ofList? (texts : List String) : Option Arguments := read texts none

end Arguments

end Wireframe.Cli
