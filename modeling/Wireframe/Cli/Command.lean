import Wireframe.Catalog.Builtin
import Wireframe.Cli.Arguments
import Wireframe.Json.Printer
import Wireframe.Scene.Encoding
import Wireframe.Session.Basic
/-!
What the command does: it renders one tree into a new destination and prints the frame, or prints
the description of the catalog. Files and the standard input are reached through a host, so the
command runs the same against any of them.
-/

namespace Wireframe.Cli

/-- What the command asks of its surroundings. A file that cannot be read has no text. -/
structure Host (m : Type → Type) where
  fileText : String → m (Option String)
  inputText : m String
  installedFaces : m (List Font.Face)

inductive Exit where
  | success
  | failure
  | usage
  deriving DecidableEq, Repr

def Exit.code : Exit → Nat
  | .success => 0
  | .failure => 1
  | .usage => 2

structure Result where
  exit : Exit
  output : String
  messages : List String
  deriving DecidableEq

def Result.silent (exit : Exit) (messages : List String) : Result := ⟨exit, "", messages⟩

def defaultDevice : String := "Mobile"

def configuredFonts (config : Config) : FontProvider :=
  Font.ofFaces (config.fontFamilies.flatMap Font.family)

def render (env : Environment) (arguments : Arguments) (input : String) : Result :=
  let session := Session.new env .origin
  let (frame, session) := session.start env (arguments.prompt.getD "")
    (arguments.device.getD defaultDevice)
  match session.render env (.text input) with
  | (.error error, session) =>
      .silent .failure (session.notifications ++ ["Error: " ++ error.message])
  | (.ok _, session) =>
      { exit := .success
        output := match session.page.frame? frame with
          | some node => node.toJson.pretty ++ "\n"
          | none => ""
        messages := session.notifications }

variable {m : Type → Type} [Monad m]

def readConfig (host : Host m) (arguments : Arguments) : m (Option Config) :=
  match arguments.config with
  | none => pure (some .standard)
  | some path => do
      let text ← host.fileText path
      pure (text.bind fun text => (Config.ofText text).toOption)

def readTree (host : Host m) (arguments : Arguments) : m (Option String) :=
  match arguments.input with
  | none => do
      let text ← host.inputText
      pure (some text)
  | some path => host.fileText path

def runArguments (host : Host m) (arguments : Arguments) : m Result := do
  if arguments.describe then
    pure ⟨.success, Catalog.builtin.describe ++ "\n", []⟩
  else
    match ← readConfig host arguments with
    | none => pure (.silent .failure ["Error: the configuration could not be read"])
    | some config =>
        match ← readTree host arguments with
        | none => pure (.silent .failure ["Error: the input could not be read"])
        | some input => do
            let fonts ← if arguments.systemFonts then
                (do let faces ← host.installedFaces; pure (Font.ofDatabase faces))
              else pure (configuredFonts config)
            pure (render ⟨config, .builtin, fonts, .library⟩ arguments input)

def run (host : Host m) (texts : List String) : m Result :=
  match Arguments.ofList? texts with
  | none => pure (.silent .usage ["error: the arguments are not understood"])
  | some arguments => runArguments host arguments

end Wireframe.Cli
