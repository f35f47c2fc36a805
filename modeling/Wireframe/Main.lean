import Wireframe.Cli.Command

namespace Wireframe

/-- The files and the standard input of the process. No installed faces are known to it. -/
def processHost : Cli.Host IO where
  fileText path := do
    try
      let text ← IO.FS.readFile path
      pure (some text)
    catch _ => pure none
  inputText := do
    let stdin ← IO.getStdin
    stdin.readToEnd
  installedFaces := pure []

end Wireframe

def main (arguments : List String) : IO UInt32 := do
  let result ← Wireframe.Cli.run Wireframe.processHost arguments
  for message in result.messages do
    IO.eprintln message
  IO.print result.output
  pure (UInt32.ofNat result.exit.code)
