/-
The program: runs the command line on the files of the working directory.
-/
import Switchboard.Cli

namespace Switchboard

def readText (path : Text) : IO (Except ReadFault Text) := do
  try
    let bytes ← IO.FS.readBinFile path.str
    pure (textOfBytes bytes.toList)
  catch _ => pure (.error .notFound)

end Switchboard

open Switchboard

/-- Runs the program. A start asks for the settings file and then for the manifest that it names. The events of the
start are not written: no logger is installed. -/
def main (arguments : List String) : IO UInt32 := do
  let arguments := arguments.map String.toList
  let files : Cli.Files ← match Invocation.ofArguments arguments with
    | .start config _ => do
      let settings ← readText config
      let file := match Settings.load config settings with
        | .ok s => s.routing.manifestFile
        | .error _ => []
      let manifest ← readText file
      pure fun path => if path = config then settings else manifest
    | _ => pure fun _ => .error .notFound
  match Cli.run files arguments with
  | .exited status _ output error =>
    IO.print output.str
    if let some e := error then IO.eprintln e.message.str
    pure status.toUInt32
  | .serving server _ =>
    IO.eprintln (Text.str ("ready to serve on " ++ server.handle.bindAddress))
    pure 0
