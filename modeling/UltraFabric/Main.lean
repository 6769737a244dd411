/-
# UltraFabric.Main — the program

Reads the files that a command line names, makes the run, stores the image and says how it went. The
exit code is 0 after a run that succeeded, 1 after one that failed, and 2 when the command line
cannot be understood.
-/
import UltraFabric.Command

namespace UltraFabric

set_option autoImplicit false

/-- How the program is called. -/
def usage : String :=
  "Usage: ultrafabric [OPTIONS] <CHIP> <NETLIST>

  --raw                the chip is stored as it is, not compressed
  --uarch <NAME>       architecture, ng-ultra unless given
  --records <FILE>     constraints on banks and pads
  -o, --option <TEXT>  KEY=VALUE, a setting of the architecture
  --bitstream <FILE>   where to store the configuration image
  -h, --help           print this text
  -V, --version        print the version"

def version : String := "ultrafabric 0.1.0"

/-- The files that a request reads. -/
def Request.paths (request : Request) : List String :=
  request.chip :: request.netlist :: request.records.toList

/-- A file, if it can be opened. -/
def readFile? (path : String) : IO (Option StoredFile) := do
  match ← (IO.FS.Handle.mk path .read).toBaseIO with
  | .error _ => return none
  | .ok handle =>
    try return some (.ofBytes (← handle.readBinToEnd)) catch _ => return some .unreadable

/-- Stores an image, and whether that was possible. -/
def store (output : Output) : IO Bool := do
  try
    IO.FS.writeFile output.path output.contents
    return true
  catch _ => return false

/-- Does what a request asks for and gives the exit code. -/
def Request.perform (request : Request) : IO UInt32 := do
  let files ← request.paths.mapM fun path => do return (path, ← readFile? path)
  match request.run fun path => (files.lookup path).join with
  | .error _ =>
    IO.eprintln "the request is about something that is not there"
    return 101
  | .ok (result, notices) =>
    let stored ←
      match result with
      | .ok (some output) => store output
      | _ => pure false
    let ending := Ending.ofRun result notices stored
    for line in ending.lines do
      IO.eprintln line
    return if ending.succeeded then 0 else 1

end UltraFabric

open UltraFabric in
def main (arguments : List String) : IO UInt32 := do
  match Command.parse arguments with
  | .request request => request.perform
  | .help =>
    IO.println usage
    return 0
  | .version =>
    IO.println version
    return 0
  | .misuse =>
    IO.eprintln usage
    return 2
