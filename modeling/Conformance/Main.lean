import Conformance.CommandLine.Run

namespace Conformance

/-!
# The program

The program runs the command that its arguments ask for on the files of the
system.  It is handed its arguments as texts, and files are found under texts only.
-/

/-- The text of a file, nothing if it cannot be read. -/
def readSystemFile (path : SystemText) : IO (Option String) := do
  match path.toString? with
  | none => return none
  | some name =>
      try
        return some (← IO.FS.readFile name)
      catch _ => return none

/-- Writes a file and answers whether that succeeded. -/
def writeSystemFile (path : SystemText) (text : String) : IO Bool := do
  match path.toString? with
  | none => return false
  | some name =>
      try
        IO.FS.writeFile name text
        return true
      catch _ => return false

/-- How arguments are written. -/
def usageText : String :=
  "Usage: conformance [-v] [-d] <validate|types|show> --schema <file> [options] [inputs]"

end Conformance

/-- Runs the command that the arguments ask for. -/
def main (arguments : List String) : IO UInt32 := do
  let outcome ←
    Conformance.CommandLine.run ⟨Conformance.readSystemFile, Conformance.writeSystemFile⟩
      (arguments.map Conformance.SystemText.ofString)
  IO.print outcome.output
  match outcome.error with
  | some error => IO.eprintln ("Error: " ++ error)
  | none => if outcome.status = 2 then IO.eprintln Conformance.usageText
  return UInt32.ofNat outcome.status
