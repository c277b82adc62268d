import Permalink.Command.Log
import Permalink.Command.Run

set_option autoImplicit false

/-!
The variables are those of the process; no file is read for more of them. Of the log, only the
message that ends a run is written, in the one format of a terminal.
-/

open Permalink Permalink.Command

def readVariable (name : String) : IO (Option (List UInt8)) := do
  return (← IO.getEnv name).map (·.toUTF8.data.toList)

def main (arguments : List String) : IO UInt32 := do
  let environment : Environment :=
    { format := ← readVariable Settings.formatVariable
      sanitize := ← readVariable Settings.sanitizeVariable
      stripTracking := ← readVariable Settings.stripTrackingVariable }
  let arguments := arguments.map (·.toUTF8.data.toList)
  let needsInput := match readArguments? arguments with
    | some (.report options) => options.links.isEmpty
    | _ => false
  let stdin ← if needsInput then (← IO.getStdin).readBinToEnd else pure ByteArray.empty
  let outcome := run arguments environment stdin.data.toList
  IO.print outcome.stdout
  if let some failure := outcome.failure then
    if Log.showsErrors "linkview" (← readVariable "RUST_LOG") then
      IO.eprintln ("Fatal error: " ++ Log.shown failure.message)
  if readArguments? arguments = none then
    IO.eprint helpText
  return UInt32.ofNat outcome.code
