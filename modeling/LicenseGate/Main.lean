import LicenseGate.Simulation

/-!
The command line: `[settings] [--licensed]`. Runs the simulation and prints its summary.
-/

namespace LicenseGate

def readFile (path : String) : IO (Except ReadFault (List UInt8)) := do
  try
    let bytes ← IO.FS.readBinFile path
    return .ok bytes.toList
  catch fault =>
    return .error <| match fault with
      | .noFileOrDirectory _ _ _ => .notFound
      | .inappropriateType _ code _ => if code = 21 then .isADirectory else .notADirectory
      | other => .other (toString other)

end LicenseGate

open LicenseGate in
def main (words : List String) : IO UInt32 := do
  let contents ←
    match (Simulation.Arguments.ofList words).path with
    | none => pure (.error ReadFault.notFound)
    | some path => readFile path
  let outcome := Simulation.command .on words fun _ => contents
  IO.print outcome.output
  IO.eprint outcome.errors
  return outcome.status
