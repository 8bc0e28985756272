import SynthesisHoles.CommandLine.Run

/-!
# The program

Writes the texts of a run to their streams and ends with its exit code.
-/

open SynthesisHoles

def main (arguments : List String) : IO UInt32 := do
  let result := CommandLine.run arguments
  (← IO.getStderr).putStr result.errors
  (← IO.getStdout).putStr result.output
  return result.exitCode.toUInt32
