import SynthesisHoles.Failure
import SynthesisHoles.Tree.Literal

/-!
# Holes

A hole keeps the literal whose place it took. Holes are numbered by consecutive machine words: a run
of holes starts at some index, and its next index has to fit a machine word whenever it is asked for.
-/

namespace SynthesisHoles

/-- A hole: its index, the literal that stood there, its type, and the line of the statement. -/
structure Hole where
  index : Nat
  value : Literal
  type : DataType
  line : Nat
  deriving DecidableEq

/-- Printed form of a hole. -/
def Hole.text (hole : Hole) : String :=
  "??" ++ toString hole.index ++ " : " ++ hole.type.text ++ " = " ++ hole.value.text
    ++ " (line " ++ toString hole.line ++ ")"

/-- Indices are below this bound, two to the power of sixty-four. -/
def indexBound : Nat :=
  0x10000000000000000

/-- Index that comes a number of places after a start, if it fits a machine word. -/
def indexAfter (start count : Nat) : Except Fault Nat :=
  if start + count < indexBound then
    .ok (start + count)
  else
    .error .indexOverflow

/-- Hole of an index in a list of holes numbered from a start. -/
def holeAt? (start : Nat) (holes : List Hole) (index : Nat) : Option Hole :=
  if start ≤ index then holes[index - start]? else none

/-- Holes numbered consecutively from a start: what one extraction yields. -/
structure HoleRun where
  start : Nat
  holes : List Hole
  deriving DecidableEq

namespace HoleRun

/-- The run of no hole that is to start at an index. -/
def startingAt (start : Nat) : HoleRun :=
  ⟨start, []⟩

/-- Index of the next hole. -/
def nextIndex (run : HoleRun) : Except Fault Nat :=
  indexAfter run.start run.holes.length

/-- Number of holes. -/
def size (run : HoleRun) : Nat :=
  run.holes.length

/-- Hole of an index. -/
def hole? (run : HoleRun) (index : Nat) : Option Hole :=
  holeAt? run.start run.holes index

/-- Indices given out, in order. -/
def indices (run : HoleRun) : List Nat :=
  run.holes.map Hole.index

/-- Index of a new hole for a literal, and the run with that hole. -/
def record
    (run : HoleRun)
    (value : Literal)
    (line : Nat) :
    Except Fault (Nat × HoleRun) := do
  let index ← run.nextIndex
  return (index, { run with holes := run.holes ++ [⟨index, value, value.type, line⟩] })

end HoleRun

end SynthesisHoles
