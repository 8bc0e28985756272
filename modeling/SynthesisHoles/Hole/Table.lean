import SynthesisHoles.Hole.Basic

/-!
# The table of holes

A table collects successive runs of holes. A run has to start exactly at the next index of the
table: one that starts before would give an index out twice, and one that starts after would leave
indices out.
-/

namespace SynthesisHoles

/-- All the holes of a program, numbered consecutively from the first. -/
structure HoleTable where
  first : Nat := 0
  holes : List Hole := []
  deriving DecidableEq

namespace HoleTable

instance : Inhabited HoleTable :=
  ⟨{}⟩

/-- The table of no hole whose first hole is to have an index. -/
def startingAt (first : Nat) : HoleTable :=
  ⟨first, []⟩

/-- Index of the next hole. -/
def nextIndex (table : HoleTable) : Except Fault Nat :=
  indexAfter table.first table.holes.length

/-- Number of holes. -/
def size (table : HoleTable) : Nat :=
  table.holes.length

/-- Hole of an index. -/
def hole? (table : HoleTable) (index : Nat) : Option Hole :=
  holeAt? table.first table.holes index

/-- The table with the holes of a run, which has to start at the next index of the table. -/
def absorb
    (table : HoleTable)
    (run : HoleRun) :
    Except Failure HoleTable := do
  let expected ← table.nextIndex
  if run.start < expected then
    throw (.rejected (.duplicateIndex expected run.start))
  if expected < run.start then
    throw (.rejected (.indexGap expected run.start))
  return { table with holes := table.holes ++ run.holes }

/-- Printed form: a line for each hole. -/
def text (table : HoleTable) : String :=
  String.join (table.holes.map fun hole => hole.text ++ "\n")

end HoleTable

end SynthesisHoles
