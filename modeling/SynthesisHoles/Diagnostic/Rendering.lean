import SynthesisHoles.Diagnostic.Basic

/-!
# Rendered diagnostics

A diagnostic is a header line, a bullet for each note, and a blank line. The lines of a note after
its first are indented below the text of the first.
-/

namespace SynthesisHoles

/-- Drops a carriage return at the end of a line. -/
def dropCarriageReturn (line : List Char) : List Char :=
  if line.getLast? = some '\r' then line.dropLast else line

/--
Lines of a text, the current line being given so far in reverse. A line ends with a line feed, with or
without a carriage return before it; what follows the last line feed is a line if it is not empty.
-/
def linesFrom : List Char → List Char → List (List Char)
  | [], [] => []
  | current, [] => [current.reverse]
  | current, '\n' :: rest => dropCarriageReturn current.reverse :: linesFrom [] rest
  | current, character :: rest => linesFrom (character :: current) rest

/-- Lines of a text, without their ends. -/
def linesOf (text : String) : List String :=
  (linesFrom [] text.toList).map String.ofList

/-- Rendered form of a note. -/
def renderNote (note : String) : String :=
  match linesOf note with
  | [] => ""
  | first :: rest =>
      " = " ++ first ++ "\n" ++ String.join (rest.map fun line => "   " ++ line ++ "\n")

/-- Code in brackets, if there is one. -/
def renderCode : Option String → String
  | none => ""
  | some code => if code.isEmpty then "" else "[" ++ code ++ "]"

/-- Rendered form of a diagnostic. -/
def Diagnostic.render (diagnostic : Diagnostic) : String :=
  diagnostic.severity.text ++ renderCode diagnostic.code ++ ": " ++ diagnostic.message ++ "\n"
    ++ String.join (diagnostic.notes.map renderNote)
    ++ "\n"

end SynthesisHoles
