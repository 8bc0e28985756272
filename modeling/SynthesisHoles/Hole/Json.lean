import SynthesisHoles.Hole.Table
import SynthesisHoles.Text.Json

/-!
# Holes as JSON

An integer that fits a signed machine word is written as a number, any other as a string of its
digits. Types are written by their names, arrays and structures as an object of one member.
-/

namespace SynthesisHoles

open Text (JsonValue)

/-- A type as JSON. -/
def DataType.json : DataType → JsonValue
  | .void => .string "VoidT"
  | .bit => .string "BitT"
  | .int => .string "IntT"
  | .char => .string "CharT"
  | .double => .string "DoubleT"
  | .string => .string "StrT"
  | .array item => .object [("ArrayT", item.json)]
  | .struct name => .object [("StructT", .string name)]

/-- Whether an integer fits a signed machine word. -/
def fitsSignedWord (value : Int) : Bool :=
  -0x8000000000000000 ≤ value && value < 0x8000000000000000

/-- A literal as JSON. -/
def Literal.json : Literal → JsonValue
  | .int value => if fitsSignedWord value then .number value else .string (toString value)
  | .bool value => .boolean value
  | .char value => .string (String.singleton value)

/-- A hole as JSON. -/
def Hole.json (hole : Hole) : JsonValue :=
  .object
    [("index", .number hole.index), ("value", hole.value.json), ("ty", hole.type.json),
      ("line", .number hole.line)]

/-- A run of holes as JSON. -/
def HoleRun.json (run : HoleRun) : JsonValue :=
  .object [("start", .number run.start), ("consts", .list (run.holes.map Hole.json))]

/-- A table of holes as JSON. -/
def HoleTable.json (table : HoleTable) : JsonValue :=
  .object [("first", .number table.first), ("holes", .list (table.holes.map Hole.json))]

end SynthesisHoles
