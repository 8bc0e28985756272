import SynthesisHoles.Text.Quoted
import SynthesisHoles.Tree.DataType

/-!
# Literal constants

Integers of any size, bits and characters. Each sort has one type, which is also the type of the
hole that takes the place of such a literal.
-/

namespace SynthesisHoles

/-- A literal constant. -/
inductive Literal
  | int (value : Int)
  | bool (value : Bool)
  | char (value : Char)
  deriving DecidableEq

namespace Literal

/-- Type of the hole that takes the place of the literal. -/
def type : Literal → DataType
  | .int _ => .int
  | .bool _ => .bit
  | .char _ => .char

/-- Printed form: decimal, a truth word, or a quoted character. -/
def text : Literal → String
  | .int value => toString value
  | .bool value => if value then "true" else "false"
  | .char value => Text.quoteCharacter value

end Literal

end SynthesisHoles
