import SynthesisHoles.Text.Alphanumeric
import SynthesisHoles.Tree.Expression

/-!
# Printed expressions and places

Operators are printed between or before their operands, other calls as a name with a list of
arguments. A call is an operator if its name starts with neither an alphanumeric character nor an
underscore.
-/

namespace SynthesisHoles

/-- Whether a call of this name is printed as an operator. -/
def isOperator (callee : String) : Bool :=
  match callee.toList with
  | [] => false
  | first :: _ => !(Text.isAlphanumeric first || first = '_')

/-- Printed form of a call, from those of its arguments. -/
def callText (callee : String) (arguments : List String) : String :=
  if isOperator callee then
    match arguments with
    | [operand] => callee ++ operand
    | [left, right] => "(" ++ left ++ " " ++ callee ++ " " ++ right ++ ")"
    | _ => "(" ++ callee ++ " " ++ String.intercalate " " arguments ++ ")"
  else
    callee ++ "(" ++ String.intercalate ", " arguments ++ ")"

mutual

/-- Printed form of an expression. -/
def Expression.text : Expression → String
  | .literal value => value.text
  | .hole index => "??" ++ toString index
  | .var name => name
  | .field base member => base.text ++ "." ++ member
  | .element base position => base.text ++ "[" ++ position.text ++ "]"
  | .array items => "\x7b" ++ String.intercalate ", " (Expression.textsOfList items) ++ "\x7d"
  | .call callee arguments => callText callee (Expression.textsOfList arguments)
  | .conditional condition whenTrue whenFalse =>
      "(" ++ condition.text ++ " ? " ++ whenTrue.text ++ " : " ++ whenFalse.text ++ ")"

def Expression.textsOfList : List Expression → List String
  | [] => []
  | first :: rest => first.text :: Expression.textsOfList rest

end

/-- Printed form of a place. -/
def Place.text : Place → String
  | .var name => name
  | .element base position => base.text ++ "[" ++ position.text ++ "]"
  | .field base member => base.text ++ "." ++ member

end SynthesisHoles
