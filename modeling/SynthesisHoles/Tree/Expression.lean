import SynthesisHoles.Tree.Literal

/-!
# Expressions and places

An expression may hold literals and holes; a hole stands for the literal of its index. Operators are
calls. A place is what an assignment writes to. Both list the variables they mention in reading
order, with repetitions.
-/

namespace SynthesisHoles

/-- An expression of the language. -/
inductive Expression
  | literal (value : Literal)
  | hole (index : Nat)
  | var (name : String)
  | field (base : Expression) (member : String)
  | element (base position : Expression)
  | array (items : List Expression)
  | call (callee : String) (arguments : List Expression)
  | conditional (condition whenTrue whenFalse : Expression)

namespace Expression

instance : Inhabited Expression :=
  ⟨.hole 0⟩

/-- Whether the expression is a literal constant. -/
def isLiteral : Expression → Bool
  | .literal _ => true
  | _ => false

mutual

/-- Variables of the expression in reading order, with repetitions. -/
def variableNames : Expression → List String
  | .literal _ => []
  | .hole _ => []
  | .var name => [name]
  | .field base _ => base.variableNames
  | .element base position => base.variableNames ++ position.variableNames
  | .array items => variableNamesOfList items
  | .call _ arguments => variableNamesOfList arguments
  | .conditional condition whenTrue whenFalse =>
      condition.variableNames ++ (whenTrue.variableNames ++ whenFalse.variableNames)

def variableNamesOfList : List Expression → List String
  | [] => []
  | first :: rest => first.variableNames ++ variableNamesOfList rest

end

/-- Variable that a chain of members and elements starts from, if it starts from one. -/
def root? : Expression → Option String
  | .var name => some name
  | .field base _ => base.root?
  | .element base _ => base.root?
  | _ => none

end Expression

/-- What an assignment writes to. -/
inductive Place
  | var (name : String)
  | element (base position : Expression)
  | field (base : Expression) (member : String)

namespace Place

/-- Variables of the place in reading order, with repetitions. -/
def variableNames : Place → List String
  | .var name => [name]
  | .element base position => base.variableNames ++ position.variableNames
  | .field base _ => base.variableNames

/-- Variable whose contents the place is a part of, if there is one. -/
def root? : Place → Option String
  | .var name => some name
  | .element base _ => base.root?
  | .field base _ => base.root?

end Place

end SynthesisHoles
