import SynthesisHoles.Tree.Expression

/-!
# Statements and blocks

A statement knows the line it comes from, and so does the opening brace of a block. The header of a
for-loop may lack a part or hold a statement that does not belong there: such trees can be built, and
`SynthesisHoles.Tree.Structure` says which of them are well formed.
-/

namespace SynthesisHoles

mutual

/-- A statement and its line. -/
inductive Statement
  /-- A nested block. -/
  | block (line : Nat) (body : Block)
  /-- A declaration, with or without an initial value. -/
  | declare (line : Nat) (binding : Binding) (initial : Option Expression)
  /-- An assignment. -/
  | assign (line : Nat) (place : Place) (value : Expression)
  /-- An expression whose value is dropped. -/
  | evaluate (line : Nat) (expression : Expression)
  /-- A choice between two statements, of which the second may be missing. -/
  | branch
      (line : Nat)
      (condition : Expression)
      (consequent : Statement)
      (alternative : Option Statement)
  /-- A loop that tests its condition before each turn. -/
  | whileLoop (line : Nat) (condition : Expression) (body : Option Statement)
  /-- A loop that tests its condition after each turn. -/
  | doWhile (line : Nat) (body : Option Statement) (condition : Expression)
  /-- A loop with a header of an initializer, a condition and an update. -/
  | forLoop
      (line : Nat)
      (initial : Option Statement)
      (condition : Option Expression)
      (update body : Option Statement)
  /-- A return, with or without a value. -/
  | returnWith (line : Nat) (value : Option Expression)
  /-- An assertion. -/
  | assertion (line : Nat) (condition : Expression)
  /-- Leaves the innermost loop. -/
  | breakLoop (line : Nat)
  /-- Goes on with the next turn of the innermost loop. -/
  | continueLoop (line : Nat)
  /-- The statement that does nothing. -/
  | empty (line : Nat)

/-- A sequence of statements, and the line of its opening brace. -/
inductive Block
  | mk (line : Nat) (statements : List Statement)

end

namespace Block

instance : Inhabited Block :=
  ⟨⟨0, []⟩⟩

/-- Line of the opening brace. -/
def line : Block → Nat
  | .mk line _ => line

/-- The statements in order. -/
def statements : Block → List Statement
  | .mk _ statements => statements

end Block

namespace Statement

instance : Inhabited Statement :=
  ⟨.empty 0⟩

/-- Line the statement comes from. -/
def line : Statement → Nat
  | .block line _ => line
  | .declare line _ _ => line
  | .assign line _ _ => line
  | .evaluate line _ => line
  | .branch line _ _ _ => line
  | .whileLoop line _ _ => line
  | .doWhile line _ _ => line
  | .forLoop line _ _ _ _ => line
  | .returnWith line _ => line
  | .assertion line _ => line
  | .breakLoop line => line
  | .continueLoop line => line
  | .empty line => line

/-- The statement seen as a declaration: what it declares and the initial value. -/
def asDeclaration? : Statement → Option (Binding × Option Expression)
  | .declare _ binding initial => some (binding, initial)
  | _ => none

/-- The statement seen as an assignment. -/
def asAssignment? : Statement → Option (Place × Expression)
  | .assign _ place value => some (place, value)
  | _ => none

/-- The statement seen as a block. -/
def asBlock? : Statement → Option Block
  | .block _ body => some body
  | _ => none

/-- The statement seen as a loop that tests after each turn. -/
def asDoWhile? : Statement → Option (Option Statement × Expression)
  | .doWhile _ body condition => some (body, condition)
  | _ => none

end Statement

mutual

/-- Number of statements that the statement expands into; a loop counts its body once. -/
def Statement.size : Statement → Nat
  | .block _ body => body.size
  | .declare .. => 1
  | .assign .. => 1
  | .evaluate .. => 1
  | .branch _ _ consequent alternative =>
      consequent.size + Statement.sizeOfOption alternative
  | .whileLoop _ _ body => Statement.sizeOfOption body
  | .doWhile _ body _ => Statement.sizeOfOption body
  | .forLoop _ _ _ _ body => Statement.sizeOfOption body
  | .returnWith .. => 1
  | .assertion .. => 1
  | .breakLoop _ => 1
  | .continueLoop _ => 1
  | .empty _ => 0

/-- Size of a block: the sum over its statements. -/
def Block.size : Block → Nat
  | .mk _ statements => Statement.sizeOfList statements

/-- Size of an optional statement, which is zero if the statement is missing. -/
def Statement.sizeOfOption : Option Statement → Nat
  | none => 0
  | some statement => statement.size

def Statement.sizeOfList : List Statement → Nat
  | [] => 0
  | first :: rest => first.size + Statement.sizeOfList rest

end

end SynthesisHoles
