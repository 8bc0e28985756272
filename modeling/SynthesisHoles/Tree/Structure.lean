import SynthesisHoles.Failure
import SynthesisHoles.Tree.Program

/-!
# Well-formed trees

The header of a for-loop needs a condition, and its initializer and its update have to be simple
statements. Everything else is well formed by construction. A tree is validated node by node, each
node before its children, and the first node that is not well formed is the error.
-/

namespace SynthesisHoles

/-- Whether the statement may stand in the header of a for-loop. -/
def Statement.isSimple : Statement → Bool
  | .declare .. => true
  | .assign .. => true
  | .evaluate .. => true
  | .empty _ => true
  | _ => false

/-- Checks that an optional statement is missing or simple. -/
def requireSimple
    (line : Nat)
    (reason : String) :
    Option Statement → Except ProgramError Unit
  | none => .ok ()
  | some statement =>
      if statement.isSimple then
        .ok ()
      else
        .error (.malformedTree "for-loop" reason line)

/-- Checks the header of a for-loop: first its condition, then its initializer, then its update. -/
def checkHeader
    (line : Nat)
    (initial : Option Statement)
    (condition : Option Expression)
    (update : Option Statement) :
    Except ProgramError Unit := do
  if condition.isNone then
    throw (.malformedTree "for-loop" "missing condition" line)
  requireSimple line "initializer is not a simple statement" initial
  requireSimple line "update is not a simple statement" update

/-- Checks a statement, but not the statements it is made of. -/
def Statement.checkNode : Statement → Except ProgramError Unit
  | .forLoop line initial condition update _ => checkHeader line initial condition update
  | _ => .ok ()

mutual

/-- Checks a statement and all that it is made of. -/
def Statement.validate : Statement → Except ProgramError Unit
  | .block _ body => body.validate
  | .declare .. => .ok ()
  | .assign .. => .ok ()
  | .evaluate .. => .ok ()
  | .branch _ _ consequent alternative => do
      consequent.validate
      Statement.validateOption alternative
  | .whileLoop _ _ body => Statement.validateOption body
  | .doWhile _ body _ => Statement.validateOption body
  | .forLoop line initial condition update body => do
      checkHeader line initial condition update
      Statement.validateOption initial
      Statement.validateOption update
      Statement.validateOption body
  | .returnWith .. => .ok ()
  | .assertion .. => .ok ()
  | .breakLoop _ => .ok ()
  | .continueLoop _ => .ok ()
  | .empty _ => .ok ()

/-- Checks the statements of a block in order. -/
def Block.validate : Block → Except ProgramError Unit
  | .mk _ statements => Statement.validateList statements

def Statement.validateOption : Option Statement → Except ProgramError Unit
  | none => .ok ()
  | some statement => statement.validate

def Statement.validateList : List Statement → Except ProgramError Unit
  | [] => .ok ()
  | first :: rest => do
      first.validate
      Statement.validateList rest

end

end SynthesisHoles
