import SynthesisHoles.Scope.Arena
import SynthesisHoles.Tree.Structure

/-!
# Scopes of statements, blocks and functions

Each statement, block and function says which scope holds after it, given the scope before it. Only a
declaration makes a new one; blocks, branches and loops keep their declarations to themselves. The
inner scope of a block or a function is the one at its end, with all that is declared directly in it.

A tree that is not well formed is rejected when it is met, so the frames made for the statements
before it stay in the arena.
-/

namespace SynthesisHoles

/-- A scope or the reason why there is none, and the arena in either case. -/
abbrev ScopeResult :=
  Except Fault (Except ProgramError Handle × Arena)

/-- Scope after a statement. -/
def Statement.scopeAfter
    (statement : Statement)
    (scope : Handle)
    (arena : Arena) :
    ScopeResult :=
  match statement.validate with
  | .error error => .ok (.error error, arena)
  | .ok () =>
      match statement.asDeclaration? with
      | some (binding, _) => do
          let (extended, arena) ← arena.declare scope binding
          return (.ok extended, arena)
      | none => .ok (.ok scope, arena)

/-- Scope after several statements, each in the scope after those before it. -/
def Statement.scopeAfterList :
    List Statement → Handle → Arena → ScopeResult
  | [], scope, arena => .ok (.ok scope, arena)
  | first :: rest, scope, arena => do
      match ← first.scopeAfter scope arena with
      | (.ok next, arena) => Statement.scopeAfterList rest next arena
      | (.error error, arena) => return (.error error, arena)

/-- Scope after a block, which is the one before it. -/
def Block.scopeAfter
    (block : Block)
    (scope : Handle)
    (arena : Arena) :
    ScopeResult :=
  match block.validate with
  | .error error => .ok (.error error, arena)
  | .ok () => .ok (.ok scope, arena)

/-- Scope at the end of a block. -/
def Block.innerScope
    (block : Block)
    (scope : Handle)
    (arena : Arena) :
    ScopeResult := do
  let (inner, arena) ← arena.child scope
  Statement.scopeAfterList block.statements inner arena

/-- Scope in which the body of a function runs. -/
def FunctionDefinition.parameterScope
    (definition : FunctionDefinition)
    (scope : Handle)
    (arena : Arena) :
    Except Fault (Handle × Arena) :=
  arena.extend scope definition.parameters

/-- Scope at the end of the body of a function. -/
def FunctionDefinition.innerScope
    (definition : FunctionDefinition)
    (scope : Handle)
    (arena : Arena) :
    ScopeResult := do
  let (parameters, arena) ← definition.parameterScope scope arena
  definition.body.innerScope parameters arena

end SynthesisHoles
