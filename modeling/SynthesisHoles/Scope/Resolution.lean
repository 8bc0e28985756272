import SynthesisHoles.Diagnostic.Basic
import SynthesisHoles.Scope.Construction
import SynthesisHoles.Text.Ordinal

/-!
# Name resolution

Resolution walks a program with its scopes and lists what is wrong: each use of a variable that is not
visible, each for-loop whose header is not well formed, and on request each declaration that hides a
visible variable. A function sees its parameters only. The frames made for a block or a loop are
discarded at its end, those of a function at the end of the function.
-/

namespace SynthesisHoles

/-- Position of a statement in the innermost block around it. -/
structure Position where
  index : Nat
  blockLine : Nat

/-- Note that gives the position of a statement. -/
def Position.note (position : Position) : String :=
  "in the " ++ Text.ordinal (position.index + 1) ++ " statement of the block at line "
    ++ toString position.blockLine

/-- Note about the position, if there is one. -/
def positionNotes (position : Option Position) : List String :=
  (position.map Position.note).toList

/-- Diagnostic of a program error met at a position. -/
def ProgramError.report
    (error : ProgramError)
    (position : Option Position) :
    Diagnostic :=
  { error.toDiagnostic with notes := error.toDiagnostic.notes ++ positionNotes position }

/-- Code of the warning about hidden variables. -/
def shadowingCode : String :=
  "W0001"

/-- Warning about a declaration that hides a variable of some type. -/
def shadowingWarning
    (name : String)
    (line : Nat)
    (position : Option Position)
    (hidden : DataType) :
    Diagnostic where
  severity := .warning
  code := some shadowingCode
  message := "declaration of `" ++ name ++ "` shadows a visible variable"
  notes :=
    lineNote line :: positionNotes position ++ ["the hidden variable has type " ++ hidden.text]

/-- Diagnostics of the variables that are not visible from a scope, one for each use. -/
def Arena.unresolved
    (arena : Arena)
    (position : Option Position)
    (scope : Handle)
    (line : Nat)
    (names : List String) :
    List Diagnostic :=
  names.filterMap fun name =>
    match arena.resolve scope name line with
    | .ok _ => none
    | .error error => some (error.report position)

/-- Warning about a declaration that hides a visible variable, if warnings are wanted. -/
def Arena.shadowed
    (arena : Arena)
    (wanted : Bool)
    (position : Option Position)
    (scope : Handle)
    (line : Nat)
    (name : String) :
    List Diagnostic :=
  if wanted then
    ((arena.get? scope name).map (shadowingWarning name line position)).toList
  else
    []

def variableNamesOfOption (expression : Option Expression) : List String :=
  (expression.map Expression.variableNames).getD []

/--
Scope after a statement that was visited: only a declaration makes a new one, and a declaration is
always well formed.
-/
def Statement.scopeAfterVisit
    (statement : Statement)
    (scope : Handle)
    (arena : Arena) :
    Except Fault (Handle × Arena) := do
  if statement.asDeclaration?.isSome then
    match ← statement.scopeAfter scope arena with
    | (.ok extended, arena) => return (extended, arena)
    | (.error _, arena) => return (scope, arena)
  else
    return (scope, arena)

/-- Diagnostics found, and the arena afterwards. -/
abbrev Findings :=
  Except Fault (List Diagnostic × Arena)

mutual

/-- Resolves the names of a statement in a scope. -/
def Statement.resolve
    (shadowing : Bool)
    (position : Option Position) :
    Statement → Handle → Arena → Findings
  | .block _ body, scope, arena => do
      let mark := arena.mark
      let (inner, arena) ← arena.child scope
      let (found, arena) ← body.resolveInside shadowing inner arena
      return (found, arena.rewind mark)
  | .declare line binding initial, scope, arena =>
      return (arena.unresolved position scope line (variableNamesOfOption initial)
        ++ arena.shadowed shadowing position scope line binding.name, arena)
  | .assign line place value, scope, arena =>
      return (arena.unresolved position scope line place.variableNames
        ++ arena.unresolved position scope line value.variableNames, arena)
  | .evaluate line expression, scope, arena =>
      return (arena.unresolved position scope line expression.variableNames, arena)
  | .branch line condition consequent alternative, scope, arena => do
      let inCondition := arena.unresolved position scope line condition.variableNames
      let (inConsequent, arena) ← consequent.resolve shadowing position scope arena
      let (inAlternative, arena) ←
        Statement.resolveOption shadowing position alternative scope arena
      return (inCondition ++ (inConsequent ++ inAlternative), arena)
  | .whileLoop line condition body, scope, arena => do
      let inCondition := arena.unresolved position scope line condition.variableNames
      let (inBody, arena) ← Statement.resolveOption shadowing position body scope arena
      return (inCondition ++ inBody, arena)
  | .doWhile line body condition, scope, arena => do
      let (inBody, arena) ← Statement.resolveOption shadowing position body scope arena
      return (inBody ++ arena.unresolved position scope line condition.variableNames, arena)
  | .forLoop line initial condition update body, scope, arena =>
      match checkHeader line initial condition update with
      | .error error => return ([error.report position], arena)
      | .ok () => do
          let mark := arena.mark
          let (header, arena) ← arena.child scope
          let (inInitial, header, arena) ←
            Statement.resolveInitial shadowing position initial header arena
          let inCondition :=
            arena.unresolved position header line (variableNamesOfOption condition)
          let (inUpdate, arena) ← Statement.resolveOption shadowing position update header arena
          let (inBody, arena) ← Statement.resolveOption shadowing position body header arena
          return (inInitial ++ (inCondition ++ (inUpdate ++ inBody)), arena.rewind mark)
  | .returnWith line value, scope, arena =>
      return (arena.unresolved position scope line (variableNamesOfOption value), arena)
  | .assertion line condition, scope, arena =>
      return (arena.unresolved position scope line condition.variableNames, arena)
  | .breakLoop _, _, arena => return ([], arena)
  | .continueLoop _, _, arena => return ([], arena)
  | .empty _, _, arena => return ([], arena)

/-- Resolves the names of the statements of a block, directly in a scope. -/
def Block.resolveInside
    (shadowing : Bool) :
    Block → Handle → Arena → Findings
  | .mk line statements, scope, arena =>
      Statement.resolveList shadowing line 0 statements scope arena

def Statement.resolveOption
    (shadowing : Bool)
    (position : Option Position) :
    Option Statement → Handle → Arena → Findings
  | none, _, arena => return ([], arena)
  | some statement, scope, arena => statement.resolve shadowing position scope arena

/-- Resolves the names of the initializer of a loop, and gives the scope of the rest of the loop. -/
def Statement.resolveInitial
    (shadowing : Bool)
    (position : Option Position) :
    Option Statement → Handle → Arena → Except Fault (List Diagnostic × Handle × Arena)
  | none, header, arena => return ([], header, arena)
  | some statement, header, arena => do
      let (found, arena) ← statement.resolve shadowing position header arena
      let (header, arena) ← statement.scopeAfterVisit header arena
      return (found, header, arena)

/-- Resolves the names of the statements of a block from a position on, each in its scope. -/
def Statement.resolveList
    (shadowing : Bool)
    (blockLine : Nat) :
    Nat → List Statement → Handle → Arena → Findings
  | _, [], _, arena => return ([], arena)
  | index, first :: rest, scope, arena => do
      let (inFirst, arena) ← first.resolve shadowing (some ⟨index, blockLine⟩) scope arena
      let (next, arena) ← first.scopeAfterVisit scope arena
      let (inRest, arena) ←
        Statement.resolveList shadowing blockLine (index + 1) rest next arena
      return (inFirst ++ inRest, arena)

end

/-- Resolves the names of a function. -/
def FunctionDefinition.resolve
    (shadowing : Bool)
    (definition : FunctionDefinition)
    (arena : Arena) :
    Findings := do
  let mark := arena.mark
  let (parameters, arena) ← definition.parameterScope Arena.root arena
  let (found, arena) ← definition.body.resolveInside shadowing parameters arena
  return (found, arena.rewind mark)

/-- Resolves the names of several functions, one after the other. -/
def FunctionDefinition.resolveList
    (shadowing : Bool) :
    List FunctionDefinition → Arena → Findings
  | [], arena => return ([], arena)
  | first :: rest, arena => do
      let (inFirst, arena) ← first.resolve shadowing arena
      let (inRest, arena) ← FunctionDefinition.resolveList shadowing rest arena
      return (inFirst ++ inRest, arena)

/-- Diagnostics of a program, in the order of the walk. -/
def Program.resolve
    (program : Program)
    (shadowing : Bool) :
    Except Fault (List Diagnostic) := do
  let (found, _) ← FunctionDefinition.resolveList shadowing program.functions .initial
  return found

end SynthesisHoles
