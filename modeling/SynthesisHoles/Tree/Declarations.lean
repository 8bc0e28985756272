import SynthesisHoles.Failure
import SynthesisHoles.OrderedMap
import SynthesisHoles.Tree.Program

/-!
# Declared variables

A block declares the variables of the declarations that stand directly in it; those of nested
statements belong to the nested blocks. A function declares its parameters and then the variables of
its body. Each record keeps the position of the first declaration of a name and the type of the last.
-/

namespace SynthesisHoles

/-- Types of variables, in the order of their first declaration. -/
abbrev VariableRecord := OrderedMap DataType

/--
The record with what the statement declares, as the statement at a position of its block. Only a
declaration needs to be at a position of the block.
-/
def Statement.addToRecord
    (statement : Statement)
    (parent : Block)
    (position : Nat)
    (record : VariableRecord) :
    Except Fault VariableRecord :=
  match statement with
  | .declare _ binding _ =>
      if position < parent.statements.length then
        .ok (record.insert binding.name binding.type)
      else
        .error (.positionOutOfBlock position parent.statements.length)
  | _ => .ok record

/-- The record with what the statements declare, as those of a block from a position on. -/
def Block.addFrom
    (parent : Block) :
    Nat → List Statement → VariableRecord → Except Fault VariableRecord
  | _, [], record => .ok record
  | position, statement :: rest, record => do
      let extended ← statement.addToRecord parent position record
      parent.addFrom (position + 1) rest extended

/-- The record with what the block declares. -/
def Block.addToRecord
    (block : Block)
    (record : VariableRecord) :
    Except Fault VariableRecord :=
  block.addFrom 0 block.statements record

/-- Variables that the block declares. -/
def Block.declaredVariables (block : Block) : Except Fault VariableRecord :=
  block.addToRecord ∅

/-- Parameters of the function, where a later one of a name replaces the type of an earlier. -/
def FunctionDefinition.parameterRecord (definition : FunctionDefinition) : VariableRecord :=
  OrderedMap.ofList (definition.parameters.map Binding.toPair)

/-- Parameters and variables that the function declares. -/
def FunctionDefinition.declaredVariables
    (definition : FunctionDefinition) :
    Except Fault VariableRecord :=
  definition.body.addToRecord definition.parameterRecord

/--
Records of the functions of the program by name. A repeated name keeps the position of its first
function and the record of its last.
-/
def Program.declaredVariables (program : Program) : Except Fault (OrderedMap VariableRecord) := do
  let records ← program.functions.mapM fun definition => do
    return (definition.name, ← definition.declaredVariables)
  return OrderedMap.ofList records

end SynthesisHoles
