import SynthesisHoles.Hole.Table
import SynthesisHoles.Tree.Structure

/-!
# Extraction of holes

Extraction replaces each literal of a tree by a hole and records the literal in a run of holes. The
order is that of evaluation, as far as the tree tells: left to right in expressions, the place of an
assignment before its value, the body of a loop after its condition unless the condition is tested
last, and the parts of a for-header before the body. A hole knows the line of the innermost statement
around its literal.

A tree is validated as a whole before any of its literals is recorded.
-/

namespace SynthesisHoles

mutual

/-- The expression with holes for its literals, and the run with these holes. -/
def Expression.extract
    (line : Nat) :
    Expression → HoleRun → Except Fault (Expression × HoleRun)
  | .literal value, run => do
      let (index, run) ← run.record value line
      return (.hole index, run)
  | .hole index, run => return (.hole index, run)
  | .var name, run => return (.var name, run)
  | .field base member, run => do
      let (base, run) ← base.extract line run
      return (.field base member, run)
  | .element base position, run => do
      let (base, run) ← base.extract line run
      let (position, run) ← position.extract line run
      return (.element base position, run)
  | .array items, run => do
      let (items, run) ← Expression.extractList line items run
      return (.array items, run)
  | .call callee arguments, run => do
      let (arguments, run) ← Expression.extractList line arguments run
      return (.call callee arguments, run)
  | .conditional condition whenTrue whenFalse, run => do
      let (condition, run) ← condition.extract line run
      let (whenTrue, run) ← whenTrue.extract line run
      let (whenFalse, run) ← whenFalse.extract line run
      return (.conditional condition whenTrue whenFalse, run)

/-- Extraction from several expressions, one after the other. -/
def Expression.extractList
    (line : Nat) :
    List Expression → HoleRun → Except Fault (List Expression × HoleRun)
  | [], run => return ([], run)
  | first :: rest, run => do
      let (first, run) ← first.extract line run
      let (rest, run) ← Expression.extractList line rest run
      return (first :: rest, run)

end

def Expression.extractOption
    (line : Nat) :
    Option Expression → HoleRun → Except Fault (Option Expression × HoleRun)
  | none, run => return (none, run)
  | some expression, run => do
      let (expression, run) ← expression.extract line run
      return (some expression, run)

/-- The place with holes for the literals of its expressions, and the run with these holes. -/
def Place.extract
    (line : Nat) :
    Place → HoleRun → Except Fault (Place × HoleRun)
  | .var name, run => return (.var name, run)
  | .element base position, run => do
      let (base, run) ← base.extract line run
      let (position, run) ← position.extract line run
      return (.element base position, run)
  | .field base member, run => do
      let (base, run) ← base.extract line run
      return (.field base member, run)

mutual

/-- The statement with holes for its literals, and the run with these holes. -/
def Statement.extract : Statement → HoleRun → Except Failure (Statement × HoleRun)
  | .block line body, run => do
      let (body, run) ← body.extract run
      return (.block line body, run)
  | .declare line binding initial, run => do
      let (initial, run) ← Expression.extractOption line initial run
      return (.declare line binding initial, run)
  | .assign line place value, run => do
      let (place, run) ← place.extract line run
      let (value, run) ← value.extract line run
      return (.assign line place value, run)
  | .evaluate line expression, run => do
      let (expression, run) ← expression.extract line run
      return (.evaluate line expression, run)
  | .branch line condition consequent alternative, run => do
      let (condition, run) ← condition.extract line run
      let (consequent, run) ← consequent.extract run
      let (alternative, run) ← Statement.extractOption alternative run
      return (.branch line condition consequent alternative, run)
  | .whileLoop line condition body, run => do
      let (condition, run) ← condition.extract line run
      let (body, run) ← Statement.extractOption body run
      return (.whileLoop line condition body, run)
  | .doWhile line body condition, run => do
      let (body, run) ← Statement.extractOption body run
      let (condition, run) ← condition.extract line run
      return (.doWhile line body condition, run)
  | .forLoop line initial condition update body, run => do
      checkHeader line initial condition update
      let (initial, run) ← Statement.extractOption initial run
      let (condition, run) ← Expression.extractOption line condition run
      let (update, run) ← Statement.extractOption update run
      let (body, run) ← Statement.extractOption body run
      return (.forLoop line initial condition update body, run)
  | .returnWith line value, run => do
      let (value, run) ← Expression.extractOption line value run
      return (.returnWith line value, run)
  | .assertion line condition, run => do
      let (condition, run) ← condition.extract line run
      return (.assertion line condition, run)
  | .breakLoop line, run => return (.breakLoop line, run)
  | .continueLoop line, run => return (.continueLoop line, run)
  | .empty line, run => return (.empty line, run)

/-- Extraction from the statements of a block in order. -/
def Block.extract : Block → HoleRun → Except Failure (Block × HoleRun)
  | .mk line statements, run => do
      let (statements, run) ← Statement.extractList statements run
      return (.mk line statements, run)

def Statement.extractOption :
    Option Statement → HoleRun → Except Failure (Option Statement × HoleRun)
  | none, run => return (none, run)
  | some statement, run => do
      let (statement, run) ← statement.extract run
      return (some statement, run)

def Statement.extractList :
    List Statement → HoleRun → Except Failure (List Statement × HoleRun)
  | [], run => return ([], run)
  | first :: rest, run => do
      let (first, run) ← first.extract run
      let (rest, run) ← Statement.extractList rest run
      return (first :: rest, run)

end

/-- The expression with holes numbered from an index; its literals have no line of their own. -/
def Expression.replaceLiterals
    (expression : Expression)
    (index : Nat) :
    Except Fault (Expression × HoleRun) :=
  expression.extract 0 (.startingAt index)

/-- The statement with holes numbered from an index, if it is well formed. -/
def Statement.replaceLiterals
    (statement : Statement)
    (index : Nat) :
    Except Failure (Statement × HoleRun) := do
  statement.validate
  statement.extract (.startingAt index)

/-- The block with holes numbered from an index, if it is well formed. -/
def Block.replaceLiterals
    (block : Block)
    (index : Nat) :
    Except Failure (Block × HoleRun) := do
  block.validate
  block.extract (.startingAt index)

/-- The function with holes numbered from an index, if its body is well formed. -/
def FunctionDefinition.replaceLiterals
    (definition : FunctionDefinition)
    (index : Nat) :
    Except Failure (FunctionDefinition × HoleRun) := do
  let (body, run) ← definition.body.replaceLiterals index
  return ({ definition with body }, run)

/-- Extraction from several functions, each starting at the next index of the table. -/
def FunctionDefinition.replaceList :
    List FunctionDefinition → HoleTable → Except Failure (List FunctionDefinition × HoleTable)
  | [], table => return ([], table)
  | first :: rest, table => do
      let start ← table.nextIndex
      let (first, run) ← first.replaceLiterals start
      let table ← table.absorb run
      let (rest, table) ← FunctionDefinition.replaceList rest table
      return (first :: rest, table)

/-- The program with holes numbered from an index, and the table of all its holes. -/
def Program.replaceLiterals
    (program : Program)
    (index : Nat) :
    Except Failure (Program × HoleTable) := do
  let (functions, table) ←
    FunctionDefinition.replaceList program.functions (.startingAt index)
  return ({ functions }, table)

end SynthesisHoles
