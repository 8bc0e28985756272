import SynthesisHoles.Proofs.Outcome
import SynthesisHoles.Tree.Declarations

/-!
# What is declared directly

The statements of a block declare what the declarations among them say, in their order. The record of
a block is made from these declarations alone: their positions are positions of the block, so recording
meets no fault.
-/

namespace SynthesisHoles

/-- What the statement declares, if it is a declaration. -/
def Statement.declared? (statement : Statement) : Option Binding :=
  statement.asDeclaration?.map Prod.fst

/-- What the statements declare, leaving out what is inside of them. -/
def declaredIn (statements : List Statement) : List Binding :=
  statements.filterMap Statement.declared?

/-- The record with bindings put in one after the other. -/
def insertBindings (record : VariableRecord) (bindings : List Binding) : VariableRecord :=
  bindings.foldl (fun record binding => record.insert binding.name binding.type) record

/-- Putting bindings into a record is putting pairs into a map. -/
theorem insertBindings_eq
    (record : VariableRecord)
    (bindings : List Binding) :
    insertBindings record bindings =
      (bindings.map Binding.toPair).foldl (fun map pair => map.insert pair.1 pair.2) record := by
  rw [List.foldl_map]
  rfl

/-- The last pair of a name comes from the last binding of the name. -/
theorem find?_map_toPair
    (bindings : List Binding)
    (name : String) :
    ((bindings.map Binding.toPair).reverse.find? fun pair => pair.1 = name).map Prod.snd =
      (bindings.reverse.find? fun binding => binding.name = name).map Binding.type := by
  rw [← List.map_reverse, List.find?_map, Option.map_map]
  rfl

/-- A statement at a position of its block is recorded without a fault. -/
theorem Statement.addToRecord_eq
    (statement : Statement)
    {parent : Block}
    {position : Nat}
    (inside : position < parent.statements.length)
    (record : VariableRecord) :
    statement.addToRecord parent position record =
      .ok (insertBindings record statement.declared?.toList) := by
  cases statement with
  | declare line binding initial => exact if_pos inside
  | _ => rfl

/-- Recording goes through the statements that follow some others in their block. -/
theorem Block.addFrom_eq
    {parent : Block}
    {before rest : List Statement}
    (parts : parent.statements = before ++ rest)
    (record : VariableRecord) :
    parent.addFrom before.length rest record =
      .ok (insertBindings record (declaredIn rest)) := by
  induction rest generalizing before record with
  | nil => rfl
  | cons statement rest hypothesis =>
      have inside : before.length < parent.statements.length := by
        rw [parts, List.length_append, List.length_cons]
        omega
      have partsAfter : parent.statements = (before ++ [statement]) ++ rest := by
        rw [parts, List.append_assoc, List.singleton_append]
      have restRecorded := hypothesis partsAfter
      rw [List.length_append, List.length_singleton] at restRecorded
      rw [Block.addFrom, statement.addToRecord_eq inside, ok_bind, restRecorded]
      simp only [declaredIn, List.filterMap_cons, insertBindings]
      cases statement.declared? <;> rfl

/-- The record of a block has what its statements declare. -/
theorem Block.addToRecord_eq
    (block : Block)
    (record : VariableRecord) :
    block.addToRecord record = .ok (insertBindings record (declaredIn block.statements)) := by
  have whole : block.statements = [] ++ block.statements := rfl
  exact Block.addFrom_eq whole record

end SynthesisHoles
