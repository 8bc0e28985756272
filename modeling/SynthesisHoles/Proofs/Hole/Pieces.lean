import SynthesisHoles.Proofs.Hole.Replacement

/-!
# Extraction in pieces

A block can be extracted at once, or statement by statement, each from the next index of the run before. A
program can be extracted function by function, or its bodies can be put together into one block. The first
way validates all the statements before it meets a site, the second way validates each one only when it is
its turn, so that they fail at different times; but the first error is the same.

The main statement says that these ways have the same outcome as long as the index of a further hole fits:
the same error, or the same trees and the same holes in the same order.
-/

namespace SynthesisHoles

/-! ## Statement by statement -/

/-- Extraction from statements one after the other, each from the next index of the run before. -/
def Statement.replaceInTurn :
    List Statement → Nat → Except Failure (List (Statement × HoleRun))
  | [], _ => return []
  | first :: rest, index => do
      let (replaced, run) ← first.replaceLiterals index
      let next ← run.nextIndex
      let others ← Statement.replaceInTurn rest next
      return (replaced, run) :: others

/-- The block of some extracted statements, and the run of all their holes. -/
def joined (line index : Nat) (pieces : List (Statement × HoleRun)) : Block × HoleRun :=
  (⟨line, pieces.map Prod.fst⟩, ⟨index, pieces.flatMap fun piece => piece.2.holes⟩)

/-- Numbered statements with the runs of their holes, the numbers starting at an index. -/
def Statement.pieces : Nat → List Statement → List (Statement × HoleRun)
  | _, [] => []
  | index, first :: rest =>
      (first.numbered index, runFrom index first.sites) ::
        Statement.pieces (index + first.sites.length) rest

/-- The index after the run of an extraction. -/
theorem nextIndex_runFrom
    {index : Nat}
    {sites : List LiteralSite}
    (fits : index + sites.length < indexBound) :
    (runFrom index sites).nextIndex = .ok (index + sites.length) := by
  rw [HoleRun.nextIndex, runFrom, length_holesFrom, indexAfter, if_pos fits]

/-- With room for a further hole, the first statement that is not valid decides. -/
theorem Statement.replaceInTurn_of_fits
    (statements : List Statement)
    (index : Nat)
    (fits : index + (Statement.sitesOfList statements).length < indexBound) :
    Statement.replaceInTurn statements index = do
      Statement.validateList statements
      return Statement.pieces index statements := by
  induction statements generalizing index with
  | nil => rfl
  | cons first rest hypothesis =>
      rw [Statement.sitesOfList, List.length_append, ← Nat.add_assoc] at fits
      have firstFits : index + first.sites.length < indexBound := by omega
      rw [Statement.replaceInTurn, Statement.replaceLiterals_eq, replacement_of_fits firstFits,
        Statement.validateList]
      cases first.validate with
      | error error => rfl
      | ok _ =>
          simp only [liftM_ok_of_rejection, ok_bind, pure_eq_ok, nextIndex_runFrom firstFits,
            liftM_ok_of_fault, hypothesis _ fits]
          cases Statement.validateList rest with
          | error error => rfl
          | ok _ => rfl

theorem Statement.map_fst_pieces
    (index : Nat)
    (statements : List Statement) :
    (Statement.pieces index statements).map Prod.fst =
      Statement.numberedList index statements := by
  induction statements generalizing index with
  | nil => rfl
  | cons first rest hypothesis =>
      rw [Statement.pieces, Statement.numberedList, List.map_cons, hypothesis]

/-- The runs one after the other hold the holes of all the sites. -/
theorem Statement.flatMap_holes_pieces
    (index : Nat)
    (statements : List Statement) :
    ((Statement.pieces index statements).flatMap fun piece => piece.2.holes) =
      holesFrom index (Statement.sitesOfList statements) := by
  induction statements generalizing index with
  | nil => rfl
  | cons first rest hypothesis =>
      rw [Statement.pieces, Statement.sitesOfList, List.flatMap_cons, hypothesis,
        holesFrom_append, runFrom]

theorem Statement.joined_pieces
    (line index : Nat)
    (statements : List Statement) :
    joined line index (Statement.pieces index statements) =
      (⟨line, Statement.numberedList index statements⟩,
        runFrom index (Statement.sitesOfList statements)) := by
  rw [joined, Statement.map_fst_pieces, Statement.flatMap_holes_pieces, runFrom]

/-- With room for a further hole, a block is extracted at once as it is statement by statement. -/
theorem Block.replaceLiterals_eq_joined
    (block : Block)
    (index : Nat)
    (fits : index + block.sites.length < indexBound) :
    block.replaceLiterals index = do
      let pieces ← Statement.replaceInTurn block.statements index
      return joined block.line index pieces := by
  cases block with
  | mk line statements =>
      rw [Block.replaceLiterals_eq, replacement_of_fits fits, Block.statements,
        Statement.replaceInTurn_of_fits statements index fits, Block.validate, Block.line]
      cases Statement.validateList statements with
      | error error => rfl
      | ok _ =>
          simp only [liftM_ok_of_rejection, ok_bind, pure_eq_ok, Statement.joined_pieces]
          rfl

/-! ## The bodies of a program in one block -/

/-- The statements of all the bodies, one body after the other. -/
def FunctionDefinition.bodyStatements (definitions : List FunctionDefinition) : List Statement :=
  definitions.flatMap fun definition => definition.body.statements

/-- The functions with other statements in their bodies: each takes as many as its body had. -/
def FunctionDefinition.refilled :
    List FunctionDefinition → List Statement → List FunctionDefinition
  | [], _ => []
  | first :: rest, statements =>
      let size := first.body.statements.length
      { first with body := ⟨first.body.line, statements.take size⟩ } ::
        FunctionDefinition.refilled rest (statements.drop size)

namespace Program

/-- The block of all the statements of the program, with some line. -/
def wholeBody (program : Program) (line : Nat) : Block :=
  ⟨line, FunctionDefinition.bodyStatements program.functions⟩

/-- The program with other statements in the bodies of its functions. -/
def refilled (program : Program) (statements : List Statement) : Program where
  functions := FunctionDefinition.refilled program.functions statements

end Program

/-! ## Statements after each other -/

namespace Block

theorem validate_eq_validateList (block : Block) :
    block.validate = Statement.validateList block.statements := by
  cases block with
  | mk line statements => rfl

theorem sites_eq_sitesOfList (block : Block) :
    block.sites = Statement.sitesOfList block.statements := by
  cases block with
  | mk line statements => rfl

theorem numbered_eq_mk
    (start : Nat)
    (block : Block) :
    block.numbered start = ⟨block.line, Statement.numberedList start block.statements⟩ := by
  cases block with
  | mk line statements => rfl

end Block

namespace Statement

theorem validateList_append (left right : List Statement) :
    validateList (left ++ right) = (validateList left >>= fun _ => validateList right) := by
  induction left with
  | nil => rfl
  | cons first rest hypothesis =>
      rw [List.cons_append, validateList, validateList, hypothesis]
      cases first.validate with
      | error error => rfl
      | ok _ => rfl

theorem sitesOfList_append (left right : List Statement) :
    sitesOfList (left ++ right) = sitesOfList left ++ sitesOfList right := by
  induction left with
  | nil => rfl
  | cons first rest hypothesis =>
      rw [List.cons_append, sitesOfList, sitesOfList, hypothesis, List.append_assoc]

theorem numberedList_append
    (start : Nat)
    (left right : List Statement) :
    numberedList start (left ++ right) =
      numberedList start left ++ numberedList (start + (sitesOfList left).length) right := by
  induction left generalizing start with
  | nil => rfl
  | cons first rest hypothesis =>
      rw [List.cons_append, numberedList, numberedList, hypothesis, sitesOfList,
        List.length_append, Nat.add_assoc, List.cons_append]

@[simp]
theorem length_numberedList
    (start : Nat)
    (statements : List Statement) :
    (numberedList start statements).length = statements.length := by
  induction statements generalizing start with
  | nil => rfl
  | cons first rest hypothesis =>
      rw [numberedList, List.length_cons, List.length_cons, hypothesis]

end Statement

namespace FunctionDefinition

theorem bodyStatements_cons
    (first : FunctionDefinition)
    (rest : List FunctionDefinition) :
    bodyStatements (first :: rest) = first.body.statements ++ bodyStatements rest :=
  List.flatMap_cons

theorem sites_eq_sitesOfList (definition : FunctionDefinition) :
    definition.sites = Statement.sitesOfList definition.body.statements :=
  definition.body.sites_eq_sitesOfList

theorem sitesOfList_bodyStatements (definitions : List FunctionDefinition) :
    Statement.sitesOfList (bodyStatements definitions) = sitesOfList definitions := by
  induction definitions with
  | nil => rfl
  | cons first rest hypothesis =>
      rw [bodyStatements_cons, Statement.sitesOfList_append, hypothesis, sitesOfList,
        sites_eq_sitesOfList]

/-- The bodies of numbered functions are slices of all the statements, numbered together. -/
theorem refilled_numberedList
    (start : Nat)
    (definitions : List FunctionDefinition) :
    refilled definitions (Statement.numberedList start (bodyStatements definitions)) =
      numberedList start definitions := by
  induction definitions generalizing start with
  | nil => rfl
  | cons first rest hypothesis =>
      have size := Statement.length_numberedList start first.body.statements
      rw [bodyStatements_cons, Statement.numberedList_append, refilled, ← size, List.take_left,
        List.drop_left, hypothesis, numberedList, numbered, Block.numbered_eq_mk,
        sites_eq_sitesOfList]

/-- The bodies of numbered functions, one after the other, are all the statements, numbered together. -/
theorem bodyStatements_numberedList
    (start : Nat)
    (definitions : List FunctionDefinition) :
    bodyStatements (numberedList start definitions) =
      Statement.numberedList start (bodyStatements definitions) := by
  induction definitions generalizing start with
  | nil => rfl
  | cons first rest hypothesis =>
      rw [numberedList, bodyStatements_cons, bodyStatements_cons, hypothesis, numbered,
        Block.numbered_eq_mk, Block.statements, Statement.numberedList_append,
        sites_eq_sitesOfList]

/-- With room for a further hole, the first body that is not valid decides. -/
theorem replaceList_of_fits
    (definitions : List FunctionDefinition)
    (table : HoleTable)
    (fits : table.next + (sitesOfList definitions).length < indexBound) :
    replaceList definitions table = do
      Statement.validateList (bodyStatements definitions)
      return (numberedList table.next definitions, table.extended (sitesOfList definitions)) := by
  induction definitions generalizing table with
  | nil =>
      rw [sitesOfList, HoleTable.extended_nil]
      rfl
  | cons first rest hypothesis =>
      rw [sitesOfList, List.length_append, ← Nat.add_assoc] at fits
      have room : table.next < indexBound := by omega
      have firstFits : table.next + first.sites.length ≤ indexBound := by omega
      rw [← HoleTable.next_extended] at fits
      rw [replaceList_cons, if_pos room, bodyStatements_cons, Statement.validateList_append,
        Block.validate_eq_validateList]
      cases Statement.validateList first.body.statements with
      | error error => rfl
      | ok _ =>
          simp only [if_pos firstFits, hypothesis _ fits, ok_bind]
          cases Statement.validateList (bodyStatements rest) with
          | error error => rfl
          | ok _ =>
              simp only [liftM_ok_of_rejection, ok_bind, pure_eq_ok, numberedList, sitesOfList,
                HoleTable.next_extended, HoleTable.extended_append]

end FunctionDefinition

namespace Program

/-- With room for a further hole, a program is extracted exactly if all its bodies in one block are valid. -/
theorem replaceLiterals_of_fits
    (program : Program)
    (line : Nat)
    {index : Nat}
    (fits : index + program.sites.length < indexBound) :
    program.replaceLiterals index = do
      (program.wholeBody line).validate
      return (program.numbered index, (HoleTable.startingAt index).extended program.sites) := by
  have inFunctions :=
    FunctionDefinition.replaceList_of_fits program.functions (.startingAt index) fits
  rw [replaceLiterals, inFunctions, Block.validate_eq_validateList, wholeBody, Block.statements]
  cases Statement.validateList (FunctionDefinition.bodyStatements program.functions) with
  | error error => rfl
  | ok _ => rfl

/-- With room for a further hole, so are all the bodies of a program in one block. -/
theorem replaceLiterals_wholeBody_of_fits
    (program : Program)
    (line : Nat)
    {index : Nat}
    (fits : index + program.sites.length < indexBound) :
    (program.wholeBody line).replaceLiterals index = do
      (program.wholeBody line).validate
      return ((program.numbered index).wholeBody line, runFrom index program.sites) := by
  have sites : (program.wholeBody line).sites = program.sites :=
    FunctionDefinition.sitesOfList_bodyStatements program.functions
  have numbered :
      (program.wholeBody line).numbered index = (program.numbered index).wholeBody line := by
    rw [wholeBody, Block.numbered, ← FunctionDefinition.bodyStatements_numberedList]
    rfl
  rw [Block.replaceLiterals_eq, sites, numbered, replacement_of_fits fits]

/-- The program with the slices of the block of its numbered bodies is the numbered program. -/
theorem refilled_wholeBody_numbered
    (program : Program)
    (line start : Nat) :
    program.refilled ((program.numbered start).wholeBody line).statements =
      program.numbered start := by
  rw [refilled, wholeBody, Block.statements, numbered,
    FunctionDefinition.bodyStatements_numberedList, FunctionDefinition.refilled_numberedList]

end Program

/--
Extraction in pieces is extraction at once, as long as the index of a further hole fits. A block is extracted
as its statements are, one after the other, each from the next index of the run before: the first error is
the same, and if there is none, the block consists of the extracted statements and its run of the holes of
their runs. A program is extracted as one block of all its bodies is, whatever the line of that block: the
first error is the same, and if there is none, the table has the holes of the run, the bodies are the slices
of the block that are as long as the bodies were, and these together are the block.
-/
theorem replaceLiterals_in_pieces :
    (∀ (block : Block) (index : Nat),
        index + block.sites.length < indexBound →
          block.replaceLiterals index = do
            let pieces ← Statement.replaceInTurn block.statements index
            return joined block.line index pieces) ∧
      ∀ (program : Program) (line index : Nat),
        index + program.sites.length < indexBound →
          (program.replaceLiterals index = do
              let (block, run) ← (program.wholeBody line).replaceLiterals index
              return (program.refilled block.statements, ⟨run.start, run.holes⟩)) ∧
            (program.wholeBody line).replaceLiterals index = do
              let (replaced, table) ← program.replaceLiterals index
              return (replaced.wholeBody line, ⟨table.first, table.holes⟩) := by
  refine ⟨Block.replaceLiterals_eq_joined, ?_⟩
  intro program line index fits
  rw [program.replaceLiterals_of_fits line fits,
    program.replaceLiterals_wholeBody_of_fits line fits]
  cases (program.wholeBody line).validate with
  | error error => exact ⟨rfl, rfl⟩
  | ok _ =>
      constructor
      · simp only [liftM_ok_of_rejection, ok_bind, pure_eq_ok,
          program.refilled_wholeBody_numbered]
        rfl
      · rfl

/-- Two of the samples in one program. -/
def Samples.counterAndMatrix : Program where
  functions := counter.functions ++ matrix.functions

/-- The eleven holes of the two functions take all the indices but the last one. -/
theorem Samples.counterAndMatrix_in_pieces :
    0xfffffffffffffff4 + counterAndMatrix.sites.length < indexBound ∧
      counterAndMatrix.replaceLiterals 0xfffffffffffffff4 = do
        let (block, run) ← (counterAndMatrix.wholeBody 1).replaceLiterals 0xfffffffffffffff4
        return (counterAndMatrix.refilled block.statements, ⟨run.start, run.holes⟩) := by
  have fits : 0xfffffffffffffff4 + counterAndMatrix.sites.length < indexBound := by
    decide
  exact ⟨fits, (replaceLiterals_in_pieces.2 counterAndMatrix 1 0xfffffffffffffff4 fits).1⟩

end SynthesisHoles
