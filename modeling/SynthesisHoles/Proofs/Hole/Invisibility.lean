import Mathlib.Data.List.Forall2
import SynthesisHoles.Proofs.Hole.ExtractionLaw
import SynthesisHoles.Proofs.Hole.Numbering
import SynthesisHoles.Proofs.Scope.LexicalScoping
import SynthesisHoles.Proofs.Scope.Nesting
import SynthesisHoles.Proofs.Tree.Validation

/-!
# Extraction is invisible to the other passes

A program with holes looks like the program it comes from to all that is not about literals: it is
valid, resolution finds the same, and its functions, blocks and statements have the sizes, the records
and the scopes of those they come from. Each part of the one program is compared with the part of the
other that stands in the same place, so all the statements and all the blocks of a program are listed
first, whatever they are inside of.
-/

namespace SynthesisHoles

/-! ## The parts of a program -/

/-- All the statements of a program in reading order, those inside of others included. -/
def Program.statements (program : Program) : List Statement :=
  program.functions.flatMap fun definition =>
    (definition.body.placed []).map PlacedStatement.statement

/-- All the blocks of a program: the bodies of its functions, then those among its statements. -/
def Program.blocks (program : Program) : List Block :=
  program.functions.map FunctionDefinition.body
    ++ program.statements.filterMap Statement.asBlock?

/-- All the statements of a valid program are valid. -/
theorem Program.valid_of_mem_statements
    {program : Program}
    (valid : ∀ definition ∈ program.functions, definition.body.validate = .ok ()) :
    ∀ statement ∈ program.statements, statement.validate = .ok () := by
  intro statement member
  rcases List.mem_flatMap.mp member with ⟨definition, inProgram, inBody⟩
  rcases List.mem_map.mp inBody with ⟨placed, inPlaced, rfl⟩
  exact Block.valid_of_mem_placed definition.body [] (valid definition inProgram) placed inPlaced

/-- All the blocks of a valid program are valid. -/
theorem Program.valid_of_mem_blocks
    {program : Program}
    (valid : ∀ definition ∈ program.functions, definition.body.validate = .ok ()) :
    ∀ block ∈ program.blocks, block.validate = .ok () := by
  intro block member
  rcases List.mem_append.mp member with isBody | isNested
  · rcases List.mem_map.mp isBody with ⟨definition, inProgram, rfl⟩
    exact valid definition inProgram
  · rcases List.mem_filterMap.mp isNested with ⟨statement, inProgram, seen⟩
    have statementValid := Program.valid_of_mem_statements valid statement inProgram
    cases statement with
    | block line body =>
        cases seen
        exact statementValid
    | _ => cases seen

/-! ## What is to be the same -/

/-- Two ways to make a scope give the same one, inside of each live scope, and the same arena. -/
def MakeSameScope (left right : Handle → Arena → ScopeResult) : Prop :=
  ∀ (scope : Handle) (arena : Arena),
    arena.isLive scope = true →
      ∃ made after,
        left scope arena = .ok (.ok made, after) ∧ right scope arena = .ok (.ok made, after)

/-- A statement has the size and the scope of another one. -/
structure Statement.LooksLike (left right : Statement) : Prop where
  size : left.size = right.size
  scopeAfter : MakeSameScope left.scopeAfter right.scopeAfter

/-- A block has the size, the record and the scopes of another one. -/
structure Block.LooksLike (left right : Block) : Prop where
  size : left.size = right.size
  declared :
    ∃ record, left.declaredVariables = .ok record ∧ right.declaredVariables = .ok record
  scopeAfter : MakeSameScope left.scopeAfter right.scopeAfter
  innerScope : MakeSameScope left.innerScope right.innerScope

/-- A function has the size, the record and the inner scope of another one. -/
structure FunctionDefinition.LooksLike (left right : FunctionDefinition) : Prop where
  size : left.size = right.size
  declared :
    ∃ record, left.declaredVariables = .ok record ∧ right.declaredVariables = .ok record
  innerScope : MakeSameScope left.innerScope right.innerScope

/--
A program has the diagnostics of another one, and its parts look like those of the other, one after the
other.
-/
structure Program.LooksLike (left right : Program) : Prop where
  diagnostics :
    ∀ shadowing,
      ∃ found, left.resolve shadowing = .ok found ∧ right.resolve shadowing = .ok found
  functions : List.Forall₂ FunctionDefinition.LooksLike left.functions right.functions
  blocks : List.Forall₂ Block.LooksLike left.blocks right.blocks
  statements : List.Forall₂ Statement.LooksLike left.statements right.statements

/-! ## Numbered parts look like the parts -/

theorem Statement.looksLike_numbered
    {statement : Statement}
    (valid : statement.validate = .ok ())
    (start : Nat) :
    (statement.numbered start).LooksLike statement where
  size := statement.size_numbered start
  scopeAfter := by
    intro scope arena live
    have made := statement.scopeAfter_eq live
    rw [valid] at made
    exact ⟨_, _, (statement.scopeAfter_numbered start scope arena).trans made, made⟩

theorem Block.looksLike_numbered
    {block : Block}
    (valid : block.validate = .ok ())
    (start : Nat) :
    (block.numbered start).LooksLike block where
  size := block.size_numbered start
  declared :=
    ⟨_, (block.addToRecord_numbered start ∅).trans (block.addToRecord_eq ∅),
      block.addToRecord_eq ∅⟩
  scopeAfter := by
    intro scope arena _
    have made :
        block.scopeAfter scope arena = .ok (block.validate.map fun _ => scope, arena) :=
      block.scopeAfter_eq
    rw [valid] at made
    exact ⟨_, _, (block.scopeAfter_numbered start scope arena).trans made, made⟩
  innerScope := by
    intro scope arena live
    have made := block.innerScope_eq live
    rw [valid] at made
    exact ⟨_, _, (block.innerScope_numbered start scope arena).trans made, made⟩

theorem FunctionDefinition.looksLike_numbered
    {definition : FunctionDefinition}
    (valid : definition.body.validate = .ok ())
    (start : Nat) :
    (definition.numbered start).LooksLike definition where
  size := definition.body.size_numbered start
  declared :=
    ⟨_, (definition.declaredVariables_numbered start).trans (definition.body.addToRecord_eq _),
      definition.body.addToRecord_eq _⟩
  innerScope := by
    intro scope arena live
    have made := definition.innerScope_eq live
    rw [valid] at made
    exact ⟨_, _, (definition.innerScope_numbered start scope arena).trans made, made⟩

/-! ## Parts in the same place -/

/-- One tree is the other, numbered from somewhere. -/
def IsNumbering {Tree : Type} (numbered : Nat → Tree → Tree) (left right : Tree) : Prop :=
  ∃ start, left = numbered start right

/-- One statement is the other, numbered from somewhere, whatever they are inside of. -/
def PlacedStatement.IsNumbering (left right : PlacedStatement) : Prop :=
  SynthesisHoles.IsNumbering Statement.numbered left.statement right.statement

mutual

/--
The parts of a numbered statement are those of the statement, numbered. What they are inside of plays no
part, and is numbered on one side only.
-/
theorem Statement.placed_numbered
    (start : Nat)
    (statement : Statement)
    (around numberedAround : List Statement) :
    List.Forall₂ PlacedStatement.IsNumbering
      ((statement.numbered start).placed numberedAround) (statement.placed around) := by
  match statement with
  | .block _ body => exact .cons ⟨start, rfl⟩ (Block.placed_numbered _ body _ _)
  | .branch _ _ consequent alternative =>
      refine .cons ⟨start, rfl⟩ (List.rel_append ?_ ?_)
      · exact Statement.placed_numbered _ consequent _ _
      · exact Statement.placedOfOption_numberedOption _ alternative _ _
  | .whileLoop _ _ body =>
      exact .cons ⟨start, rfl⟩ (Statement.placedOfOption_numberedOption _ body _ _)
  | .doWhile _ body _ =>
      exact .cons ⟨start, rfl⟩ (Statement.placedOfOption_numberedOption _ body _ _)
  | .forLoop _ initial _ update body =>
      refine .cons ⟨start, rfl⟩ (List.rel_append ?_ (List.rel_append ?_ ?_))
      · exact Statement.placedOfOption_numberedOption _ initial _ _
      · exact Statement.placedOfOption_numberedOption _ update _ _
      · exact Statement.placedOfOption_numberedOption _ body _ _
  | .declare .. => exact .cons ⟨start, rfl⟩ .nil
  | .assign .. => exact .cons ⟨start, rfl⟩ .nil
  | .evaluate .. => exact .cons ⟨start, rfl⟩ .nil
  | .returnWith .. => exact .cons ⟨start, rfl⟩ .nil
  | .assertion .. => exact .cons ⟨start, rfl⟩ .nil
  | .breakLoop _ => exact .cons ⟨start, rfl⟩ .nil
  | .continueLoop _ => exact .cons ⟨start, rfl⟩ .nil
  | .empty _ => exact .cons ⟨start, rfl⟩ .nil

theorem Block.placed_numbered
    (start : Nat)
    (block : Block)
    (around numberedAround : List Statement) :
    List.Forall₂ PlacedStatement.IsNumbering
      ((block.numbered start).placed numberedAround) (block.placed around) := by
  match block with
  | .mk _ statements =>
      exact Statement.placedOfList_numberedList start statements around numberedAround

theorem Statement.placedOfOption_numberedOption
    (start : Nat)
    (statement : Option Statement)
    (around numberedAround : List Statement) :
    List.Forall₂ PlacedStatement.IsNumbering
      (Statement.placedOfOption (Statement.numberedOption start statement) numberedAround)
      (Statement.placedOfOption statement around) := by
  match statement with
  | none => exact .nil
  | some statement => exact Statement.placed_numbered start statement around numberedAround

theorem Statement.placedOfList_numberedList
    (start : Nat)
    (statements : List Statement)
    (around numberedAround : List Statement) :
    List.Forall₂ PlacedStatement.IsNumbering
      (Statement.placedOfList (Statement.numberedList start statements) numberedAround)
      (Statement.placedOfList statements around) := by
  match statements with
  | [] => exact .nil
  | first :: rest =>
      exact
        List.rel_append (Statement.placed_numbered start first around numberedAround)
          (Statement.placedOfList_numberedList _ rest around numberedAround)

end

theorem FunctionDefinition.isNumbering_numberedList
    (start : Nat)
    (definitions : List FunctionDefinition) :
    List.Forall₂ (IsNumbering FunctionDefinition.numbered)
      (FunctionDefinition.numberedList start definitions) definitions := by
  induction definitions generalizing start with
  | nil => exact .nil
  | cons first rest hypothesis => exact .cons ⟨start, rfl⟩ (hypothesis _)

/-- The statements of a numbered program are numbered, each in the place it was in. -/
theorem Program.statements_numbered
    (start : Nat)
    (program : Program) :
    List.Forall₂ (IsNumbering Statement.numbered) (program.numbered start).statements
      program.statements := by
  apply List.rel_flatMap (FunctionDefinition.isNumbering_numberedList start program.functions)
  rintro _ definition ⟨inner, rfl⟩
  rw [List.forall₂_map_left_iff, List.forall₂_map_right_iff]
  exact Block.placed_numbered inner definition.body [] []

/-- The blocks of a numbered program are numbered, each in the place it was in. -/
theorem Program.blocks_numbered
    (start : Nat)
    (program : Program) :
    List.Forall₂ (IsNumbering Block.numbered) (program.numbered start).blocks
      program.blocks := by
  apply List.rel_append
  · refine List.rel_map ?_ (FunctionDefinition.isNumbering_numberedList start program.functions)
    rintro _ definition ⟨inner, rfl⟩
    exact ⟨inner, rfl⟩
  · refine List.rel_filterMap ?_ (program.statements_numbered start)
    rintro _ statement ⟨inner, rfl⟩
    cases statement with
    | block line body => exact .some ⟨inner, rfl⟩
    | _ => exact .none

/-! ## The whole program -/

/-- Parts of valid trees look like the parts in the same place, if they are these, numbered. -/
theorem looksLike_of_isNumbering
    {Tree : Type}
    {numbered : Nat → Tree → Tree}
    {Valid : Tree → Prop}
    {LooksLike : Tree → Tree → Prop}
    (looksLike : ∀ {tree : Tree}, Valid tree → ∀ start, LooksLike (numbered start tree) tree)
    {left right : List Tree}
    (valid : ∀ tree ∈ right, Valid tree)
    (parts : List.Forall₂ (IsNumbering numbered) left right) :
    List.Forall₂ LooksLike left right := by
  induction parts with
  | nil => exact .nil
  | cons same _ hypothesis =>
      rcases List.forall_mem_cons.mp valid with ⟨firstValid, restValid⟩
      rcases same with ⟨start, rfl⟩
      exact .cons (looksLike firstValid start) (hypothesis restValid)

/-- A valid program that is numbered looks like the program. -/
theorem Program.looksLike_numbered
    {program : Program}
    (valid : ∀ definition ∈ program.functions, definition.body.validate = .ok ())
    (start : Nat) :
    (program.numbered start).LooksLike program where
  diagnostics := by
    intro shadowing
    rcases program.resolve_succeeds shadowing with ⟨diagnostics, found⟩
    exact ⟨diagnostics, (program.resolve_numbered shadowing start).trans found, found⟩
  functions :=
    looksLike_of_isNumbering FunctionDefinition.looksLike_numbered valid
      (FunctionDefinition.isNumbering_numberedList start program.functions)
  blocks :=
    looksLike_of_isNumbering Block.looksLike_numbered (Program.valid_of_mem_blocks valid)
      (program.blocks_numbered start)
  statements :=
    looksLike_of_isNumbering Statement.looksLike_numbered (Program.valid_of_mem_statements valid)
      (program.statements_numbered start)

/--
Extraction is invisible to the other passes. The program with holes is valid, resolution finds the same
in it as in the original, and its functions, blocks and statements look like those of the original.
-/
theorem Program.looksLike_of_replaceLiterals
    (program replaced : Program)
    (index : Nat)
    (table : HoleTable)
    (extracted : program.replaceLiterals index = .ok (replaced, table)) :
    (∀ definition ∈ replaced.functions, definition.body.validate = .ok ()) ∧
      replaced.LooksLike program := by
  have valid := Program.valid_of_replaceLiterals extracted
  rcases Program.eq_of_replaceLiterals extracted with ⟨rfl, _⟩
  exact
    ⟨FunctionDefinition.valid_numberedList valid index, Program.looksLike_numbered valid index⟩

/-- The search sample has loops inside of loops, and declarations in headers and in bodies. -/
theorem Samples.nestedLoops_looksLike :
    nestedLoops.replaceLiterals 0 =
        .ok (nestedLoops.numbered 0, (HoleTable.startingAt 0).extended nestedLoops.sites) ∧
      (∀ definition ∈ (nestedLoops.numbered 0).functions,
          definition.body.validate = .ok ()) ∧
        (nestedLoops.numbered 0).LooksLike nestedLoops := by
  have extracted :
      nestedLoops.replaceLiterals 0 =
        .ok (nestedLoops.numbered 0, (HoleTable.startingAt 0).extended nestedLoops.sites) := rfl
  exact ⟨extracted, nestedLoops.looksLike_of_replaceLiterals _ 0 _ extracted⟩

end SynthesisHoles
