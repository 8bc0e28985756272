import SynthesisHoles.Proofs.Hole.ExtractionLaw

/-!
# Extraction from a part of a program

Extraction can begin at a function, a block or a statement, and at an expression, of which nothing has to
be validated. Its outcome has one form for all of these, a replacement: the tree is validated, and if it
is valid its sites are met from an empty run. Two readings of a replacement are stated, one for when it
succeeds, and one for indices that fit together with the index of a further hole.
-/

namespace SynthesisHoles

/-! ## Replacements -/

/-- Outcome of an extraction that begins with an empty run: a tree is validated, then its sites are met. -/
def replacement
    {Tree : Type}
    (validation : Except ProgramError Unit)
    (index : Nat)
    (sites : List LiteralSite)
    (numbered : Tree) :
    Except Failure (Tree × HoleRun) :=
  match validation with
  | .error error => .error (.rejected error)
  | .ok () => (HoleRun.startingAt index).outcome (.fault .indexOverflow) sites numbered

/-- The run of an extraction: holes for some sites, numbered from an index. -/
def runFrom (index : Nat) (sites : List LiteralSite) : HoleRun where
  start := index
  holes := holesFrom index sites

theorem HoleRun.outcome_eq_ok_iff
    {Error Value : Type}
    {overflow : Error}
    {run : HoleRun}
    {sites : List LiteralSite}
    {value : Value}
    {result : Value × HoleRun} :
    run.outcome overflow sites value = .ok result ↔
      run.HasRoomFor sites.length ∧ result = (value, run.extended sites) := by
  rw [outcome]
  split
  next room => simp [room, eq_comm]
  next full => simp [full]

section Replacement

variable
  {Tree : Type}
  {validation : Except ProgramError Unit}
  {index : Nat}
  {sites : List LiteralSite}
  {numbered : Tree}

/-- What a replacement gives, if it gives something. -/
theorem of_replacement
    {result : Tree × HoleRun}
    (extracted : replacement validation index sites numbered = .ok result) :
    validation = .ok () ∧ result = (numbered, runFrom index sites) := by
  cases validation with
  | error error => cases extracted
  | ok _ => exact ⟨rfl, (HoleRun.outcome_eq_ok_iff.mp extracted).2⟩

/-- With room for a further hole, a replacement is decided by the validation. -/
theorem replacement_of_fits
    (fits : index + sites.length < indexBound) :
    replacement validation index sites numbered = do
      validation
      return (numbered, runFrom index sites) := by
  cases validation with
  | error error => rfl
  | ok _ =>
      have room : (HoleRun.startingAt index).HasRoomFor sites.length :=
        Or.inr (Nat.le_of_lt fits)
      exact HoleRun.outcome_eq_ok_iff.mpr ⟨room, rfl⟩

end Replacement

/-! ## Where extraction can begin -/

theorem Expression.replaceLiterals_eq
    (expression : Expression)
    (index : Nat) :
    expression.replaceLiterals index =
      (HoleRun.startingAt index).outcome Fault.indexOverflow (sitesAt 0 expression.literals)
        (expression.numbered index) :=
  Expression.extract_eq 0 expression (.startingAt index)

theorem Statement.replaceLiterals_eq
    (statement : Statement)
    (index : Nat) :
    statement.replaceLiterals index =
      replacement statement.validate index statement.sites (statement.numbered index) := by
  rw [Statement.replaceLiterals]
  cases valid : statement.validate with
  | error error => rfl
  | ok _ => exact Statement.extract_eq statement (.startingAt index) valid

theorem Block.replaceLiterals_eq
    (block : Block)
    (index : Nat) :
    block.replaceLiterals index =
      replacement block.validate index block.sites (block.numbered index) := by
  rw [Block.replaceLiterals]
  cases valid : block.validate with
  | error error => rfl
  | ok _ => exact Block.extract_eq block (.startingAt index) valid

/-- Extraction from a function is a replacement as well. -/
theorem FunctionDefinition.replaceLiterals_eq_replacement
    (definition : FunctionDefinition)
    (index : Nat) :
    definition.replaceLiterals index =
      replacement definition.body.validate index definition.sites (definition.numbered index) :=
  definition.replaceLiterals_eq index

end SynthesisHoles
