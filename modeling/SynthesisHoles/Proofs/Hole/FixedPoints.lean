import SynthesisHoles.Proofs.Hole.Numbering
import SynthesisHoles.Proofs.Hole.Replacement

/-!
# Extracted trees have nothing left to extract

To number a tree without literals changes nothing, so a valid tree without literals is a fixed point of
extraction: the tree comes back as it is, with a run or a table of no hole. The main statement says that
everything that extraction gives is such a fixed point, from every index that fits a machine word. It does
not matter whether the index is that of a hole in the tree, or the last one.
-/

namespace SynthesisHoles

/-! ## Numbering without literals -/

mutual

theorem Expression.numbered_of_bare
    (start : Nat)
    (expression : Expression)
    (bare : expression.literals = []) :
    expression.numbered start = expression := by
  match expression with
  | .literal value => cases bare
  | .hole _ => rfl
  | .var _ => rfl
  | .field base member =>
      rw [Expression.numbered, Expression.numbered_of_bare start base bare]
  | .element base position =>
      rcases List.append_eq_nil_iff.mp bare with ⟨baseBare, positionBare⟩
      rw [Expression.numbered, Expression.numbered_of_bare _ base baseBare,
        Expression.numbered_of_bare _ position positionBare]
  | .array items => rw [Expression.numbered, Expression.numberedList_of_bare start items bare]
  | .call callee arguments =>
      rw [Expression.numbered, Expression.numberedList_of_bare start arguments bare]
  | .conditional condition whenTrue whenFalse =>
      rcases List.append_eq_nil_iff.mp bare with ⟨conditionBare, restBare⟩
      rcases List.append_eq_nil_iff.mp restBare with ⟨whenTrueBare, whenFalseBare⟩
      rw [Expression.numbered, Expression.numbered_of_bare _ condition conditionBare,
        Expression.numbered_of_bare _ whenTrue whenTrueBare,
        Expression.numbered_of_bare _ whenFalse whenFalseBare]

theorem Expression.numberedList_of_bare
    (start : Nat)
    (expressions : List Expression)
    (bare : Expression.literalsOfList expressions = []) :
    Expression.numberedList start expressions = expressions := by
  match expressions with
  | [] => rfl
  | first :: rest =>
      rcases List.append_eq_nil_iff.mp bare with ⟨firstBare, restBare⟩
      rw [Expression.numberedList, Expression.numbered_of_bare _ first firstBare,
        Expression.numberedList_of_bare _ rest restBare]

end

theorem Expression.numberedOption_of_bare
    (start : Nat)
    (expression : Option Expression)
    (bare : Expression.literalsOfOption expression = []) :
    Expression.numberedOption start expression = expression := by
  cases expression with
  | none => rfl
  | some expression =>
      rw [Expression.numberedOption, Expression.numbered_of_bare start expression bare]

theorem Place.numbered_of_bare
    (start : Nat)
    (place : Place)
    (bare : place.literals = []) :
    place.numbered start = place := by
  cases place with
  | var _ => rfl
  | element base position =>
      rcases List.append_eq_nil_iff.mp bare with ⟨baseBare, positionBare⟩
      rw [Place.numbered, Expression.numbered_of_bare _ base baseBare,
        Expression.numbered_of_bare _ position positionBare]
  | field base member => rw [Place.numbered, Expression.numbered_of_bare start base bare]

mutual

theorem Statement.numbered_of_bare
    (start : Nat)
    (statement : Statement)
    (bare : statement.sites = []) :
    statement.numbered start = statement := by
  match statement with
  | .block line body => rw [Statement.numbered, Block.numbered_of_bare start body bare]
  | .declare line binding initial =>
      have initialBare := sitesAt_eq_nil_iff.mp bare
      rw [Statement.numbered, Expression.numberedOption_of_bare start initial initialBare]
  | .assign line place value =>
      rcases List.append_eq_nil_iff.mp bare with ⟨placeBare, valueBare⟩
      rw [Statement.numbered, Place.numbered_of_bare _ place (sitesAt_eq_nil_iff.mp placeBare),
        Expression.numbered_of_bare _ value (sitesAt_eq_nil_iff.mp valueBare)]
  | .evaluate line expression =>
      have expressionBare := sitesAt_eq_nil_iff.mp bare
      rw [Statement.numbered, Expression.numbered_of_bare start expression expressionBare]
  | .branch line condition consequent alternative =>
      rcases List.append_eq_nil_iff.mp bare with ⟨conditionBare, branchesBare⟩
      rcases List.append_eq_nil_iff.mp branchesBare with ⟨consequentBare, alternativeBare⟩
      rw [Statement.numbered,
        Expression.numbered_of_bare _ condition (sitesAt_eq_nil_iff.mp conditionBare),
        Statement.numbered_of_bare _ consequent consequentBare,
        Statement.numberedOption_of_bare _ alternative alternativeBare]
  | .whileLoop line condition body =>
      rcases List.append_eq_nil_iff.mp bare with ⟨conditionBare, bodyBare⟩
      rw [Statement.numbered,
        Expression.numbered_of_bare _ condition (sitesAt_eq_nil_iff.mp conditionBare),
        Statement.numberedOption_of_bare _ body bodyBare]
  | .doWhile line body condition =>
      rcases List.append_eq_nil_iff.mp bare with ⟨bodyBare, conditionBare⟩
      rw [Statement.numbered, Statement.numberedOption_of_bare _ body bodyBare,
        Expression.numbered_of_bare _ condition (sitesAt_eq_nil_iff.mp conditionBare)]
  | .forLoop line initial condition update body =>
      rcases List.append_eq_nil_iff.mp bare with ⟨initialBare, restBare⟩
      rcases List.append_eq_nil_iff.mp restBare with ⟨conditionBare, turnBare⟩
      rcases List.append_eq_nil_iff.mp turnBare with ⟨updateBare, bodyBare⟩
      rw [Statement.numbered, Statement.numberedOption_of_bare _ initial initialBare,
        Expression.numberedOption_of_bare _ condition (sitesAt_eq_nil_iff.mp conditionBare),
        Statement.numberedOption_of_bare _ update updateBare,
        Statement.numberedOption_of_bare _ body bodyBare]
  | .returnWith line value =>
      have valueBare := sitesAt_eq_nil_iff.mp bare
      rw [Statement.numbered, Expression.numberedOption_of_bare start value valueBare]
  | .assertion line condition =>
      have conditionBare := sitesAt_eq_nil_iff.mp bare
      rw [Statement.numbered, Expression.numbered_of_bare start condition conditionBare]
  | .breakLoop _ => rfl
  | .continueLoop _ => rfl
  | .empty _ => rfl

theorem Block.numbered_of_bare
    (start : Nat)
    (block : Block)
    (bare : block.sites = []) :
    block.numbered start = block := by
  match block with
  | .mk line statements =>
      rw [Block.numbered, Statement.numberedList_of_bare start statements bare]

theorem Statement.numberedOption_of_bare
    (start : Nat)
    (statement : Option Statement)
    (bare : Statement.sitesOfOption statement = []) :
    Statement.numberedOption start statement = statement := by
  match statement with
  | none => rfl
  | some statement =>
      rw [Statement.numberedOption, Statement.numbered_of_bare start statement bare]

theorem Statement.numberedList_of_bare
    (start : Nat)
    (statements : List Statement)
    (bare : Statement.sitesOfList statements = []) :
    Statement.numberedList start statements = statements := by
  match statements with
  | [] => rfl
  | first :: rest =>
      rcases List.append_eq_nil_iff.mp bare with ⟨firstBare, restBare⟩
      rw [Statement.numberedList, Statement.numbered_of_bare _ first firstBare,
        Statement.numberedList_of_bare _ rest restBare]

end

/-- A function has the literals of its body, so without these it stays as it is. -/
theorem FunctionDefinition.numbered_of_bare
    (start : Nat)
    (definition : FunctionDefinition)
    (bare : definition.sites = []) :
    definition.numbered start = definition := by
  rw [FunctionDefinition.numbered, Block.numbered_of_bare start definition.body bare]

theorem FunctionDefinition.numberedList_of_bare
    (start : Nat)
    (definitions : List FunctionDefinition)
    (bare : FunctionDefinition.sitesOfList definitions = []) :
    FunctionDefinition.numberedList start definitions = definitions := by
  induction definitions generalizing start with
  | nil => rfl
  | cons first rest hypothesis =>
      rcases List.append_eq_nil_iff.mp bare with ⟨firstBare, restBare⟩
      rw [FunctionDefinition.numberedList, first.numbered_of_bare start firstBare,
        hypothesis _ restBare]

/-! ## Fixed points -/

/-- Extraction from the tree gives it back and finds nothing, from each index that fits a machine word. -/
def IsFixedPoint
    {Tree Holes Error : Type}
    (extraction : Tree → Nat → Except Error (Tree × Holes))
    (nothing : Nat → Holes)
    (tree : Tree) :
    Prop :=
  ∀ index < indexBound, extraction tree index = .ok (tree, nothing index)

/-- All that an extraction gives, from whichever tree and index, are fixed points of it. -/
def Settles
    {Tree Holes Error : Type}
    (extraction : Tree → Nat → Except Error (Tree × Holes))
    (nothing : Nat → Holes) :
    Prop :=
  ∀ tree index replaced holes,
    extraction tree index = .ok (replaced, holes) → IsFixedPoint extraction nothing replaced

/--
An extraction that validates a tree and numbers its sites gives fixed points if a numbered tree is as
valid as the tree and has no sites, and a tree without sites stays as it is.
-/
theorem settles_of_replacement
    {Tree : Type}
    {extraction : Tree → Nat → Except Failure (Tree × HoleRun)}
    {validate : Tree → Except ProgramError Unit}
    {sites : Tree → List LiteralSite}
    {numbered : Nat → Tree → Tree}
    (isReplacement :
      ∀ tree index,
        extraction tree index =
          replacement (validate tree) index (sites tree) (numbered index tree))
    (asValid : ∀ index tree, validate (numbered index tree) = validate tree)
    (bare : ∀ index tree, sites (numbered index tree) = [])
    (still : ∀ index tree, sites tree = [] → numbered index tree = tree) :
    Settles extraction HoleRun.startingAt := by
  intro tree index replaced run extracted second _
  rw [isReplacement] at extracted
  rcases of_replacement extracted with ⟨valid, same⟩
  cases same
  rw [isReplacement, asValid, valid, bare, still second _ (bare index tree)]
  exact HoleRun.outcome_nil _

theorem Expression.settles :
    Settles Expression.replaceLiterals HoleRun.startingAt := by
  intro expression index replaced run extracted second _
  rw [Expression.replaceLiterals_eq, HoleRun.outcome_eq_ok_iff] at extracted
  rcases Prod.mk.inj extracted.2 with ⟨rfl, _⟩
  have bare := expression.literals_numbered index
  rw [Expression.replaceLiterals_eq, bare, Expression.numbered_of_bare second _ bare]
  exact HoleRun.outcome_nil _

theorem Statement.settles :
    Settles Statement.replaceLiterals HoleRun.startingAt :=
  settles_of_replacement Statement.replaceLiterals_eq Statement.validate_numbered
    Statement.sites_numbered Statement.numbered_of_bare

theorem Block.settles :
    Settles Block.replaceLiterals HoleRun.startingAt :=
  settles_of_replacement Block.replaceLiterals_eq Block.validate_numbered Block.sites_numbered
    Block.numbered_of_bare

theorem FunctionDefinition.settles :
    Settles FunctionDefinition.replaceLiterals HoleRun.startingAt :=
  settles_of_replacement FunctionDefinition.replaceLiterals_eq_replacement
    (fun index definition => definition.body.validate_numbered index)
    (fun index definition => definition.body.sites_numbered index)
    FunctionDefinition.numbered_of_bare

/-- Each function of a program asks for the next index, so here the second index has to fit. -/
theorem Program.settles :
    Settles Program.replaceLiterals HoleTable.startingAt := by
  intro program index replaced table extracted second word
  have originalValid := Program.valid_of_replaceLiterals extracted
  rcases Program.eq_of_replaceLiterals extracted with ⟨rfl, _⟩
  have valid :
      ∀ definition ∈ (program.numbered index).functions, definition.body.validate = .ok () :=
    FunctionDefinition.valid_numberedList originalValid index
  have bare : FunctionDefinition.sitesOfList (program.numbered index).functions = [] :=
    program.sites_numbered index
  have fits :
      (HoleTable.startingAt second).next
          + (FunctionDefinition.sitesOfList (program.numbered index).functions).length
        < indexBound := by
    rw [bare]
    exact word
  rw [Program.replaceLiterals, FunctionDefinition.replaceList_of_valid _ _ valid fits,
    FunctionDefinition.numberedList_of_bare _ _ bare, bare, HoleTable.extended_nil]
  rfl

/--
Extraction is done after one pass. What it gives from a program, a function, a block, a statement or an
expression, whatever the index was, is a fixed point: a second extraction succeeds from every index that
fits a machine word, whether or not the tree has a hole of that index, gives an equal tree, and ends with
the empty table or run of the second index.
-/
theorem replaceLiterals_settles :
    Settles Program.replaceLiterals HoleTable.startingAt ∧
      Settles FunctionDefinition.replaceLiterals HoleRun.startingAt ∧
      Settles Block.replaceLiterals HoleRun.startingAt ∧
      Settles Statement.replaceLiterals HoleRun.startingAt ∧
      Settles Expression.replaceLiterals HoleRun.startingAt :=
  ⟨Program.settles, FunctionDefinition.settles, Block.settles, Statement.settles,
    Expression.settles⟩

/-- The matrix sample once more, from the index of one of its new holes and from the last index. -/
theorem Samples.matrix_settled :
    matrix.replaceLiterals 0 =
        .ok (matrix.numbered 0, (HoleTable.startingAt 0).extended matrix.sites) ∧
      (matrix.numbered 0).replaceLiterals 3 = .ok (matrix.numbered 0, .startingAt 3) ∧
      (matrix.numbered 0).replaceLiterals 0xffffffffffffffff =
        .ok (matrix.numbered 0, .startingAt 0xffffffffffffffff) := by
  have extracted :
      matrix.replaceLiterals 0 =
        .ok (matrix.numbered 0, (HoleTable.startingAt 0).extended matrix.sites) := rfl
  have fixed := replaceLiterals_settles.1 matrix 0 _ _ extracted
  exact ⟨extracted, fixed 3 (by decide), fixed 0xffffffffffffffff (by decide)⟩

end SynthesisHoles
