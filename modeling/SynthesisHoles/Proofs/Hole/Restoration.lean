import Mathlib.Data.List.Nodup
import SynthesisHoles.Proofs.Hole.ExtractionLaw

/-!
# Extraction loses nothing

Filling the holes of a tree puts an expression in the place of each hole. The main statement says that
filling the holes of an extracted program from its table gives back the program, and that each index of
the table is that of exactly one hole in it. The program may have had holes before, as long as none of
them has an index that the extraction gives out.
-/

namespace SynthesisHoles

/-! ## Holes of a tree -/

mutual

/-- Indices of the holes of an expression, in reading order. -/
def Expression.holeIndices : Expression → List Nat
  | .literal _ => []
  | .hole index => [index]
  | .var _ => []
  | .field base _ => base.holeIndices
  | .element base position => base.holeIndices ++ position.holeIndices
  | .array items => Expression.holeIndicesOfList items
  | .call _ arguments => Expression.holeIndicesOfList arguments
  | .conditional condition whenTrue whenFalse =>
      condition.holeIndices ++ (whenTrue.holeIndices ++ whenFalse.holeIndices)

def Expression.holeIndicesOfList : List Expression → List Nat
  | [] => []
  | first :: rest => first.holeIndices ++ Expression.holeIndicesOfList rest

end

def Expression.holeIndicesOfOption : Option Expression → List Nat
  | none => []
  | some expression => expression.holeIndices

/-- Indices of the holes of a place. -/
def Place.holeIndices : Place → List Nat
  | .var _ => []
  | .element base position => base.holeIndices ++ position.holeIndices
  | .field base _ => base.holeIndices

mutual

/-- Indices of the holes of a statement, in the order in which literals are numbered. -/
def Statement.holeIndices : Statement → List Nat
  | .block _ body => body.holeIndices
  | .declare _ _ initial => Expression.holeIndicesOfOption initial
  | .assign _ place value => place.holeIndices ++ value.holeIndices
  | .evaluate _ expression => expression.holeIndices
  | .branch _ condition consequent alternative =>
      condition.holeIndices
        ++ (consequent.holeIndices ++ Statement.holeIndicesOfOption alternative)
  | .whileLoop _ condition body =>
      condition.holeIndices ++ Statement.holeIndicesOfOption body
  | .doWhile _ body condition =>
      Statement.holeIndicesOfOption body ++ condition.holeIndices
  | .forLoop _ initial condition update body =>
      Statement.holeIndicesOfOption initial
        ++ (Expression.holeIndicesOfOption condition
          ++ (Statement.holeIndicesOfOption update ++ Statement.holeIndicesOfOption body))
  | .returnWith _ value => Expression.holeIndicesOfOption value
  | .assertion _ condition => condition.holeIndices
  | .breakLoop _ => []
  | .continueLoop _ => []
  | .empty _ => []

/-- Indices of the holes of a block. -/
def Block.holeIndices : Block → List Nat
  | .mk _ statements => Statement.holeIndicesOfList statements

def Statement.holeIndicesOfOption : Option Statement → List Nat
  | none => []
  | some statement => statement.holeIndices

def Statement.holeIndicesOfList : List Statement → List Nat
  | [] => []
  | first :: rest => first.holeIndices ++ Statement.holeIndicesOfList rest

end

def FunctionDefinition.holeIndicesOfList : List FunctionDefinition → List Nat
  | [] => []
  | first :: rest => first.body.holeIndices ++ FunctionDefinition.holeIndicesOfList rest

/-- Indices of the holes of a program. -/
def Program.holeIndices (program : Program) : List Nat :=
  FunctionDefinition.holeIndicesOfList program.functions

/-! ## Filling holes -/

mutual

/-- The expression with its holes filled. -/
def Expression.filled (fill : Nat → Expression) : Expression → Expression
  | .literal value => .literal value
  | .hole index => fill index
  | .var name => .var name
  | .field base member => .field (base.filled fill) member
  | .element base position => .element (base.filled fill) (position.filled fill)
  | .array items => .array (Expression.filledList fill items)
  | .call callee arguments => .call callee (Expression.filledList fill arguments)
  | .conditional condition whenTrue whenFalse =>
      .conditional (condition.filled fill) (whenTrue.filled fill) (whenFalse.filled fill)

def Expression.filledList (fill : Nat → Expression) : List Expression → List Expression
  | [] => []
  | first :: rest => first.filled fill :: Expression.filledList fill rest

end

def Expression.filledOption (fill : Nat → Expression) : Option Expression → Option Expression
  | none => none
  | some expression => some (expression.filled fill)

/-- The place with its holes filled. -/
def Place.filled (fill : Nat → Expression) : Place → Place
  | .var name => .var name
  | .element base position => .element (base.filled fill) (position.filled fill)
  | .field base member => .field (base.filled fill) member

mutual

/-- The statement with its holes filled. -/
def Statement.filled (fill : Nat → Expression) : Statement → Statement
  | .block line body => .block line (body.filled fill)
  | .declare line binding initial =>
      .declare line binding (Expression.filledOption fill initial)
  | .assign line place value => .assign line (place.filled fill) (value.filled fill)
  | .evaluate line expression => .evaluate line (expression.filled fill)
  | .branch line condition consequent alternative =>
      .branch line (condition.filled fill) (consequent.filled fill)
        (Statement.filledOption fill alternative)
  | .whileLoop line condition body =>
      .whileLoop line (condition.filled fill) (Statement.filledOption fill body)
  | .doWhile line body condition =>
      .doWhile line (Statement.filledOption fill body) (condition.filled fill)
  | .forLoop line initial condition update body =>
      .forLoop line (Statement.filledOption fill initial)
        (Expression.filledOption fill condition) (Statement.filledOption fill update)
        (Statement.filledOption fill body)
  | .returnWith line value => .returnWith line (Expression.filledOption fill value)
  | .assertion line condition => .assertion line (condition.filled fill)
  | .breakLoop line => .breakLoop line
  | .continueLoop line => .continueLoop line
  | .empty line => .empty line

/-- The block with its holes filled. -/
def Block.filled (fill : Nat → Expression) : Block → Block
  | .mk line statements => .mk line (Statement.filledList fill statements)

def Statement.filledOption (fill : Nat → Expression) : Option Statement → Option Statement
  | none => none
  | some statement => some (statement.filled fill)

def Statement.filledList (fill : Nat → Expression) : List Statement → List Statement
  | [] => []
  | first :: rest => first.filled fill :: Statement.filledList fill rest

end

/-- The function with the holes of its body filled. -/
def FunctionDefinition.filled
    (fill : Nat → Expression)
    (definition : FunctionDefinition) :
    FunctionDefinition :=
  { definition with body := definition.body.filled fill }

/-- The program with its holes filled. -/
def Program.filled (fill : Nat → Expression) (program : Program) : Program where
  functions := program.functions.map (FunctionDefinition.filled fill)

/-- What a table puts in the place of a hole: the literal that it keeps, or the hole itself. -/
def HoleTable.literalFor (table : HoleTable) (index : Nat) : Expression :=
  match table.hole? index with
  | some hole => .literal hole.value
  | none => .hole index

/-- The program with its holes filled from a table. -/
def Program.restored (table : HoleTable) (program : Program) : Program :=
  program.filled table.literalFor

/-! ## Filling undoes numbering -/

/--
A filling restores a tree with some holes and literals that was numbered from a start: it keeps the
holes, and it puts each literal in the place of the hole of its number.
-/
structure Restores
    (fill : Nat → Expression)
    (start : Nat)
    (holes : List Nat)
    (literals : List Literal) : Prop where
  kept : ∀ index ∈ holes, fill index = .hole index
  filled :
    ∀ (position : Nat) (value : Literal),
      literals[position]? = some value → fill (start + position) = .literal value

namespace Restores

variable
  {fill : Nat → Expression}
  {start : Nat}
  {leftHoles rightHoles : List Nat}
  {leftLiterals rightLiterals : List Literal}

/-- What restores a tree restores its first part. -/
theorem left
    (both :
      Restores fill start (leftHoles ++ rightHoles) (leftLiterals ++ rightLiterals)) :
    Restores fill start leftHoles leftLiterals where
  kept index member := both.kept index (List.mem_append_left rightHoles member)
  filled position value there := by
    have inside : position < leftLiterals.length :=
      (List.getElem?_eq_some_iff.mp there).1
    apply both.filled position value
    rw [List.getElem?_append_left inside]
    exact there

/-- What restores a tree restores its second part, numbered after the first. -/
theorem right
    (both :
      Restores fill start (leftHoles ++ rightHoles) (leftLiterals ++ rightLiterals)) :
    Restores fill (start + leftLiterals.length) rightHoles rightLiterals where
  kept index member := both.kept index (List.mem_append_right leftHoles member)
  filled position value there := by
    rw [Nat.add_assoc]
    apply both.filled (leftLiterals.length + position) value
    rw [List.getElem?_append_right (Nat.le_add_right _ _), Nat.add_sub_cancel_left]
    exact there

end Restores

mutual

theorem Expression.filled_numbered
    {fill : Nat → Expression}
    {start : Nat}
    (expression : Expression)
    (restores : Restores fill start expression.holeIndices expression.literals) :
    (expression.numbered start).filled fill = expression := by
  match expression with
  | .literal value => exact restores.filled 0 value rfl
  | .hole index => exact restores.kept index List.mem_cons_self
  | .var _ => rfl
  | .field base _ =>
      rw [Expression.numbered, Expression.filled, Expression.filled_numbered base restores]
  | .element base position =>
      have inBase := Expression.filled_numbered base restores.left
      have inPosition := Expression.filled_numbered position restores.right
      rw [Expression.numbered, Expression.filled, inBase, inPosition]
  | .array items =>
      rw [Expression.numbered, Expression.filled,
        Expression.filledList_numberedList items restores]
  | .call _ arguments =>
      rw [Expression.numbered, Expression.filled,
        Expression.filledList_numberedList arguments restores]
  | .conditional condition whenTrue whenFalse =>
      have inCondition := Expression.filled_numbered condition restores.left
      have inWhenTrue := Expression.filled_numbered whenTrue restores.right.left
      have inWhenFalse := Expression.filled_numbered whenFalse restores.right.right
      rw [Expression.numbered, Expression.filled, inCondition, inWhenTrue, inWhenFalse]

theorem Expression.filledList_numberedList
    {fill : Nat → Expression}
    {start : Nat}
    (expressions : List Expression)
    (restores :
      Restores fill start (Expression.holeIndicesOfList expressions)
        (Expression.literalsOfList expressions)) :
    Expression.filledList fill (Expression.numberedList start expressions) = expressions := by
  match expressions with
  | [] => rfl
  | first :: rest =>
      have inFirst := Expression.filled_numbered first restores.left
      have inRest := Expression.filledList_numberedList rest restores.right
      rw [Expression.numberedList, Expression.filledList, inFirst, inRest]

end

theorem Expression.filledOption_numberedOption
    {fill : Nat → Expression}
    {start : Nat}
    (expression : Option Expression)
    (restores :
      Restores fill start (Expression.holeIndicesOfOption expression)
        (Expression.literalsOfOption expression)) :
    Expression.filledOption fill (Expression.numberedOption start expression) = expression := by
  cases expression with
  | none => rfl
  | some expression =>
      rw [Expression.numberedOption, Expression.filledOption,
        Expression.filled_numbered expression restores]

theorem Place.filled_numbered
    {fill : Nat → Expression}
    {start : Nat}
    (place : Place)
    (restores : Restores fill start place.holeIndices place.literals) :
    (place.numbered start).filled fill = place := by
  cases place with
  | var _ => rfl
  | element base position =>
      have inBase := Expression.filled_numbered base restores.left
      have inPosition := Expression.filled_numbered position restores.right
      rw [Place.numbered, Place.filled, inBase, inPosition]
  | field base _ =>
      rw [Place.numbered, Place.filled, Expression.filled_numbered base restores]

/-- Values of sites, in order. -/
def valuesOf (sites : List LiteralSite) : List Literal :=
  sites.map LiteralSite.value

@[simp]
theorem valuesOf_append (left right : List LiteralSite) :
    valuesOf (left ++ right) = valuesOf left ++ valuesOf right :=
  List.map_append

@[simp]
theorem length_valuesOf (sites : List LiteralSite) :
    (valuesOf sites).length = sites.length :=
  List.length_map _

@[simp]
theorem valuesOf_sitesAt
    (line : Nat)
    (values : List Literal) :
    valuesOf (sitesAt line values) = values := by
  rw [valuesOf, sitesAt, List.map_map]
  exact List.map_id values

mutual

theorem Statement.filled_numbered
    {fill : Nat → Expression}
    {start : Nat}
    (statement : Statement)
    (restores : Restores fill start statement.holeIndices (valuesOf statement.sites)) :
    (statement.numbered start).filled fill = statement := by
  match statement with
  | .block _ body =>
      rw [Statement.numbered, Statement.filled, Block.filled_numbered body restores]
  | .declare _ _ initial =>
      rw [Statement.sites, valuesOf_sitesAt] at restores
      rw [Statement.numbered, Statement.filled,
        Expression.filledOption_numberedOption initial restores]
  | .assign _ place value =>
      rw [Statement.sites, valuesOf_append, valuesOf_sitesAt, valuesOf_sitesAt] at restores
      have inPlace := Place.filled_numbered place restores.left
      have inValue := Expression.filled_numbered value restores.right
      rw [Statement.numbered, Statement.filled, inPlace, inValue]
  | .evaluate _ expression =>
      rw [Statement.sites, valuesOf_sitesAt] at restores
      rw [Statement.numbered, Statement.filled, Expression.filled_numbered expression restores]
  | .branch _ condition consequent alternative =>
      rw [Statement.sites, valuesOf_append, valuesOf_append, valuesOf_sitesAt] at restores
      have afterConsequent := restores.right.right
      rw [length_valuesOf] at afterConsequent
      have inCondition := Expression.filled_numbered condition restores.left
      have inConsequent := Statement.filled_numbered consequent restores.right.left
      have inAlternative := Statement.filledOption_numberedOption alternative afterConsequent
      rw [Statement.numbered, Statement.filled, inCondition, inConsequent, inAlternative]
  | .whileLoop _ condition body =>
      rw [Statement.sites, valuesOf_append, valuesOf_sitesAt] at restores
      have inCondition := Expression.filled_numbered condition restores.left
      have inBody := Statement.filledOption_numberedOption body restores.right
      rw [Statement.numbered, Statement.filled, inCondition, inBody]
  | .doWhile _ body condition =>
      rw [Statement.sites, valuesOf_append, valuesOf_sitesAt] at restores
      have afterBody := restores.right
      rw [length_valuesOf] at afterBody
      have inBody := Statement.filledOption_numberedOption body restores.left
      have inCondition := Expression.filled_numbered condition afterBody
      rw [Statement.numbered, Statement.filled, inBody, inCondition]
  | .forLoop _ initial condition update body =>
      rw [Statement.sites, valuesOf_append, valuesOf_append, valuesOf_append,
        valuesOf_sitesAt] at restores
      have afterInitial := restores.right
      rw [length_valuesOf] at afterInitial
      have afterUpdate := afterInitial.right.right
      rw [length_valuesOf] at afterUpdate
      have inInitial := Statement.filledOption_numberedOption initial restores.left
      have inCondition := Expression.filledOption_numberedOption condition afterInitial.left
      have inUpdate := Statement.filledOption_numberedOption update afterInitial.right.left
      have inBody := Statement.filledOption_numberedOption body afterUpdate
      simp only [Statement.numbered, Statement.filled, inInitial, inCondition, inUpdate, inBody]
  | .returnWith _ value =>
      rw [Statement.sites, valuesOf_sitesAt] at restores
      rw [Statement.numbered, Statement.filled,
        Expression.filledOption_numberedOption value restores]
  | .assertion _ condition =>
      rw [Statement.sites, valuesOf_sitesAt] at restores
      rw [Statement.numbered, Statement.filled, Expression.filled_numbered condition restores]
  | .breakLoop _ => rfl
  | .continueLoop _ => rfl
  | .empty _ => rfl

theorem Block.filled_numbered
    {fill : Nat → Expression}
    {start : Nat}
    (block : Block)
    (restores : Restores fill start block.holeIndices (valuesOf block.sites)) :
    (block.numbered start).filled fill = block := by
  match block with
  | .mk _ statements =>
      rw [Block.numbered, Block.filled,
        Statement.filledList_numberedList statements restores]

theorem Statement.filledOption_numberedOption
    {fill : Nat → Expression}
    {start : Nat}
    (statement : Option Statement)
    (restores :
      Restores fill start (Statement.holeIndicesOfOption statement)
        (valuesOf (Statement.sitesOfOption statement))) :
    Statement.filledOption fill (Statement.numberedOption start statement) = statement := by
  match statement with
  | none => rfl
  | some statement =>
      rw [Statement.numberedOption, Statement.filledOption,
        Statement.filled_numbered statement restores]

theorem Statement.filledList_numberedList
    {fill : Nat → Expression}
    {start : Nat}
    (statements : List Statement)
    (restores :
      Restores fill start (Statement.holeIndicesOfList statements)
        (valuesOf (Statement.sitesOfList statements))) :
    Statement.filledList fill (Statement.numberedList start statements) = statements := by
  match statements with
  | [] => rfl
  | first :: rest =>
      rw [Statement.sitesOfList, valuesOf_append] at restores
      have afterFirst := restores.right
      rw [length_valuesOf] at afterFirst
      have inFirst := Statement.filled_numbered first restores.left
      have inRest := Statement.filledList_numberedList rest afterFirst
      rw [Statement.numberedList, Statement.filledList, inFirst, inRest]

end

theorem FunctionDefinition.map_filled_numberedList
    {fill : Nat → Expression}
    {start : Nat}
    (definitions : List FunctionDefinition)
    (restores :
      Restores fill start (FunctionDefinition.holeIndicesOfList definitions)
        (valuesOf (FunctionDefinition.sitesOfList definitions))) :
    (FunctionDefinition.numberedList start definitions).map (FunctionDefinition.filled fill) =
      definitions := by
  induction definitions generalizing start with
  | nil => rfl
  | cons first rest hypothesis =>
      rw [FunctionDefinition.sitesOfList, valuesOf_append] at restores
      have inRest := restores.right
      rw [length_valuesOf] at inRest
      have inFirst : (first.numbered start).filled fill = first := by
        rw [FunctionDefinition.numbered, FunctionDefinition.filled,
          Block.filled_numbered first.body restores.left]
      rw [FunctionDefinition.numberedList, List.map_cons, inFirst, hypothesis inRest]

/-! ## Holes of a numbered tree -/

/-- An index comes up in two ranges after each other as often as in both together. -/
theorem count_range'_add
    (index start left right : Nat) :
    (List.range' start (left + right)).count index =
      (List.range' start left).count index
        + (List.range' (start + left) right).count index := by
  rw [← List.range'_append_1, List.count_append]

mutual

/-- A numbered tree has the holes that it had before, and one for each number. -/
theorem Expression.count_holeIndices_numbered
    (index start : Nat)
    (expression : Expression) :
    (expression.numbered start).holeIndices.count index =
      expression.holeIndices.count index
        + (List.range' start expression.literals.length).count index := by
  match expression with
  | .literal _ => exact (Nat.zero_add _).symm
  | .hole _ => rfl
  | .var _ => rfl
  | .field base _ => exact Expression.count_holeIndices_numbered index start base
  | .element base position =>
      simp only [Expression.numbered, Expression.holeIndices, Expression.literals,
        List.count_append, List.length_append, count_range'_add,
        Expression.count_holeIndices_numbered index _ base,
        Expression.count_holeIndices_numbered index _ position]
      omega
  | .array items => exact Expression.count_holeIndices_numberedList index start items
  | .call _ arguments => exact Expression.count_holeIndices_numberedList index start arguments
  | .conditional condition whenTrue whenFalse =>
      simp only [Expression.numbered, Expression.holeIndices, Expression.literals,
        List.count_append, List.length_append, count_range'_add,
        Expression.count_holeIndices_numbered index _ condition,
        Expression.count_holeIndices_numbered index _ whenTrue,
        Expression.count_holeIndices_numbered index _ whenFalse]
      omega

theorem Expression.count_holeIndices_numberedList
    (index start : Nat)
    (expressions : List Expression) :
    (Expression.holeIndicesOfList (Expression.numberedList start expressions)).count index =
      (Expression.holeIndicesOfList expressions).count index
        + (List.range' start (Expression.literalsOfList expressions).length).count index := by
  match expressions with
  | [] => rfl
  | first :: rest =>
      simp only [Expression.numberedList, Expression.holeIndicesOfList,
        Expression.literalsOfList, List.count_append, List.length_append, count_range'_add,
        Expression.count_holeIndices_numbered index _ first,
        Expression.count_holeIndices_numberedList index _ rest]
      omega

end

theorem Expression.count_holeIndices_numberedOption
    (index start : Nat)
    (expression : Option Expression) :
    (Expression.holeIndicesOfOption (Expression.numberedOption start expression)).count index =
      (Expression.holeIndicesOfOption expression).count index
        + (List.range' start (Expression.literalsOfOption expression).length).count index := by
  cases expression with
  | none => rfl
  | some expression => exact Expression.count_holeIndices_numbered index start expression

theorem Place.count_holeIndices_numbered
    (index start : Nat)
    (place : Place) :
    (place.numbered start).holeIndices.count index =
      place.holeIndices.count index
        + (List.range' start place.literals.length).count index := by
  cases place with
  | var _ => rfl
  | element base position =>
      simp only [Place.numbered, Place.holeIndices, Place.literals, List.count_append,
        List.length_append, count_range'_add, Expression.count_holeIndices_numbered]
      omega
  | field base _ => exact Expression.count_holeIndices_numbered index start base

mutual

theorem Statement.count_holeIndices_numbered
    (index start : Nat)
    (statement : Statement) :
    (statement.numbered start).holeIndices.count index =
      statement.holeIndices.count index
        + (List.range' start statement.sites.length).count index := by
  match statement with
  | .block _ body => exact Block.count_holeIndices_numbered index start body
  | .declare _ _ initial =>
      simp only [Statement.numbered, Statement.holeIndices, Statement.sites, length_sitesAt,
        Expression.count_holeIndices_numberedOption]
  | .assign _ place value =>
      simp only [Statement.numbered, Statement.holeIndices, Statement.sites, length_sitesAt,
        List.count_append, List.length_append, count_range'_add,
        Place.count_holeIndices_numbered, Expression.count_holeIndices_numbered]
      omega
  | .evaluate _ expression =>
      simp only [Statement.numbered, Statement.holeIndices, Statement.sites, length_sitesAt,
        Expression.count_holeIndices_numbered]
  | .branch _ condition consequent alternative =>
      simp only [Statement.numbered, Statement.holeIndices, Statement.sites, length_sitesAt,
        List.count_append, List.length_append, count_range'_add,
        Expression.count_holeIndices_numbered,
        Statement.count_holeIndices_numbered index _ consequent,
        Statement.count_holeIndices_numberedOption index _ alternative]
      omega
  | .whileLoop _ condition body =>
      simp only [Statement.numbered, Statement.holeIndices, Statement.sites, length_sitesAt,
        List.count_append, List.length_append, count_range'_add,
        Expression.count_holeIndices_numbered,
        Statement.count_holeIndices_numberedOption index _ body]
      omega
  | .doWhile _ body condition =>
      simp only [Statement.numbered, Statement.holeIndices, Statement.sites, length_sitesAt,
        List.count_append, List.length_append, count_range'_add,
        Expression.count_holeIndices_numbered,
        Statement.count_holeIndices_numberedOption index _ body]
      omega
  | .forLoop _ initial condition update body =>
      simp only [Statement.numbered, Statement.holeIndices, Statement.sites, length_sitesAt,
        List.count_append, List.length_append, count_range'_add,
        Expression.count_holeIndices_numberedOption,
        Statement.count_holeIndices_numberedOption index _ initial,
        Statement.count_holeIndices_numberedOption index _ update,
        Statement.count_holeIndices_numberedOption index _ body]
      omega
  | .returnWith _ value =>
      simp only [Statement.numbered, Statement.holeIndices, Statement.sites, length_sitesAt,
        Expression.count_holeIndices_numberedOption]
  | .assertion _ condition =>
      simp only [Statement.numbered, Statement.holeIndices, Statement.sites, length_sitesAt,
        Expression.count_holeIndices_numbered]
  | .breakLoop _ => rfl
  | .continueLoop _ => rfl
  | .empty _ => rfl

theorem Block.count_holeIndices_numbered
    (index start : Nat)
    (block : Block) :
    (block.numbered start).holeIndices.count index =
      block.holeIndices.count index
        + (List.range' start block.sites.length).count index := by
  match block with
  | .mk _ statements => exact Statement.count_holeIndices_numberedList index start statements

theorem Statement.count_holeIndices_numberedOption
    (index start : Nat)
    (statement : Option Statement) :
    (Statement.holeIndicesOfOption (Statement.numberedOption start statement)).count index =
      (Statement.holeIndicesOfOption statement).count index
        + (List.range' start (Statement.sitesOfOption statement).length).count index := by
  match statement with
  | none => rfl
  | some statement => exact Statement.count_holeIndices_numbered index start statement

theorem Statement.count_holeIndices_numberedList
    (index start : Nat)
    (statements : List Statement) :
    (Statement.holeIndicesOfList (Statement.numberedList start statements)).count index =
      (Statement.holeIndicesOfList statements).count index
        + (List.range' start (Statement.sitesOfList statements).length).count index := by
  match statements with
  | [] => rfl
  | first :: rest =>
      simp only [Statement.numberedList, Statement.holeIndicesOfList, Statement.sitesOfList,
        List.count_append, List.length_append, count_range'_add,
        Statement.count_holeIndices_numbered index _ first,
        Statement.count_holeIndices_numberedList index _ rest]
      omega

end

theorem FunctionDefinition.count_holeIndices_numberedList
    (index start : Nat)
    (definitions : List FunctionDefinition) :
    (FunctionDefinition.holeIndicesOfList
        (FunctionDefinition.numberedList start definitions)).count index =
      (FunctionDefinition.holeIndicesOfList definitions).count index
        + (List.range' start
            (FunctionDefinition.sitesOfList definitions).length).count index := by
  induction definitions generalizing start with
  | nil => rfl
  | cons first rest hypothesis =>
      simp only [FunctionDefinition.numberedList, FunctionDefinition.holeIndicesOfList,
        FunctionDefinition.sitesOfList, FunctionDefinition.sites,
        FunctionDefinition.numbered, List.count_append, List.length_append, count_range'_add,
        Block.count_holeIndices_numbered, hypothesis]
      omega

/-- Filling restores a numbered program. -/
theorem Program.filled_numbered
    {fill : Nat → Expression}
    {start : Nat}
    (program : Program)
    (restores : Restores fill start program.holeIndices (valuesOf program.sites)) :
    (program.numbered start).filled fill = program := by
  rw [Program.filled, Program.numbered,
    FunctionDefinition.map_filled_numberedList program.functions restores]

/-- Each number comes up once in a numbered program, if it did not come up before. -/
theorem Program.count_holeIndices_numbered
    (program : Program)
    {start position : Nat}
    (inside : position < program.sites.length)
    (fresh : start + position ∉ program.holeIndices) :
    (program.numbered start).holeIndices.count (start + position) = 1 := by
  have once :
      (List.range' start program.sites.length).count (start + position) = 1 := by
    apply List.count_eq_one_of_mem List.nodup_range'
    rw [List.mem_range'_1]
    omega
  have total :
      (program.numbered start).holeIndices.count (start + position) =
        program.holeIndices.count (start + position)
          + (List.range' start program.sites.length).count (start + position) :=
    FunctionDefinition.count_holeIndices_numberedList (start + position) start
      program.functions
  rw [total, once, List.count_eq_zero_of_not_mem fresh]

/-! ## Restoring an extracted program -/

/-- The table of an extraction keeps the hole of each site under its number. -/
theorem HoleTable.hole?_add
    (start position : Nat)
    (sites : List LiteralSite) :
    ((HoleTable.startingAt start).extended sites).hole? (start + position) =
      sites[position]?.map fun site => site.toHole (start + position) := by
  have lookup :
      ((HoleTable.startingAt start).extended sites).hole? (start + position) =
        (holesFrom start sites)[start + position - start]? :=
    if_pos (Nat.le_add_right start position)
  rw [lookup, Nat.add_sub_cancel_left, getElem?_holesFrom]

/-- The table of an extraction keeps nothing under an index that was not given out. -/
theorem HoleTable.hole?_eq_none
    {start index : Nat}
    {sites : List LiteralSite}
    (outside : ¬ (start ≤ index ∧ index < start + sites.length)) :
    ((HoleTable.startingAt start).extended sites).hole? index = none := by
  by_cases above : start ≤ index
  · rcases Nat.exists_eq_add_of_le above with ⟨position, rfl⟩
    have beyond : sites.length ≤ position := by omega
    rw [HoleTable.hole?_add, List.getElem?_eq_none beyond, Option.map_none]
  · exact if_neg above

/-- Filling from the table of an extraction restores a tree without holes of its indices. -/
theorem HoleTable.restores_extended
    {start : Nat}
    {holes : List Nat}
    {sites : List LiteralSite}
    (fresh : ∀ index ∈ holes, ¬ (start ≤ index ∧ index < start + sites.length)) :
    Restores ((HoleTable.startingAt start).extended sites).literalFor start holes
      (valuesOf sites) where
  kept index member := by
    rw [HoleTable.literalFor, HoleTable.hole?_eq_none (fresh index member)]
  filled position value there := by
    rw [valuesOf, List.getElem?_map, Option.map_eq_some_iff] at there
    rcases there with ⟨site, found, rfl⟩
    rw [HoleTable.literalFor, HoleTable.hole?_add, found]
    rfl

/--
Extraction loses nothing. If no hole of the program has an index that the extraction gives out, then
filling the holes of the extracted program from the table gives back the program; and each hole of the
table is found there under its index, which is the index of exactly one hole of the extracted program.
-/
theorem Program.restored_of_replaceLiterals
    (program replaced : Program)
    (index : Nat)
    (table : HoleTable)
    (extracted : program.replaceLiterals index = .ok (replaced, table))
    (fresh :
      ∀ hole ∈ program.holeIndices, ¬ (index ≤ hole ∧ hole < index + table.size)) :
    replaced.restored table = program ∧
      ∀ hole ∈ table.holes,
        table.hole? hole.index = some hole ∧
          replaced.holeIndices.count hole.index = 1 := by
  rcases Program.eq_of_replaceLiterals extracted with ⟨rfl, rfl⟩
  have size :
      ((HoleTable.startingAt index).extended program.sites).size = program.sites.length :=
    length_holesFrom index program.sites
  rw [size] at fresh
  constructor
  · exact program.filled_numbered (HoleTable.restores_extended fresh)
  · intro hole member
    rcases List.mem_iff_getElem?.mp member with ⟨position, there⟩
    change (holesFrom index program.sites)[position]? = some hole at there
    rw [getElem?_holesFrom, Option.map_eq_some_iff] at there
    rcases there with ⟨site, found, rfl⟩
    have inside : position < program.sites.length :=
      (List.getElem?_eq_some_iff.mp found).1
    have unused : index + position ∉ program.holeIndices := by
      intro present
      apply fresh (index + position) present
      omega
    constructor
    · have lookup := HoleTable.hole?_add index position program.sites
      rw [found] at lookup
      exact lookup
    · exact program.count_holeIndices_numbered inside unused

/-- A program with three holes already, and eight literals. -/
def Samples.partlyNumbered : Program where
  functions := (counter.numbered 10).functions ++ matrix.functions

/-- The indices given out lie right below those of the holes that were there. -/
theorem Samples.partlyNumbered_restored :
    partlyNumbered.replaceLiterals 2 =
        .ok
          (partlyNumbered.numbered 2,
            (HoleTable.startingAt 2).extended partlyNumbered.sites) ∧
      (∀ hole ∈ partlyNumbered.holeIndices, ¬ (2 ≤ hole ∧ hole < 2 + 8)) ∧
      (partlyNumbered.numbered 2).restored
          ((HoleTable.startingAt 2).extended partlyNumbered.sites) = partlyNumbered := by
  have extracted :
      partlyNumbered.replaceLiterals 2 =
        .ok
          (partlyNumbered.numbered 2,
            (HoleTable.startingAt 2).extended partlyNumbered.sites) := rfl
  have fresh : ∀ hole ∈ partlyNumbered.holeIndices, ¬ (2 ≤ hole ∧ hole < 2 + 8) := by
    decide
  exact
    ⟨extracted, fresh,
      (partlyNumbered.restored_of_replaceLiterals _ 2 _ extracted fresh).1⟩

end SynthesisHoles
