import SynthesisHoles.Tree.Program

/-!
# Literals, holes and numbered trees

Two views of a tree: the literals in it, in the order in which they are to be numbered, and the holes
in it. A site is a literal with the line of the innermost statement around it. The numbered tree has a
hole for each literal; the index of a hole is a start plus the number of literals before it, and all
else is as it was.

The order is left to right in expressions, the place of an assignment before its value, the body of a
loop after its condition unless the condition is tested last, and the parts of a for-header before the
body.
-/

namespace SynthesisHoles

/-! ## Literals in order -/

/-- A literal of a tree and the line of the innermost statement around it. -/
structure LiteralSite where
  value : Literal
  line : Nat
  deriving DecidableEq

/-- Sites of literals that stand directly in a statement at a line. -/
def sitesAt (line : Nat) (values : List Literal) : List LiteralSite :=
  values.map fun value => ⟨value, line⟩

mutual

/-- Literals of an expression. -/
def Expression.literals : Expression → List Literal
  | .literal value => [value]
  | .hole _ => []
  | .var _ => []
  | .field base _ => base.literals
  | .element base position => base.literals ++ position.literals
  | .array items => Expression.literalsOfList items
  | .call _ arguments => Expression.literalsOfList arguments
  | .conditional condition whenTrue whenFalse =>
      condition.literals ++ (whenTrue.literals ++ whenFalse.literals)

def Expression.literalsOfList : List Expression → List Literal
  | [] => []
  | first :: rest => first.literals ++ Expression.literalsOfList rest

end

def Expression.literalsOfOption : Option Expression → List Literal
  | none => []
  | some expression => expression.literals

/-- Literals of a place. -/
def Place.literals : Place → List Literal
  | .var _ => []
  | .element base position => base.literals ++ position.literals
  | .field base _ => base.literals

mutual

/-- Literals of a statement with their lines. -/
def Statement.sites : Statement → List LiteralSite
  | .block _ body => body.sites
  | .declare line _ initial => sitesAt line (Expression.literalsOfOption initial)
  | .assign line place value => sitesAt line place.literals ++ sitesAt line value.literals
  | .evaluate line expression => sitesAt line expression.literals
  | .branch line condition consequent alternative =>
      sitesAt line condition.literals
        ++ (consequent.sites ++ Statement.sitesOfOption alternative)
  | .whileLoop line condition body =>
      sitesAt line condition.literals ++ Statement.sitesOfOption body
  | .doWhile line body condition =>
      Statement.sitesOfOption body ++ sitesAt line condition.literals
  | .forLoop line initial condition update body =>
      Statement.sitesOfOption initial
        ++ (sitesAt line (Expression.literalsOfOption condition)
          ++ (Statement.sitesOfOption update ++ Statement.sitesOfOption body))
  | .returnWith line value => sitesAt line (Expression.literalsOfOption value)
  | .assertion line condition => sitesAt line condition.literals
  | .breakLoop _ => []
  | .continueLoop _ => []
  | .empty _ => []

/-- Literals of a block with their lines. -/
def Block.sites : Block → List LiteralSite
  | .mk _ statements => Statement.sitesOfList statements

def Statement.sitesOfOption : Option Statement → List LiteralSite
  | none => []
  | some statement => statement.sites

def Statement.sitesOfList : List Statement → List LiteralSite
  | [] => []
  | first :: rest => first.sites ++ Statement.sitesOfList rest

end

/-- Literals of a function with their lines. -/
def FunctionDefinition.sites (definition : FunctionDefinition) : List LiteralSite :=
  definition.body.sites

def FunctionDefinition.sitesOfList : List FunctionDefinition → List LiteralSite
  | [] => []
  | first :: rest => first.sites ++ FunctionDefinition.sitesOfList rest

/-- Literals of a program with their lines. -/
def Program.sites (program : Program) : List LiteralSite :=
  FunctionDefinition.sitesOfList program.functions

@[simp]
theorem length_sitesAt
    (line : Nat)
    (values : List Literal) :
    (sitesAt line values).length = values.length :=
  List.length_map _

@[simp]
theorem sitesAt_nil (line : Nat) :
    sitesAt line [] = [] :=
  rfl

/-- There are no sites where there are no literals. -/
@[simp]
theorem sitesAt_eq_nil_iff
    {line : Nat}
    {values : List Literal} :
    sitesAt line values = [] ↔ values = [] :=
  List.map_eq_nil_iff

theorem sitesAt_append
    (line : Nat)
    (left right : List Literal) :
    sitesAt line (left ++ right) = sitesAt line left ++ sitesAt line right :=
  List.map_append

/-! ## Numbered trees -/

mutual

/-- The expression with holes for its literals, numbered from a start. -/
def Expression.numbered : Nat → Expression → Expression
  | start, .literal _ => .hole start
  | _, .hole index => .hole index
  | _, .var name => .var name
  | start, .field base member => .field (base.numbered start) member
  | start, .element base position =>
      .element (base.numbered start) (position.numbered (start + base.literals.length))
  | start, .array items => .array (Expression.numberedList start items)
  | start, .call callee arguments => .call callee (Expression.numberedList start arguments)
  | start, .conditional condition whenTrue whenFalse =>
      .conditional (condition.numbered start)
        (whenTrue.numbered (start + condition.literals.length))
        (whenFalse.numbered (start + condition.literals.length + whenTrue.literals.length))

def Expression.numberedList : Nat → List Expression → List Expression
  | _, [] => []
  | start, first :: rest =>
      first.numbered start :: Expression.numberedList (start + first.literals.length) rest

end

def Expression.numberedOption (start : Nat) : Option Expression → Option Expression
  | none => none
  | some expression => some (expression.numbered start)

/-- The place with holes for its literals, numbered from a start. -/
def Place.numbered (start : Nat) : Place → Place
  | .var name => .var name
  | .element base position =>
      .element (base.numbered start) (position.numbered (start + base.literals.length))
  | .field base member => .field (base.numbered start) member

mutual

/-- The statement with holes for its literals, numbered from a start. -/
def Statement.numbered : Nat → Statement → Statement
  | start, .block line body => .block line (body.numbered start)
  | start, .declare line binding initial =>
      .declare line binding (Expression.numberedOption start initial)
  | start, .assign line place value =>
      .assign line (place.numbered start) (value.numbered (start + place.literals.length))
  | start, .evaluate line expression => .evaluate line (expression.numbered start)
  | start, .branch line condition consequent alternative =>
      .branch line (condition.numbered start)
        (consequent.numbered (start + condition.literals.length))
        (Statement.numberedOption
          (start + condition.literals.length + consequent.sites.length) alternative)
  | start, .whileLoop line condition body =>
      .whileLoop line (condition.numbered start)
        (Statement.numberedOption (start + condition.literals.length) body)
  | start, .doWhile line body condition =>
      .doWhile line (Statement.numberedOption start body)
        (condition.numbered (start + (Statement.sitesOfOption body).length))
  | start, .forLoop line initial condition update body =>
      let inCondition := start + (Statement.sitesOfOption initial).length
      let inUpdate := inCondition + (Expression.literalsOfOption condition).length
      let inBody := inUpdate + (Statement.sitesOfOption update).length
      .forLoop line (Statement.numberedOption start initial)
        (Expression.numberedOption inCondition condition)
        (Statement.numberedOption inUpdate update) (Statement.numberedOption inBody body)
  | start, .returnWith line value => .returnWith line (Expression.numberedOption start value)
  | start, .assertion line condition => .assertion line (condition.numbered start)
  | _, .breakLoop line => .breakLoop line
  | _, .continueLoop line => .continueLoop line
  | _, .empty line => .empty line

/-- The block with holes for its literals, numbered from a start. -/
def Block.numbered : Nat → Block → Block
  | start, .mk line statements => .mk line (Statement.numberedList start statements)

def Statement.numberedOption : Nat → Option Statement → Option Statement
  | _, none => none
  | start, some statement => some (statement.numbered start)

def Statement.numberedList : Nat → List Statement → List Statement
  | _, [] => []
  | start, first :: rest =>
      first.numbered start :: Statement.numberedList (start + first.sites.length) rest

end

/-- The function with holes for the literals of its body, numbered from a start. -/
def FunctionDefinition.numbered
    (start : Nat)
    (definition : FunctionDefinition) :
    FunctionDefinition :=
  { definition with body := definition.body.numbered start }

def FunctionDefinition.numberedList :
    Nat → List FunctionDefinition → List FunctionDefinition
  | _, [] => []
  | start, first :: rest =>
      first.numbered start :: FunctionDefinition.numberedList (start + first.sites.length) rest

/-- The program with holes for its literals, numbered from a start. -/
def Program.numbered (start : Nat) (program : Program) : Program where
  functions := FunctionDefinition.numberedList start program.functions

/-! ## No literal is left -/

mutual

theorem Expression.literals_numbered
    (start : Nat)
    (expression : Expression) :
    (expression.numbered start).literals = [] := by
  match expression with
  | .literal _ => rfl
  | .hole _ => rfl
  | .var _ => rfl
  | .field base _ => exact Expression.literals_numbered start base
  | .element base position =>
      rw [Expression.numbered, Expression.literals, Expression.literals_numbered _ base,
        Expression.literals_numbered _ position, List.nil_append]
  | .array items => exact Expression.literalsOfList_numberedList start items
  | .call _ arguments => exact Expression.literalsOfList_numberedList start arguments
  | .conditional condition whenTrue whenFalse =>
      rw [Expression.numbered, Expression.literals, Expression.literals_numbered _ condition,
        Expression.literals_numbered _ whenTrue, Expression.literals_numbered _ whenFalse,
        List.nil_append, List.nil_append]

theorem Expression.literalsOfList_numberedList
    (start : Nat)
    (expressions : List Expression) :
    Expression.literalsOfList (Expression.numberedList start expressions) = [] := by
  match expressions with
  | [] => rfl
  | first :: rest =>
      rw [Expression.numberedList, Expression.literalsOfList,
        Expression.literals_numbered _ first, Expression.literalsOfList_numberedList _ rest,
        List.nil_append]

end

theorem Expression.literalsOfOption_numberedOption
    (start : Nat)
    (expression : Option Expression) :
    Expression.literalsOfOption (Expression.numberedOption start expression) = [] := by
  cases expression with
  | none => rfl
  | some expression => exact Expression.literals_numbered start expression

theorem Place.literals_numbered
    (start : Nat)
    (place : Place) :
    (place.numbered start).literals = [] := by
  cases place with
  | var _ => rfl
  | element base position =>
      rw [Place.numbered, Place.literals, Expression.literals_numbered,
        Expression.literals_numbered, List.nil_append]
  | field base _ => exact Expression.literals_numbered start base

mutual

theorem Statement.sites_numbered
    (start : Nat)
    (statement : Statement) :
    (statement.numbered start).sites = [] := by
  match statement with
  | .block _ body => exact Block.sites_numbered start body
  | .declare .. =>
      simp [Statement.numbered, Statement.sites, Expression.literalsOfOption_numberedOption]
  | .assign .. =>
      simp [Statement.numbered, Statement.sites, Place.literals_numbered,
        Expression.literals_numbered]
  | .evaluate .. => simp [Statement.numbered, Statement.sites, Expression.literals_numbered]
  | .branch _ _ consequent alternative =>
      simp [Statement.numbered, Statement.sites, Expression.literals_numbered,
        Statement.sites_numbered _ consequent,
        Statement.sitesOfOption_numberedOption _ alternative]
  | .whileLoop _ _ body =>
      simp [Statement.numbered, Statement.sites, Expression.literals_numbered,
        Statement.sitesOfOption_numberedOption _ body]
  | .doWhile _ body _ =>
      simp [Statement.numbered, Statement.sites, Expression.literals_numbered,
        Statement.sitesOfOption_numberedOption _ body]
  | .forLoop _ initial _ update body =>
      simp [Statement.numbered, Statement.sites, Expression.literalsOfOption_numberedOption,
        Statement.sitesOfOption_numberedOption _ initial,
        Statement.sitesOfOption_numberedOption _ update,
        Statement.sitesOfOption_numberedOption _ body]
  | .returnWith .. =>
      simp [Statement.numbered, Statement.sites, Expression.literalsOfOption_numberedOption]
  | .assertion .. => simp [Statement.numbered, Statement.sites, Expression.literals_numbered]
  | .breakLoop _ => rfl
  | .continueLoop _ => rfl
  | .empty _ => rfl

theorem Block.sites_numbered
    (start : Nat)
    (block : Block) :
    (block.numbered start).sites = [] := by
  match block with
  | .mk _ statements => exact Statement.sitesOfList_numberedList start statements

theorem Statement.sitesOfOption_numberedOption
    (start : Nat)
    (statement : Option Statement) :
    Statement.sitesOfOption (Statement.numberedOption start statement) = [] := by
  match statement with
  | none => rfl
  | some statement => exact Statement.sites_numbered start statement

theorem Statement.sitesOfList_numberedList
    (start : Nat)
    (statements : List Statement) :
    Statement.sitesOfList (Statement.numberedList start statements) = [] := by
  match statements with
  | [] => rfl
  | first :: rest =>
      rw [Statement.numberedList, Statement.sitesOfList, Statement.sites_numbered _ first,
        Statement.sitesOfList_numberedList _ rest, List.nil_append]

end

theorem FunctionDefinition.sitesOfList_numberedList
    (start : Nat)
    (definitions : List FunctionDefinition) :
    FunctionDefinition.sitesOfList (FunctionDefinition.numberedList start definitions) = [] := by
  induction definitions generalizing start with
  | nil => rfl
  | cons first rest hypothesis =>
      rw [FunctionDefinition.numberedList, FunctionDefinition.sitesOfList, hypothesis,
        List.append_nil]
      exact Block.sites_numbered start first.body

/-- A numbered program holds no literal. -/
theorem Program.sites_numbered
    (start : Nat)
    (program : Program) :
    (program.numbered start).sites = [] :=
  FunctionDefinition.sitesOfList_numberedList start program.functions

end SynthesisHoles
