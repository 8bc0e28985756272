import SynthesisHoles.Tree.Program

/-!
# Equality of trees

Trees are compared node by node. The comparison answers yes exactly on equal trees, which makes
equality decidable on expressions, places, statements, blocks, functions and programs.
-/

namespace SynthesisHoles

mutual

/-- Whether two expressions are the same tree. -/
def Expression.same : Expression → Expression → Bool
  | .literal left, .literal right => left = right
  | .hole left, .hole right => left = right
  | .var left, .var right => left = right
  | .field left leftMember, .field right rightMember =>
      left.same right && leftMember = rightMember
  | .element left leftPosition, .element right rightPosition =>
      left.same right && leftPosition.same rightPosition
  | .array left, .array right => Expression.sameList left right
  | .call left leftArguments, .call right rightArguments =>
      left = right && Expression.sameList leftArguments rightArguments
  | .conditional left leftTrue leftFalse, .conditional right rightTrue rightFalse =>
      left.same right && leftTrue.same rightTrue && leftFalse.same rightFalse
  | _, _ => false

def Expression.sameList : List Expression → List Expression → Bool
  | [], [] => true
  | left :: leftRest, right :: rightRest =>
      left.same right && Expression.sameList leftRest rightRest
  | _, _ => false

end

mutual

theorem Expression.same_iff (left right : Expression) :
    left.same right = true ↔ left = right := by
  match left with
  | .literal _ => cases right <;> simp [Expression.same]
  | .hole _ => cases right <;> simp [Expression.same]
  | .var _ => cases right <;> simp [Expression.same]
  | .field base _ => cases right <;> simp [Expression.same, Expression.same_iff base]
  | .element base position =>
      cases right <;> simp [Expression.same, Expression.same_iff base, Expression.same_iff position]
  | .array items => cases right <;> simp [Expression.same, Expression.sameList_iff items]
  | .call _ arguments => cases right <;> simp [Expression.same, Expression.sameList_iff arguments]
  | .conditional condition whenTrue whenFalse =>
      cases right <;>
        simp [Expression.same, Expression.same_iff condition, Expression.same_iff whenTrue,
          Expression.same_iff whenFalse, and_assoc]

theorem Expression.sameList_iff (left right : List Expression) :
    Expression.sameList left right = true ↔ left = right := by
  match left with
  | [] => cases right <;> simp [Expression.sameList]
  | first :: rest =>
      cases right <;>
        simp [Expression.sameList, Expression.same_iff first, Expression.sameList_iff rest]

end

instance : DecidableEq Expression :=
  fun left right => decidable_of_iff _ (left.same_iff right)

deriving instance DecidableEq for Place

mutual

/-- Whether two statements are the same tree. -/
def Statement.same : Statement → Statement → Bool
  | .block leftLine left, .block rightLine right => leftLine = rightLine && left.same right
  | .declare leftLine left leftInitial, .declare rightLine right rightInitial =>
      leftLine = rightLine && left = right && leftInitial = rightInitial
  | .assign leftLine left leftValue, .assign rightLine right rightValue =>
      leftLine = rightLine && left = right && leftValue = rightValue
  | .evaluate leftLine left, .evaluate rightLine right => leftLine = rightLine && left = right
  | .branch leftLine left leftConsequent leftAlternative,
    .branch rightLine right rightConsequent rightAlternative =>
      leftLine = rightLine && left = right && leftConsequent.same rightConsequent
        && Statement.sameOption leftAlternative rightAlternative
  | .whileLoop leftLine left leftBody, .whileLoop rightLine right rightBody =>
      leftLine = rightLine && left = right && Statement.sameOption leftBody rightBody
  | .doWhile leftLine leftBody left, .doWhile rightLine rightBody right =>
      leftLine = rightLine && Statement.sameOption leftBody rightBody && left = right
  | .forLoop leftLine leftInitial left leftUpdate leftBody,
    .forLoop rightLine rightInitial right rightUpdate rightBody =>
      leftLine = rightLine && Statement.sameOption leftInitial rightInitial && left = right
        && Statement.sameOption leftUpdate rightUpdate
        && Statement.sameOption leftBody rightBody
  | .returnWith leftLine left, .returnWith rightLine right => leftLine = rightLine && left = right
  | .assertion leftLine left, .assertion rightLine right => leftLine = rightLine && left = right
  | .breakLoop left, .breakLoop right => left = right
  | .continueLoop left, .continueLoop right => left = right
  | .empty left, .empty right => left = right
  | _, _ => false

/-- Whether two blocks are the same tree. -/
def Block.same : Block → Block → Bool
  | .mk leftLine left, .mk rightLine right =>
      leftLine = rightLine && Statement.sameList left right

/-- Whether two optional statements are both missing, or the same tree. -/
def Statement.sameOption : Option Statement → Option Statement → Bool
  | none, none => true
  | some left, some right => left.same right
  | _, _ => false

def Statement.sameList : List Statement → List Statement → Bool
  | [], [] => true
  | left :: leftRest, right :: rightRest =>
      left.same right && Statement.sameList leftRest rightRest
  | _, _ => false

end

mutual

theorem Statement.same_iff (left right : Statement) :
    left.same right = true ↔ left = right := by
  match left with
  | .block _ body => cases right <;> simp [Statement.same, Block.same_iff body]
  | .declare .. => cases right <;> simp [Statement.same, and_assoc]
  | .assign .. => cases right <;> simp [Statement.same, and_assoc]
  | .evaluate .. => cases right <;> simp [Statement.same]
  | .branch _ _ consequent alternative =>
      cases right <;>
        simp [Statement.same, Statement.same_iff consequent,
          Statement.sameOption_iff alternative, and_assoc]
  | .whileLoop _ _ body =>
      cases right <;> simp [Statement.same, Statement.sameOption_iff body, and_assoc]
  | .doWhile _ body _ =>
      cases right <;> simp [Statement.same, Statement.sameOption_iff body, and_assoc]
  | .forLoop _ initial _ update body =>
      cases right <;>
        simp [Statement.same, Statement.sameOption_iff initial,
          Statement.sameOption_iff update, Statement.sameOption_iff body, and_assoc]
  | .returnWith .. => cases right <;> simp [Statement.same]
  | .assertion .. => cases right <;> simp [Statement.same]
  | .breakLoop _ => cases right <;> simp [Statement.same]
  | .continueLoop _ => cases right <;> simp [Statement.same]
  | .empty _ => cases right <;> simp [Statement.same]

theorem Block.same_iff (left right : Block) :
    left.same right = true ↔ left = right := by
  match left with
  | .mk _ statements => cases right; simp [Block.same, Statement.sameList_iff statements]

theorem Statement.sameOption_iff (left right : Option Statement) :
    Statement.sameOption left right = true ↔ left = right := by
  match left with
  | none => cases right <;> simp [Statement.sameOption]
  | some statement =>
      cases right <;> simp [Statement.sameOption, Statement.same_iff statement]

theorem Statement.sameList_iff (left right : List Statement) :
    Statement.sameList left right = true ↔ left = right := by
  match left with
  | [] => cases right <;> simp [Statement.sameList]
  | first :: rest =>
      cases right <;>
        simp [Statement.sameList, Statement.same_iff first, Statement.sameList_iff rest]

end

instance : DecidableEq Statement :=
  fun left right => decidable_of_iff _ (left.same_iff right)

instance : DecidableEq Block :=
  fun left right => decidable_of_iff _ (left.same_iff right)

deriving instance DecidableEq for FunctionDefinition

deriving instance DecidableEq for Program

end SynthesisHoles
