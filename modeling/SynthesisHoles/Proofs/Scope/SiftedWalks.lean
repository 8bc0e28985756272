import SynthesisHoles.Proofs.Scope.LexicalScoping

/-!
# Two walks of which one finds less

The walk with environments looks at its environment in two places only: at a use of a variable and at a
declaration. So two walks through the same tree can be compared there. If the second finds, at each such
place, just what a filter keeps of the findings of the first, and the filter keeps the reports of loops that
are not well formed, then the second walk finds what the filter keeps of the findings of the first, whatever
the tree, and in the same order.

The environments of the two walks need not be equal. It is enough that they are related by something that
holds again when both walks pass the same declaration.
-/

namespace SynthesisHoles

/--
A walk in a second environment, with its own wish for warnings, finds what a filter keeps of the findings of
a walk in a first environment, as far as uses, declarations and headers of loops can tell.
-/
structure Environment.Sifts
    (keep : Diagnostic → Bool)
    (wanted wantedNext : Bool)
    (Related : Environment → Environment → Prop) :
    Prop where
  declared :
    ∀ {environment next : Environment},
      Related environment next →
        ∀ binding : Binding, Related (binding :: environment) (binding :: next)
  atUse :
    ∀ {environment next : Environment},
      Related environment next →
        ∀ position line name,
          (environment.findingsAt position line name).filter keep =
            next.findingsAt position line name
  atDeclaration :
    ∀ {environment next : Environment},
      Related environment next →
        ∀ position line name,
          (environment.findingsAtDeclaration wanted position line name).filter keep =
            next.findingsAtDeclaration wantedNext position line name
  atHeader :
    ∀ {line initial condition update error},
      checkHeader line initial condition update = .error error →
        ∀ position, keep (error.report position) = true

section

variable
    {keep : Diagnostic → Bool}
    {wanted wantedNext : Bool}
    {Related : Environment → Environment → Prop}
    {environment next : Environment}

/-! ## Variables -/

namespace Environment.Sifts

theorem atUses
    (sifts : Environment.Sifts keep wanted wantedNext Related)
    (related : Related environment next)
    (position : Option Position)
    (line : Nat)
    (names : List String) :
    (names.flatMap (environment.findingsAt position line)).filter keep =
      names.flatMap (next.findingsAt position line) := by
  induction names with
  | nil => rfl
  | cons name rest hypothesis =>
      rw [List.flatMap_cons, List.filter_append, hypothesis, sifts.atUse related,
        List.flatMap_cons]

theorem atExpression
    (sifts : Environment.Sifts keep wanted wantedNext Related)
    (related : Related environment next)
    (position : Option Position)
    (line : Nat)
    (expression : Expression) :
    (expression.atVariables (environment.findingsAt position line)).filter keep =
      expression.atVariables (next.findingsAt position line) := by
  rw [Expression.atVariables_eq, Expression.atVariables_eq, sifts.atUses related]

theorem atOptionalExpression
    (sifts : Environment.Sifts keep wanted wantedNext Related)
    (related : Related environment next)
    (position : Option Position)
    (line : Nat)
    (expression : Option Expression) :
    (Expression.atVariablesOfOption (environment.findingsAt position line) expression).filter
        keep =
      Expression.atVariablesOfOption (next.findingsAt position line) expression := by
  rw [Expression.atVariablesOfOption_eq, Expression.atVariablesOfOption_eq,
    sifts.atUses related]

theorem atPlace
    (sifts : Environment.Sifts keep wanted wantedNext Related)
    (related : Related environment next)
    (position : Option Position)
    (line : Nat)
    (place : Place) :
    (place.atVariables (environment.findingsAt position line)).filter keep =
      place.atVariables (next.findingsAt position line) := by
  rw [Place.atVariables_eq, Place.atVariables_eq, sifts.atUses related]

/-- Both walks pass the same statements, so their environments stay related. -/
theorem environmentAfter
    (sifts : Environment.Sifts keep wanted wantedNext Related)
    (related : Related environment next)
    (statement : Statement) :
    Related (statement.environmentAfter environment) (statement.environmentAfter next) := by
  cases statement with
  | declare line binding initial => exact sifts.declared related binding
  | _ => exact related

theorem environmentAfterOption
    (sifts : Environment.Sifts keep wanted wantedNext Related)
    (related : Related environment next)
    (statement : Option Statement) :
    Related
      (Statement.environmentAfterOption statement environment)
      (Statement.environmentAfterOption statement next) := by
  cases statement with
  | none => exact related
  | some statement => exact sifts.environmentAfter related statement

end Environment.Sifts

/-! ## Statements and blocks -/

mutual

/-- In a statement, the second walk finds what the filter keeps of the findings of the first. -/
theorem Statement.filter_lexicalFindings
    (sifts : Environment.Sifts keep wanted wantedNext Related)
    (position : Option Position)
    (statement : Statement)
    {environment next : Environment}
    (related : Related environment next) :
    (statement.lexicalFindings wanted position environment).filter keep =
      statement.lexicalFindings wantedNext position next := by
  match statement with
  | .block _ body => exact Block.filter_lexicalFindings sifts body related
  | .declare .. =>
      rw [Statement.lexicalFindings, List.filter_append, sifts.atOptionalExpression related,
        sifts.atDeclaration related, Statement.lexicalFindings]
  | .assign .. =>
      rw [Statement.lexicalFindings, List.filter_append, sifts.atPlace related,
        sifts.atExpression related, Statement.lexicalFindings]
  | .evaluate .. => exact sifts.atExpression related ..
  | .branch _ _ consequent alternative =>
      have inConsequent :=
        Statement.filter_lexicalFindings sifts position consequent related
      have inAlternative :=
        Statement.filter_lexicalFindingsOfOption sifts position alternative related
      rw [Statement.lexicalFindings, List.filter_append, List.filter_append,
        sifts.atExpression related, inConsequent, inAlternative, Statement.lexicalFindings]
  | .whileLoop _ _ body =>
      have inBody := Statement.filter_lexicalFindingsOfOption sifts position body related
      rw [Statement.lexicalFindings, List.filter_append, sifts.atExpression related, inBody,
        Statement.lexicalFindings]
  | .doWhile _ body _ =>
      have inBody := Statement.filter_lexicalFindingsOfOption sifts position body related
      rw [Statement.lexicalFindings, List.filter_append, sifts.atExpression related, inBody,
        Statement.lexicalFindings]
  | .forLoop line initial condition update body =>
      rw [Statement.lexicalFindings, Statement.lexicalFindings]
      cases header : checkHeader line initial condition update with
      | error error => exact List.filter_cons_of_pos (sifts.atHeader header position)
      | ok _ =>
          have inside := sifts.environmentAfterOption related initial
          have inInitial :=
            Statement.filter_lexicalFindingsOfOption sifts position initial related
          have inUpdate := Statement.filter_lexicalFindingsOfOption sifts position update inside
          have inBody := Statement.filter_lexicalFindingsOfOption sifts position body inside
          simp only [List.filter_append, sifts.atOptionalExpression inside, inInitial, inUpdate,
            inBody]
  | .returnWith .. => exact sifts.atOptionalExpression related ..
  | .assertion .. => exact sifts.atExpression related ..
  | .breakLoop _ => rfl
  | .continueLoop _ => rfl
  | .empty _ => rfl

theorem Block.filter_lexicalFindings
    (sifts : Environment.Sifts keep wanted wantedNext Related)
    (block : Block)
    {environment next : Environment}
    (related : Related environment next) :
    (block.lexicalFindings wanted environment).filter keep =
      block.lexicalFindings wantedNext next := by
  match block with
  | .mk line statements =>
      exact Statement.filter_lexicalFindingsOfList sifts line 0 statements related

theorem Statement.filter_lexicalFindingsOfOption
    (sifts : Environment.Sifts keep wanted wantedNext Related)
    (position : Option Position)
    (statement : Option Statement)
    {environment next : Environment}
    (related : Related environment next) :
    (Statement.lexicalFindingsOfOption wanted position statement environment).filter keep =
      Statement.lexicalFindingsOfOption wantedNext position statement next := by
  match statement with
  | none => rfl
  | some statement =>
      exact Statement.filter_lexicalFindings sifts position statement related

theorem Statement.filter_lexicalFindingsOfList
    (sifts : Environment.Sifts keep wanted wantedNext Related)
    (blockLine index : Nat)
    (statements : List Statement)
    {environment next : Environment}
    (related : Related environment next) :
    (Statement.lexicalFindingsOfList wanted blockLine index statements environment).filter keep =
      Statement.lexicalFindingsOfList wantedNext blockLine index statements next := by
  match statements with
  | [] => rfl
  | first :: rest =>
      have inFirst :=
        Statement.filter_lexicalFindings sifts (some ⟨index, blockLine⟩) first related
      have inRest :=
        Statement.filter_lexicalFindingsOfList sifts blockLine (index + 1) rest
          (sifts.environmentAfter related first)
      rw [Statement.lexicalFindingsOfList, List.filter_append, inFirst, inRest,
        Statement.lexicalFindingsOfList]

end

end

end SynthesisHoles
