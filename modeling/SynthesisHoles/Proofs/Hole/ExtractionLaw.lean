import SynthesisHoles.Hole.Extraction
import SynthesisHoles.Proofs.Hole.Literals
import SynthesisHoles.Proofs.Outcome
import SynthesisHoles.Samples

/-!
# What extraction does

Extraction passes a run of holes from one part of a tree to the next and adds to it at each literal.
Its outcome is said here without such a run: the holes are those of the sites of the tree, in order and
numbered consecutively, the tree is the numbered tree, and the only thing that can go wrong in a well
formed tree is that the indices do not fit. Each part of a tree has this form of outcome, and one law
says that two parts after each other have it as well.

The main statement describes the result of a well formed program whose indices fit.
-/

namespace SynthesisHoles

/-! ## Holes of sites -/

/-- The hole that takes the place of a literal. -/
def LiteralSite.toHole (site : LiteralSite) (index : Nat) : Hole where
  index := index
  value := site.value
  type := site.value.type
  line := site.line

/-- Holes of several sites, numbered from a start. -/
def holesFrom (start : Nat) (sites : List LiteralSite) : List Hole :=
  sites.mapIdx fun position site => site.toHole (start + position)

@[simp]
theorem length_holesFrom
    (start : Nat)
    (sites : List LiteralSite) :
    (holesFrom start sites).length = sites.length :=
  List.length_mapIdx

@[simp]
theorem holesFrom_nil (start : Nat) :
    holesFrom start [] = [] :=
  rfl

theorem holesFrom_append
    (start : Nat)
    (left right : List LiteralSite) :
    holesFrom start (left ++ right) =
      holesFrom start left ++ holesFrom (start + left.length) right := by
  have shifted :
      (fun position (site : LiteralSite) => site.toHole (start + (position + left.length))) =
        fun position site => site.toHole (start + left.length + position) := by
    funext position site
    congr 1
    omega
  rw [holesFrom, List.mapIdx_append, shifted]
  rfl

theorem getElem?_holesFrom
    (start : Nat)
    (sites : List LiteralSite)
    (position : Nat) :
    (holesFrom start sites)[position]? =
      sites[position]?.map fun site => site.toHole (start + position) :=
  List.getElem?_mapIdx

/-! ## Runs of holes -/

namespace HoleRun

/-- Index of the next hole, whether or not it fits. -/
def next (run : HoleRun) : Nat :=
  run.start + run.holes.length

/-- Whether the indices of a number of further holes fit: the last of them is below the bound. -/
def HasRoomFor (run : HoleRun) (count : Nat) : Prop :=
  count = 0 ∨ run.next + count ≤ indexBound

instance (run : HoleRun) (count : Nat) : Decidable (run.HasRoomFor count) :=
  inferInstanceAs (Decidable (_ ∨ _))

/-- The run with the holes of further sites. -/
def extended (run : HoleRun) (sites : List LiteralSite) : HoleRun :=
  { run with holes := run.holes ++ holesFrom run.next sites }

/--
Outcome of an extraction that meets some sites and builds a value: the value and the run with the holes
of the sites, if the indices fit.
-/
def outcome
    {Error Value : Type}
    (overflow : Error)
    (run : HoleRun)
    (sites : List LiteralSite)
    (value : Value) :
    Except Error (Value × HoleRun) :=
  if run.HasRoomFor sites.length then
    .ok (value, run.extended sites)
  else
    .error overflow

@[simp]
theorem extended_nil (run : HoleRun) :
    run.extended [] = run := by
  rw [extended, holesFrom_nil, List.append_nil]

@[simp]
theorem next_extended
    (run : HoleRun)
    (sites : List LiteralSite) :
    (run.extended sites).next = run.next + sites.length := by
  simp [next, extended, Nat.add_assoc]

theorem extended_append
    (run : HoleRun)
    (left right : List LiteralSite) :
    run.extended (left ++ right) = (run.extended left).extended right := by
  rw [extended, holesFrom_append, ← List.append_assoc, ← next_extended]
  rfl

/-- Holes fit one group after the other exactly if they fit together. -/
theorem hasRoomFor_append
    (run : HoleRun)
    (left right : List LiteralSite) :
    run.HasRoomFor (left ++ right).length ↔
      run.HasRoomFor left.length ∧ (run.extended left).HasRoomFor right.length := by
  rw [HasRoomFor, HasRoomFor, HasRoomFor, next_extended, List.length_append]
  omega

section Outcome

variable {Error First Last : Type} {overflow : Error} {run : HoleRun}

@[simp]
theorem outcome_nil (value : First) :
    run.outcome overflow [] value = .ok (value, run) := by
  have fits : run.HasRoomFor ([] : List LiteralSite).length := Or.inl rfl
  rw [outcome, if_pos fits, extended_nil]

/-- Two extractions after each other are one extraction that meets the sites of both. -/
theorem outcome_append
    {left right : List LiteralSite}
    {value : First}
    {result : Last}
    {next : First × HoleRun → Except Error (Last × HoleRun)}
    (rest :
      next (value, run.extended left) = (run.extended left).outcome overflow right result) :
    (run.outcome overflow left value >>= next) =
      run.outcome overflow (left ++ right) result := by
  rw [outcome, outcome, extended_append]
  by_cases room : run.HasRoomFor left.length
  · rw [if_pos room, ok_bind, rest, outcome]
    simp only [hasRoomFor_append, room, true_and]
  · have full : ¬ run.HasRoomFor (left ++ right).length := by
      intro both
      exact room ((run.hasRoomFor_append left right).mp both).1
    rw [if_neg room, if_neg full, error_bind]

/-- To put the value into a larger one meets no further site. -/
theorem outcome_map
    {sites : List LiteralSite}
    {value : First}
    {result : Last}
    {next : First × HoleRun → Except Error (Last × HoleRun)}
    (rest : next (value, run.extended sites) = .ok (result, run.extended sites)) :
    (run.outcome overflow sites value >>= next) = run.outcome overflow sites result := by
  have whole :
      (run.outcome overflow sites value >>= next) =
        run.outcome overflow (sites ++ []) result := by
    apply outcome_append
    rw [outcome_nil]
    exact rest
  rwa [List.append_nil] at whole

end Outcome

/-- An extraction from an expression is part of one from a statement, which can fail in more ways. -/
@[simp]
theorem liftM_outcome
    {Value : Type}
    (run : HoleRun)
    (sites : List LiteralSite)
    (value : Value) :
    (liftM (run.outcome Fault.indexOverflow sites value) : Except Failure (Value × HoleRun)) =
      run.outcome (.fault .indexOverflow) sites value := by
  rw [outcome, outcome]
  split
  next => rfl
  next => rfl

/-- Recording a literal is the extraction that meets one site. -/
theorem record_eq
    (run : HoleRun)
    (value : Literal)
    (line : Nat) :
    run.record value line = run.outcome Fault.indexOverflow [⟨value, line⟩] run.next := by
  rw [record, nextIndex, indexAfter, outcome]
  by_cases room : run.start + run.holes.length < indexBound
  · have fits : run.HasRoomFor 1 := Or.inr room
    rw [if_pos room, List.length_singleton, if_pos fits]
    rfl
  · have full : ¬ run.HasRoomFor 1 := by
      rintro (none | fits)
      · exact Nat.one_ne_zero none
      · exact room fits
    rw [if_neg room, List.length_singleton, if_neg full]
    rfl

end HoleRun

/-! ## Expressions and places -/

mutual

theorem Expression.extract_eq
    (line : Nat)
    (expression : Expression)
    (run : HoleRun) :
    expression.extract line run =
      run.outcome Fault.indexOverflow (sitesAt line expression.literals)
        (expression.numbered run.next) := by
  match expression with
  | .literal value =>
      rw [Expression.extract, HoleRun.record_eq]
      exact HoleRun.outcome_map rfl
  | .hole _ => exact (HoleRun.outcome_nil _).symm
  | .var _ => exact (HoleRun.outcome_nil _).symm
  | .field base member =>
      rw [Expression.extract, Expression.extract_eq line base]
      exact HoleRun.outcome_map rfl
  | .element base position =>
      rw [Expression.extract, Expression.extract_eq line base, Expression.literals,
        sitesAt_append]
      apply HoleRun.outcome_append
      simp only [Expression.extract_eq line position, HoleRun.next_extended, length_sitesAt]
      exact HoleRun.outcome_map rfl
  | .array items =>
      rw [Expression.extract, Expression.extractList_eq line items]
      exact HoleRun.outcome_map rfl
  | .call callee arguments =>
      rw [Expression.extract, Expression.extractList_eq line arguments]
      exact HoleRun.outcome_map rfl
  | .conditional condition whenTrue whenFalse =>
      rw [Expression.extract, Expression.extract_eq line condition, Expression.literals,
        sitesAt_append, sitesAt_append]
      apply HoleRun.outcome_append
      simp only [Expression.extract_eq line whenTrue, HoleRun.next_extended, length_sitesAt]
      apply HoleRun.outcome_append
      simp only [Expression.extract_eq line whenFalse, HoleRun.next_extended, length_sitesAt]
      exact HoleRun.outcome_map rfl

theorem Expression.extractList_eq
    (line : Nat)
    (expressions : List Expression)
    (run : HoleRun) :
    Expression.extractList line expressions run =
      run.outcome Fault.indexOverflow (sitesAt line (Expression.literalsOfList expressions))
        (Expression.numberedList run.next expressions) := by
  match expressions with
  | [] => exact (HoleRun.outcome_nil _).symm
  | first :: rest =>
      rw [Expression.extractList, Expression.extract_eq line first, Expression.literalsOfList,
        sitesAt_append]
      apply HoleRun.outcome_append
      simp only [Expression.extractList_eq line rest, HoleRun.next_extended, length_sitesAt]
      exact HoleRun.outcome_map rfl

end

theorem Expression.extractOption_eq
    (line : Nat)
    (expression : Option Expression)
    (run : HoleRun) :
    Expression.extractOption line expression run =
      run.outcome Fault.indexOverflow (sitesAt line (Expression.literalsOfOption expression))
        (Expression.numberedOption run.next expression) := by
  cases expression with
  | none => exact (HoleRun.outcome_nil _).symm
  | some expression =>
      rw [Expression.extractOption, Expression.extract_eq]
      exact HoleRun.outcome_map rfl

theorem Place.extract_eq
    (line : Nat)
    (place : Place)
    (run : HoleRun) :
    place.extract line run =
      run.outcome Fault.indexOverflow (sitesAt line place.literals)
        (place.numbered run.next) := by
  cases place with
  | var _ => exact (HoleRun.outcome_nil _).symm
  | element base position =>
      rw [Place.extract, Expression.extract_eq, Place.literals, sitesAt_append]
      apply HoleRun.outcome_append
      simp only [Expression.extract_eq, HoleRun.next_extended, length_sitesAt]
      exact HoleRun.outcome_map rfl
  | field base member =>
      rw [Place.extract, Expression.extract_eq]
      exact HoleRun.outcome_map rfl

/-! ## Statements and blocks -/

mutual

/-- Extraction from a well formed statement meets its sites in order. -/
theorem Statement.extract_eq
    (statement : Statement)
    (run : HoleRun)
    (valid : statement.validate = .ok ()) :
    statement.extract run =
      run.outcome (.fault .indexOverflow) statement.sites (statement.numbered run.next) := by
  match statement with
  | .block line body =>
      rw [Statement.extract, Block.extract_eq body run valid]
      exact HoleRun.outcome_map rfl
  | .declare line binding initial =>
      rw [Statement.extract, Expression.extractOption_eq, HoleRun.liftM_outcome]
      exact HoleRun.outcome_map rfl
  | .assign line place value =>
      rw [Statement.extract, Place.extract_eq, HoleRun.liftM_outcome]
      apply HoleRun.outcome_append
      simp only [Expression.extract_eq, HoleRun.liftM_outcome, HoleRun.next_extended,
        length_sitesAt]
      exact HoleRun.outcome_map rfl
  | .evaluate line expression =>
      rw [Statement.extract, Expression.extract_eq, HoleRun.liftM_outcome]
      exact HoleRun.outcome_map rfl
  | .branch line condition consequent alternative =>
      rcases (bind_eq_ok_iff _ _ _).mp valid with ⟨_, consequentValid, alternativeValid⟩
      rw [Statement.extract, Expression.extract_eq, HoleRun.liftM_outcome]
      apply HoleRun.outcome_append
      simp only [Statement.extract_eq consequent _ consequentValid, HoleRun.next_extended,
        length_sitesAt]
      apply HoleRun.outcome_append
      simp only [Statement.extractOption_eq alternative _ alternativeValid,
        HoleRun.next_extended, length_sitesAt]
      exact HoleRun.outcome_map rfl
  | .whileLoop line condition body =>
      rw [Statement.extract, Expression.extract_eq, HoleRun.liftM_outcome]
      apply HoleRun.outcome_append
      simp only [Statement.extractOption_eq body _ valid, HoleRun.next_extended,
        length_sitesAt]
      exact HoleRun.outcome_map rfl
  | .doWhile line body condition =>
      rw [Statement.extract, Statement.extractOption_eq body _ valid]
      apply HoleRun.outcome_append
      simp only [Expression.extract_eq, HoleRun.liftM_outcome, HoleRun.next_extended]
      exact HoleRun.outcome_map rfl
  | .forLoop line initial condition update body =>
      rcases (bind_eq_ok_iff _ _ _).mp valid with ⟨_, header, childrenValid⟩
      rcases (bind_eq_ok_iff _ _ _).mp childrenValid with ⟨_, initialValid, restValid⟩
      rcases (bind_eq_ok_iff _ _ _).mp restValid with ⟨_, updateValid, bodyValid⟩
      rw [Statement.extract, header, liftM_ok_of_rejection, ok_bind,
        Statement.extractOption_eq initial _ initialValid]
      apply HoleRun.outcome_append
      simp only [Expression.extractOption_eq, HoleRun.liftM_outcome, HoleRun.next_extended]
      apply HoleRun.outcome_append
      simp only [Statement.extractOption_eq update _ updateValid, HoleRun.next_extended,
        length_sitesAt]
      apply HoleRun.outcome_append
      simp only [Statement.extractOption_eq body _ bodyValid, HoleRun.next_extended,
        length_sitesAt]
      exact HoleRun.outcome_map rfl
  | .returnWith line value =>
      rw [Statement.extract, Expression.extractOption_eq, HoleRun.liftM_outcome]
      exact HoleRun.outcome_map rfl
  | .assertion line condition =>
      rw [Statement.extract, Expression.extract_eq, HoleRun.liftM_outcome]
      exact HoleRun.outcome_map rfl
  | .breakLoop _ => exact (HoleRun.outcome_nil _).symm
  | .continueLoop _ => exact (HoleRun.outcome_nil _).symm
  | .empty _ => exact (HoleRun.outcome_nil _).symm

theorem Block.extract_eq
    (block : Block)
    (run : HoleRun)
    (valid : block.validate = .ok ()) :
    block.extract run =
      run.outcome (.fault .indexOverflow) block.sites (block.numbered run.next) := by
  match block with
  | .mk line statements =>
      rw [Block.extract, Statement.extractList_eq statements run valid]
      exact HoleRun.outcome_map rfl

theorem Statement.extractOption_eq
    (statement : Option Statement)
    (run : HoleRun)
    (valid : Statement.validateOption statement = .ok ()) :
    Statement.extractOption statement run =
      run.outcome (.fault .indexOverflow) (Statement.sitesOfOption statement)
        (Statement.numberedOption run.next statement) := by
  match statement with
  | none => exact (HoleRun.outcome_nil _).symm
  | some statement =>
      rw [Statement.extractOption, Statement.extract_eq statement run valid]
      exact HoleRun.outcome_map rfl

theorem Statement.extractList_eq
    (statements : List Statement)
    (run : HoleRun)
    (valid : Statement.validateList statements = .ok ()) :
    Statement.extractList statements run =
      run.outcome (.fault .indexOverflow) (Statement.sitesOfList statements)
        (Statement.numberedList run.next statements) := by
  match statements with
  | [] => exact (HoleRun.outcome_nil _).symm
  | first :: rest =>
      rcases (bind_eq_ok_iff _ _ _).mp valid with ⟨_, firstValid, restValid⟩
      rw [Statement.extractList, Statement.extract_eq first run firstValid]
      apply HoleRun.outcome_append
      simp only [Statement.extractList_eq rest _ restValid, HoleRun.next_extended]
      exact HoleRun.outcome_map rfl

end

/-! ## Functions and programs -/

@[simp]
theorem HoleRun.extended_startingAt
    (start : Nat)
    (sites : List LiteralSite) :
    (HoleRun.startingAt start).extended sites = ⟨start, holesFrom start sites⟩ :=
  rfl

namespace HoleTable

/-- Index of the next hole, whether or not it fits. -/
def next (table : HoleTable) : Nat :=
  table.first + table.holes.length

/-- The table with the holes of further sites. -/
def extended (table : HoleTable) (sites : List LiteralSite) : HoleTable :=
  { table with holes := table.holes ++ holesFrom table.next sites }

@[simp]
theorem extended_nil (table : HoleTable) :
    table.extended [] = table := by
  rw [extended, holesFrom_nil, List.append_nil]

@[simp]
theorem next_extended
    (table : HoleTable)
    (sites : List LiteralSite) :
    (table.extended sites).next = table.next + sites.length := by
  simp [next, extended, Nat.add_assoc]

theorem extended_append
    (table : HoleTable)
    (left right : List LiteralSite) :
    table.extended (left ++ right) = (table.extended left).extended right := by
  rw [extended, holesFrom_append, ← List.append_assoc, ← next_extended]
  rfl

theorem nextIndex_eq
    {table : HoleTable}
    (room : table.next < indexBound) :
    table.nextIndex = .ok table.next := by
  rw [nextIndex, indexAfter]
  exact if_pos room

theorem nextIndex_of_full
    {table : HoleTable}
    (full : ¬ table.next < indexBound) :
    table.nextIndex = .error .indexOverflow := by
  rw [nextIndex, indexAfter]
  exact if_neg full

/-- A table absorbs the run that starts at its next index. -/
theorem absorb_eq
    {table : HoleTable}
    (room : table.next < indexBound)
    (sites : List LiteralSite) :
    table.absorb ⟨table.next, holesFrom table.next sites⟩ = .ok (table.extended sites) := by
  simp [absorb, nextIndex_eq room, extended]

end HoleTable

/-- Extraction from a function validates its body, then meets the sites of the body. -/
theorem FunctionDefinition.replaceLiterals_eq
    (definition : FunctionDefinition)
    (index : Nat) :
    definition.replaceLiterals index =
      match definition.body.validate with
      | .error error => .error (.rejected error)
      | .ok () =>
          (HoleRun.startingAt index).outcome (.fault .indexOverflow) definition.sites
            (definition.numbered index) := by
  rw [FunctionDefinition.replaceLiterals, Block.replaceLiterals]
  cases valid : definition.body.validate with
  | error error => rfl
  | ok _ =>
      simp only [liftM_ok_of_rejection, ok_bind, Block.extract_eq definition.body _ valid]
      exact HoleRun.outcome_map rfl

/--
Extraction from several functions, the first of them apart. The index of the next hole is asked for
before the function and once more after it, and it has to fit both times.
-/
theorem FunctionDefinition.replaceList_cons
    (first : FunctionDefinition)
    (rest : List FunctionDefinition)
    (table : HoleTable) :
    FunctionDefinition.replaceList (first :: rest) table =
      if table.next < indexBound then
        match first.body.validate with
        | .error error => .error (.rejected error)
        | .ok () =>
            if table.next + first.sites.length ≤ indexBound then do
              let (others, after) ←
                FunctionDefinition.replaceList rest (table.extended first.sites)
              return (first.numbered table.next :: others, after)
            else
              .error (.fault .indexOverflow)
      else
        .error (.fault .indexOverflow) := by
  rw [FunctionDefinition.replaceList]
  by_cases room : table.next < indexBound
  · rw [if_pos room, HoleTable.nextIndex_eq room, liftM_ok_of_fault, ok_bind,
      FunctionDefinition.replaceLiterals_eq]
    cases first.body.validate with
    | error error => rfl
    | ok _ =>
        have fits_iff :
            (HoleRun.startingAt table.next).HasRoomFor first.sites.length ↔
              table.next + first.sites.length ≤ indexBound := by
          simp only [HoleRun.HasRoomFor, HoleRun.next, HoleRun.startingAt, List.length_nil]
          omega
        by_cases fits : table.next + first.sites.length ≤ indexBound
        · simp only [HoleRun.outcome, if_pos (fits_iff.mpr fits), if_pos fits, ok_bind,
            HoleRun.extended_startingAt, HoleTable.absorb_eq room]
        · simp only [HoleRun.outcome, if_neg (mt fits_iff.mp fits), if_neg fits, error_bind]
  · rw [if_neg room, HoleTable.nextIndex_of_full room]
    rfl

/-- Extraction from well formed functions whose indices fit. -/
theorem FunctionDefinition.replaceList_of_valid
    (definitions : List FunctionDefinition)
    (table : HoleTable)
    (valid : ∀ definition ∈ definitions, definition.body.validate = .ok ())
    (fits : table.next + (FunctionDefinition.sitesOfList definitions).length < indexBound) :
    FunctionDefinition.replaceList definitions table =
      .ok
        (FunctionDefinition.numberedList table.next definitions,
          table.extended (FunctionDefinition.sitesOfList definitions)) := by
  induction definitions generalizing table with
  | nil => simp [FunctionDefinition.replaceList, FunctionDefinition.sitesOfList,
      FunctionDefinition.numberedList]
  | cons first rest hypothesis =>
      rw [FunctionDefinition.sitesOfList, List.length_append] at fits
      have room : table.next < indexBound := by omega
      have firstFits : table.next + first.sites.length ≤ indexBound := by omega
      have firstValid := valid first List.mem_cons_self
      have restValid : ∀ definition ∈ rest, definition.body.validate = .ok () :=
        fun definition member => valid definition (List.mem_cons_of_mem first member)
      have restFits :
          (table.extended first.sites).next
              + (FunctionDefinition.sitesOfList rest).length < indexBound := by
        rw [HoleTable.next_extended]
        omega
      rw [FunctionDefinition.replaceList_cons, if_pos room, firstValid]
      simp only [if_pos firstFits, hypothesis _ restValid restFits, ok_bind, pure_eq_ok,
        HoleTable.next_extended, FunctionDefinition.sitesOfList, HoleTable.extended_append,
        FunctionDefinition.numberedList]

/-- If extraction from several functions gives something, the first of them is valid and numbered. -/
theorem FunctionDefinition.of_replaceList_cons
    {first : FunctionDefinition}
    {rest : List FunctionDefinition}
    {table : HoleTable}
    {result : List FunctionDefinition × HoleTable}
    (extracted : FunctionDefinition.replaceList (first :: rest) table = .ok result) :
    first.body.validate = .ok () ∧
      ∃ others after,
        FunctionDefinition.replaceList rest (table.extended first.sites) = .ok (others, after) ∧
          result = (first.numbered table.next :: others, after) := by
  rw [FunctionDefinition.replaceList_cons] at extracted
  split at extracted
  next room =>
    split at extracted
    next error invalid => cases extracted
    next valid =>
      split at extracted
      next fits =>
        rcases (bind_eq_ok_iff _ _ _).mp extracted with ⟨⟨others, after⟩, inRest, same⟩
        exact ⟨valid, others, after, inRest, (Except.ok.inj same).symm⟩
      next full => cases extracted
  next full => cases extracted

/-- What extraction from several functions gives, if it gives something. -/
theorem FunctionDefinition.eq_of_replaceList
    {definitions : List FunctionDefinition}
    {table : HoleTable}
    {result : List FunctionDefinition × HoleTable}
    (extracted : FunctionDefinition.replaceList definitions table = .ok result) :
    result =
      (FunctionDefinition.numberedList table.next definitions,
        table.extended (FunctionDefinition.sitesOfList definitions)) := by
  induction definitions generalizing table result with
  | nil =>
      rw [FunctionDefinition.replaceList, pure_eq_ok, Except.ok.injEq] at extracted
      rw [← extracted, FunctionDefinition.numberedList, FunctionDefinition.sitesOfList,
        HoleTable.extended_nil]
  | cons first rest hypothesis =>
      rcases FunctionDefinition.of_replaceList_cons extracted with
        ⟨_, others, after, inRest, rfl⟩
      rcases Prod.mk.inj (hypothesis inRest) with ⟨rfl, rfl⟩
      rw [HoleTable.next_extended, FunctionDefinition.numberedList,
        FunctionDefinition.sitesOfList, HoleTable.extended_append]

/-- Functions from which something is extracted are valid. -/
theorem FunctionDefinition.valid_of_replaceList
    {definitions : List FunctionDefinition}
    {table : HoleTable}
    {result : List FunctionDefinition × HoleTable}
    (extracted : FunctionDefinition.replaceList definitions table = .ok result) :
    ∀ definition ∈ definitions, definition.body.validate = .ok () := by
  induction definitions generalizing table result with
  | nil => exact List.forall_mem_nil _
  | cons first rest hypothesis =>
      rcases FunctionDefinition.of_replaceList_cons extracted with ⟨valid, _, _, inRest, _⟩
      exact List.forall_mem_cons.mpr ⟨valid, hypothesis inRest⟩

/-- What extraction from a program gives, if it gives something. -/
theorem Program.eq_of_replaceLiterals
    {program replaced : Program}
    {index : Nat}
    {table : HoleTable}
    (extracted : program.replaceLiterals index = .ok (replaced, table)) :
    replaced = program.numbered index ∧
      table = (HoleTable.startingAt index).extended program.sites := by
  rw [Program.replaceLiterals] at extracted
  rcases (bind_eq_ok_iff _ _ _).mp extracted with ⟨result, inFunctions, same⟩
  rw [FunctionDefinition.eq_of_replaceList inFunctions] at same
  rcases Prod.mk.inj (Except.ok.inj same) with ⟨rfl, rfl⟩
  exact ⟨rfl, rfl⟩

/-- A program from which something is extracted is well formed. -/
theorem Program.valid_of_replaceLiterals
    {program : Program}
    {index : Nat}
    {result : Program × HoleTable}
    (extracted : program.replaceLiterals index = .ok result) :
    ∀ definition ∈ program.functions, definition.body.validate = .ok () := by
  rw [Program.replaceLiterals] at extracted
  rcases (bind_eq_ok_iff _ _ _).mp extracted with ⟨_, inFunctions, _⟩
  exact FunctionDefinition.valid_of_replaceList inFunctions

/--
Extraction from a well formed program whose indices fit. The table starts at the index and has a hole
for each literal; the hole at a position has the index that many places after the start, and the value,
the type and the line of the literal at that position. The program is the one with these holes for its
literals, and no literal is left in it.
-/
theorem Program.replaceLiterals_of_valid
    (program : Program)
    (index : Nat)
    (valid : ∀ definition ∈ program.functions, definition.body.validate = .ok ())
    (fits : index + program.sites.length < indexBound) :
    ∃ (replaced : Program) (table : HoleTable),
      program.replaceLiterals index = .ok (replaced, table) ∧
        table.first = index ∧
        table.size = program.sites.length ∧
        (∀ (position : Nat) (site : LiteralSite),
          program.sites[position]? = some site →
            table.holes[position]? =
              some ⟨index + position, site.value, site.value.type, site.line⟩) ∧
        replaced = program.numbered index ∧
        replaced.sites = [] := by
  have extracted :=
    FunctionDefinition.replaceList_of_valid program.functions (.startingAt index) valid fits
  refine
    ⟨program.numbered index, (HoleTable.startingAt index).extended program.sites,
      ?_, rfl, ?_, ?_, rfl, program.sites_numbered index⟩
  · rw [Program.replaceLiterals, extracted]
    rfl
  · exact length_holesFrom index program.sites
  · intro position site there
    have hole := getElem?_holesFrom index program.sites position
    rw [there] at hole
    exact hole

/-- The matrix sample at the largest index at which its eight holes are known to fit. -/
theorem Samples.matrix_replaceLiterals :
    (∀ definition ∈ matrix.functions, definition.body.validate = .ok ()) ∧
      0xfffffffffffffff7 + matrix.sites.length < indexBound ∧
      ∃ (replaced : Program) (table : HoleTable),
        matrix.replaceLiterals 0xfffffffffffffff7 = .ok (replaced, table) ∧
          table.first = 0xfffffffffffffff7 ∧
          table.size = matrix.sites.length ∧
          (∀ (position : Nat) (site : LiteralSite),
            matrix.sites[position]? = some site →
              table.holes[position]? =
                some ⟨0xfffffffffffffff7 + position, site.value, site.value.type, site.line⟩) ∧
          replaced = matrix.numbered 0xfffffffffffffff7 ∧
          replaced.sites = [] := by
  have valid : ∀ definition ∈ matrix.functions, definition.body.validate = .ok () := by
    intro definition member
    rw [List.mem_singleton.mp member]
    rfl
  have fits : 0xfffffffffffffff7 + matrix.sites.length < indexBound := by
    decide
  exact ⟨valid, fits, matrix.replaceLiterals_of_valid 0xfffffffffffffff7 valid fits⟩

end SynthesisHoles
