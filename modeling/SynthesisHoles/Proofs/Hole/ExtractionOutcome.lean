import SynthesisHoles.Proofs.Hole.ExtractionLaw
import SynthesisHoles.Proofs.Tree.Validation

/-!
# The outcome of an extraction

Extraction goes through the functions of a program and stops at the first one with an obstacle. There are
three of these, looked for in this order: the index at which the holes of the function would start does not
fit a machine word, the body of the function is not valid, the holes of the function do not fit. The first
one counts even for a function without literals, so nothing comes behind a hole of the last index.

The main statement gives the outcome for every program and every index: the failure of the first obstacle,
or the program with holes if there is none.
-/

namespace SynthesisHoles

/-! ## Obstacles -/

/-- What stops extraction at a function whose holes are to start at an index, if something does. -/
def FunctionDefinition.obstacle?
    (definition : FunctionDefinition)
    (start : Nat) :
    Option Failure :=
  if indexBound ≤ start then
    some (.fault .indexOverflow)
  else
    match definition.body.validate with
    | .error error => some (.rejected error)
    | .ok () =>
        if indexBound < start + definition.sites.length then
          some (.fault .indexOverflow)
        else
          none

/-- Number of literals in the functions before a position. -/
def FunctionDefinition.literalsBefore
    (definitions : List FunctionDefinition)
    (position : Nat) :
    Nat :=
  (FunctionDefinition.sitesOfList (definitions.take position)).length

/-- Obstacle at a position of a list of functions, which are numbered from a start. -/
def FunctionDefinition.obstacleIn?
    (start : Nat)
    (definitions : List FunctionDefinition)
    (position : Nat) :
    Option Failure :=
  definitions[position]?.bind fun definition =>
    definition.obstacle? (start + FunctionDefinition.literalsBefore definitions position)

namespace Program

/-- Number of literals in the functions before a position of the program. -/
def literalsBefore (program : Program) (position : Nat) : Nat :=
  FunctionDefinition.literalsBefore program.functions position

/-- Obstacle at a position of the program, whose holes are to start at an index. -/
def obstacleAt? (program : Program) (index position : Nat) : Option Failure :=
  FunctionDefinition.obstacleIn? index program.functions position

/-- All the literals are before the end. -/
theorem literalsBefore_length (program : Program) :
    program.literalsBefore program.functions.length = program.sites.length := by
  rw [literalsBefore, FunctionDefinition.literalsBefore, List.take_length, sites]

end Program

namespace FunctionDefinition

variable {definitions : List FunctionDefinition} {table : HoleTable}

theorem obstacleIn?_zero
    (start : Nat)
    (first : FunctionDefinition)
    (rest : List FunctionDefinition) :
    obstacleIn? start (first :: rest) 0 = first.obstacle? start :=
  rfl

/-- Behind the first function the numbers start after its literals. -/
theorem obstacleIn?_succ
    (start : Nat)
    (first : FunctionDefinition)
    (rest : List FunctionDefinition)
    (position : Nat) :
    obstacleIn? start (first :: rest) (position + 1) =
      obstacleIn? (start + first.sites.length) rest position := by
  simp only [obstacleIn?, literalsBefore, List.getElem?_cons_succ, List.take_succ_cons, sitesOfList,
    List.length_append, Nat.add_assoc]

/-! ## One function after another -/

/-- Extraction from several functions fails at the first one or goes on behind it. -/
theorem replaceList_cons_eq
    (first : FunctionDefinition)
    (rest : List FunctionDefinition)
    (table : HoleTable) :
    replaceList (first :: rest) table =
      match first.obstacle? table.next with
      | some failure => .error failure
      | none => do
          let (others, after) ← replaceList rest (table.extended first.sites)
          return (first.numbered table.next :: others, after) := by
  rw [replaceList_cons, obstacle?]
  by_cases full : indexBound ≤ table.next
  · rw [if_pos full, if_neg (Nat.not_lt.mpr full)]
  · rw [if_neg full, if_pos (Nat.lt_of_not_le full)]
    cases first.body.validate with
    | error error => rfl
    | ok _ =>
        by_cases tooMany : indexBound < table.next + first.sites.length
        · simp only [if_pos tooMany, if_neg (Nat.not_le.mpr tooMany)]
        · simp only [if_neg tooMany, if_pos (Nat.le_of_not_lt tooMany)]

/-- Extraction fails as the first obstacle says. -/
theorem replaceList_of_obstacle
    {position : Nat}
    {failure : Failure}
    (stops : obstacleIn? table.next definitions position = some failure)
    (first : ∀ earlier < position, obstacleIn? table.next definitions earlier = none) :
    replaceList definitions table = .error failure := by
  induction definitions generalizing table position with
  | nil => cases stops
  | cons definition rest hypothesis =>
      rw [replaceList_cons_eq]
      cases position with
      | zero =>
          rw [obstacleIn?_zero] at stops
          rw [stops]
      | succ position =>
          have free := first 0 (Nat.zero_lt_succ position)
          rw [obstacleIn?_zero] at free
          rw [obstacleIn?_succ, ← HoleTable.next_extended] at stops
          have restFree :
              ∀ earlier < position,
                obstacleIn? (table.extended definition.sites).next rest earlier = none := by
            intro earlier before
            rw [HoleTable.next_extended, ← obstacleIn?_succ]
            exact first (earlier + 1) (Nat.succ_lt_succ before)
          simp only [free, hypothesis stops restFree, error_bind]

/-- Extraction from functions without obstacles succeeds. -/
theorem replaceList_of_no_obstacle
    (free : ∀ position, obstacleIn? table.next definitions position = none) :
    replaceList definitions table =
      .ok (numberedList table.next definitions, table.extended (sitesOfList definitions)) := by
  induction definitions generalizing table with
  | nil => rw [replaceList, numberedList, sitesOfList, HoleTable.extended_nil, pure_eq_ok]
  | cons first rest hypothesis =>
      have firstFree := free 0
      rw [obstacleIn?_zero] at firstFree
      have restFree :
          ∀ position, obstacleIn? (table.extended first.sites).next rest position = none := by
        intro position
        rw [HoleTable.next_extended, ← obstacleIn?_succ]
        exact free (position + 1)
      rw [replaceList_cons_eq, firstFree]
      simp only [hypothesis restFree, ok_bind, pure_eq_ok, HoleTable.next_extended, sitesOfList,
        HoleTable.extended_append, numberedList]

/-- An obstacle is an index that does not fit, or the error of a body that is not valid. -/
theorem eq_of_obstacle?
    {definition : FunctionDefinition}
    {start : Nat}
    {failure : Failure}
    (stops : definition.obstacle? start = some failure) :
    failure = .fault .indexOverflow ∨
      ∃ error, definition.body.validate = .error error ∧ failure = .rejected error := by
  rw [obstacle?] at stops
  split at stops
  next => exact Or.inl (Option.some.inj stops).symm
  next =>
    split at stops
    next error invalid => exact Or.inr ⟨error, invalid, (Option.some.inj stops).symm⟩
    next =>
      split at stops
      next => exact Or.inl (Option.some.inj stops).symm
      next => cases stops

/-- If extraction fails, some function has that obstacle. -/
theorem exists_obstacle_of_replaceList
    {failure : Failure}
    (failed : replaceList definitions table = .error failure) :
    ∃ definition ∈ definitions, ∃ start, definition.obstacle? start = some failure := by
  induction definitions generalizing table with
  | nil => cases failed
  | cons first rest hypothesis =>
      rw [replaceList_cons_eq] at failed
      split at failed
      next failure stops =>
        cases failed
        exact ⟨first, List.mem_cons_self, table.next, stops⟩
      next free =>
        rcases (bind_eq_error_iff _ _ _).mp failed with inRest | ⟨_, _, built⟩
        · rcases hypothesis inRest with ⟨definition, member, start, stops⟩
          exact ⟨definition, List.mem_cons_of_mem first member, start, stops⟩
        · cases built

/-- Behind functions from which something was extracted, extraction goes on with the next index. -/
theorem replaceList_append
    {left : List FunctionDefinition × HoleTable}
    (extracted : replaceList definitions table = .ok left)
    (right : List FunctionDefinition) :
    replaceList (definitions ++ right) table = do
      let (others, after) ← replaceList right left.2
      return (left.1 ++ others, after) := by
  induction definitions generalizing table left with
  | nil =>
      cases extracted
      rw [List.nil_append]
      cases replaceList right table with
      | error failure => rfl
      | ok result => rfl
  | cons first rest hypothesis =>
      rw [replaceList_cons_eq] at extracted
      rw [List.cons_append, replaceList_cons_eq]
      split at extracted
      next => cases extracted
      next free =>
        rcases (bind_eq_ok_iff _ _ _).mp extracted with ⟨middle, inRest, same⟩
        cases same
        simp only [hypothesis inRest]
        cases replaceList right middle.2 with
        | error failure => rfl
        | ok result => rfl

end FunctionDefinition

/-- Extraction fails if an index does not fit or a function is not valid, and in no other way. -/
theorem Program.failure_of_replaceLiterals
    {program : Program}
    {index : Nat}
    {failure : Failure}
    (failed : program.replaceLiterals index = .error failure) :
    failure = .fault .indexOverflow ∨
      ∃ definition ∈ program.functions,
        ∃ error, definition.body.validate = .error error ∧ failure = .rejected error := by
  rw [Program.replaceLiterals] at failed
  rcases (bind_eq_error_iff _ _ _).mp failed with inFunctions | ⟨_, _, built⟩
  · rcases FunctionDefinition.exists_obstacle_of_replaceList inFunctions with
      ⟨definition, member, start, stops⟩
    rcases FunctionDefinition.eq_of_obstacle? stops with overflow | invalid
    · exact Or.inl overflow
    · exact Or.inr ⟨definition, member, invalid⟩
  · cases built

/-- What is rejected is a malformed tree: the runs of the functions always fit together. -/
theorem Program.code_of_replaceLiterals
    {program : Program}
    {index : Nat}
    {error : ProgramError}
    (rejected : program.replaceLiterals index = .error (.rejected error)) :
    error.code = "E0001" := by
  rcases Program.failure_of_replaceLiterals rejected with overflow | ⟨_, _, _, invalid, same⟩
  · cases overflow
  · cases same
    exact Block.code_of_validate invalid

/-- Extraction from a program of valid functions fails only if an index does not fit. -/
theorem Program.overflow_of_replaceLiterals
    {program : Program}
    {index : Nat}
    {failure : Failure}
    (valid : ∀ definition ∈ program.functions, definition.body.validate = .ok ())
    (failed : program.replaceLiterals index = .error failure) :
    failure = .fault .indexOverflow := by
  rcases Program.failure_of_replaceLiterals failed with
    overflow | ⟨definition, member, error, invalid, _⟩
  · exact overflow
  · cases (valid definition member).symm.trans invalid

/-- Extraction from a program of valid functions is not rejected. -/
theorem Program.replaceLiterals_ne_rejected
    {program : Program}
    (valid : ∀ definition ∈ program.functions, definition.body.validate = .ok ())
    (index : Nat)
    (error : ProgramError) :
    program.replaceLiterals index ≠ .error (.rejected error) := by
  intro rejected
  cases Program.overflow_of_replaceLiterals valid rejected

/-! ## The last index -/

/-- The last hole is that of the last literal. -/
theorem HoleTable.getLast?_extended_startingAt
    (index : Nat)
    (sites : List LiteralSite) :
    ((startingAt index).extended sites).holes.getLast? =
      sites.getLast?.map fun site => site.toHole (index + (sites.length - 1)) := by
  have holes : ((startingAt index).extended sites).holes = holesFrom index sites := rfl
  rw [holes, List.getLast?_eq_getElem?, length_holesFrom, getElem?_holesFrom,
    List.getLast?_eq_getElem?]

/-- The last hole has the index before the one that comes next. -/
theorem HoleTable.index_of_getLast?
    {index : Nat}
    {sites : List LiteralSite}
    {hole : Hole}
    (last : ((startingAt index).extended sites).holes.getLast? = some hole) :
    hole.index + 1 = index + sites.length := by
  rw [getLast?_extended_startingAt] at last
  rcases Option.map_eq_some_iff.mp last with ⟨site, there, rfl⟩
  have positive := List.length_pos_of_mem (List.mem_of_getLast? there)
  have position : (site.toHole (index + (sites.length - 1))).index = index + (sites.length - 1) :=
    rfl
  omega

theorem FunctionDefinition.sitesOfList_append (left right : List FunctionDefinition) :
    FunctionDefinition.sitesOfList (left ++ right) =
      FunctionDefinition.sitesOfList left ++ FunctionDefinition.sitesOfList right := by
  induction left with
  | nil => rfl
  | cons first rest hypothesis =>
      rw [List.cons_append, sitesOfList, sitesOfList, hypothesis, List.append_assoc]

/-- If the last function has the literal that takes the last index, extraction succeeds. -/
theorem Program.replaceLiterals_of_full
    {program : Program}
    {index : Nat}
    {before : List FunctionDefinition}
    {last : FunctionDefinition}
    (parts : program.functions = before ++ [last])
    (valid : ∀ definition ∈ program.functions, definition.body.validate = .ok ())
    (literal : last.sites ≠ [])
    (full : index + program.sites.length = indexBound) :
    ∃ replaced,
      program.replaceLiterals index =
        .ok (replaced, (HoleTable.startingAt index).extended program.sites) := by
  have sites : program.sites = FunctionDefinition.sitesOfList before ++ last.sites := by
    rw [Program.sites, parts, FunctionDefinition.sitesOfList_append,
      FunctionDefinition.sitesOfList, FunctionDefinition.sitesOfList, List.append_nil]
  have start : (HoleTable.startingAt index).next = index := rfl
  rw [parts, List.forall_mem_append, List.forall_mem_singleton] at valid
  rw [sites, List.length_append] at full
  have positive := List.length_pos_iff.mpr literal
  have beforeFits :
      (HoleTable.startingAt index).next + (FunctionDefinition.sitesOfList before).length
        < indexBound := by
    omega
  have inBefore :=
    FunctionDefinition.replaceList_of_valid before (.startingAt index) valid.1 beforeFits
  have free :
      last.obstacle?
          ((HoleTable.startingAt index).extended (FunctionDefinition.sitesOfList before)).next =
        none := by
    rw [FunctionDefinition.obstacle?, HoleTable.next_extended,
      if_neg (Nat.not_le.mpr beforeFits), valid.2]
    exact if_neg (by omega)
  rw [Program.replaceLiterals, parts, FunctionDefinition.replaceList_append inBefore,
    FunctionDefinition.replaceList_cons_eq, free, sites, HoleTable.extended_append]
  exact ⟨_, rfl⟩

/-- Behind a hole of the last index nothing can be extracted, not even from a function without literals. -/
theorem Program.replaceLiterals_beyond_last
    {program replaced : Program}
    {index : Nat}
    {table : HoleTable}
    {hole : Hole}
    (extracted : program.replaceLiterals index = .ok (replaced, table))
    (last : table.holes.getLast? = some hole)
    (full : hole.index + 1 = indexBound)
    (further : FunctionDefinition)
    (rest : List FunctionDefinition) :
    Program.replaceLiterals { functions := program.functions ++ further :: rest } index =
      .error (.fault .indexOverflow) := by
  rw [Program.replaceLiterals] at extracted
  rcases (bind_eq_ok_iff _ _ _).mp extracted with ⟨result, inFunctions, same⟩
  cases same
  have table := (Prod.mk.inj (FunctionDefinition.eq_of_replaceList inFunctions)).2
  rw [table] at last
  have next := HoleTable.index_of_getLast? last
  have start : (HoleTable.startingAt index).next = index := rfl
  have stops :
      further.obstacle?
          ((HoleTable.startingAt index).extended
            (FunctionDefinition.sitesOfList program.functions)).next =
        some (.fault .indexOverflow) := by
    rw [HoleTable.next_extended]
    exact if_pos (by omega)
  rw [Program.replaceLiterals, FunctionDefinition.replaceList_append inFunctions, table,
    FunctionDefinition.replaceList_cons_eq, stops]
  rfl

/-! ## Every program and every index -/

/--
The outcome of extraction from a program. If a function has an obstacle and none before it has one,
extraction fails as this obstacle says; if none has one, the table has a hole for each literal. Runs never
overlap or leave indices out. The last hole may have the last index that fits, and then any further
function is one too many.
-/
theorem Program.replaceLiterals_outcome
    (program : Program)
    (index : Nat) :
    (∀ position failure,
        program.obstacleAt? index position = some failure →
          (∀ earlier < position, program.obstacleAt? index earlier = none) →
            program.replaceLiterals index = .error failure) ∧
      ((∀ position, program.obstacleAt? index position = none) →
        ∃ replaced table,
          program.replaceLiterals index = .ok (replaced, table) ∧
            table.size = program.literalsBefore program.functions.length) ∧
      (∀ expected found,
        program.replaceLiterals index ≠ .error (.rejected (.duplicateIndex expected found)) ∧
          program.replaceLiterals index ≠ .error (.rejected (.indexGap expected found))) ∧
      (∀ before last,
        program.functions = before ++ [last] →
          (∀ definition ∈ program.functions, definition.body.validate = .ok ()) →
            last.sites ≠ [] →
              index + program.sites.length = indexBound →
                ∃ replaced table hole,
                  program.replaceLiterals index = .ok (replaced, table) ∧
                    table.holes.getLast? = some hole ∧ hole.index + 1 = indexBound) ∧
      ∀ replaced table hole,
        program.replaceLiterals index = .ok (replaced, table) →
          table.holes.getLast? = some hole →
            hole.index + 1 = indexBound →
              ∀ further rest,
                Program.replaceLiterals { functions := program.functions ++ further :: rest }
                    index =
                  .error (.fault .indexOverflow) := by
  refine ⟨?_, ?_, ?_, ?_, ?_⟩
  · intro position failure stops first
    have stopped :
        FunctionDefinition.replaceList program.functions (.startingAt index) = .error failure :=
      FunctionDefinition.replaceList_of_obstacle stops first
    rw [Program.replaceLiterals, stopped, error_bind]
  · intro free
    have extracted :
        FunctionDefinition.replaceList program.functions (.startingAt index) =
          .ok
            (FunctionDefinition.numberedList index program.functions,
              (HoleTable.startingAt index).extended program.sites) :=
      FunctionDefinition.replaceList_of_no_obstacle free
    refine
      ⟨program.numbered index, (HoleTable.startingAt index).extended program.sites, ?_, ?_⟩
    · rw [Program.replaceLiterals, extracted]
      rfl
    · rw [program.literalsBefore_length]
      exact length_holesFrom index program.sites
  · intro expected found
    constructor
    · intro rejected
      exact absurd (Program.code_of_replaceLiterals rejected) (by simp [ProgramError.code])
    · intro rejected
      exact absurd (Program.code_of_replaceLiterals rejected) (by simp [ProgramError.code])
  · intro before last parts valid literal full
    rcases Program.replaceLiterals_of_full parts valid literal full with ⟨replaced, extracted⟩
    have nonempty : program.sites ≠ [] := by
      rw [Program.sites, parts, FunctionDefinition.sitesOfList_append,
        FunctionDefinition.sitesOfList]
      exact List.append_ne_nil_of_right_ne_nil _ (List.append_ne_nil_of_left_ne_nil literal _)
    have lastHole := HoleTable.getLast?_extended_startingAt index program.sites
    rw [List.getLast?_eq_some_getLast nonempty, Option.map_some] at lastHole
    have next := HoleTable.index_of_getLast? lastHole
    exact ⟨replaced, _, _, extracted, lastHole, next.trans full⟩
  · intro replaced table hole extracted last full further rest
    exact Program.replaceLiterals_beyond_last extracted last full further rest

/-- A literal takes the last index, and an empty function behind it is one too many. -/
example :
    let first : FunctionDefinition := { body := ⟨1, [.returnWith 2 (some (.literal (.int 7)))]⟩ }
    let program : Program := { functions := [first, { body := ⟨4, []⟩ }] }
    program.obstacleAt? 0xffffffffffffffff 0 = none ∧
      program.obstacleAt? 0xffffffffffffffff 1 = some (.fault .indexOverflow) := by
  decide

end SynthesisHoles
