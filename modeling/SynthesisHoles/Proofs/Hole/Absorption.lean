import SynthesisHoles.Proofs.Hole.Replacement

/-!
# Tables that absorb runs

A table takes over runs of holes one after the other. It looks at the start of a run and never at the
holes in it, so that its holes are numbered consecutively rests on how runs are made: each comes from an
extraction, or has no hole. Runs are offered to a table in place, by a computation that has the table for
its state, and this is compared with absorption as a function. A history offers several runs one by one.

The main statement is about a table to which any runs were offered in any order, whether it took them
over or not. It says how the table is numbered, and what happens with each further run.
-/

namespace SynthesisHoles

/-! ## Consecutive holes -/

/-- Holes have consecutive indices from a start. -/
def AreConsecutive (start : Nat) (holes : List Hole) : Prop :=
  ∀ position hole, holes[position]? = some hole → hole.index = start + position

theorem areConsecutive_holesFrom
    (start : Nat)
    (sites : List LiteralSite) :
    AreConsecutive start (holesFrom start sites) := by
  intro position hole there
  rw [getElem?_holesFrom, Option.map_eq_some_iff] at there
  rcases there with ⟨_, _, rfl⟩
  rfl

theorem AreConsecutive.append
    {start : Nat}
    {left right : List Hole}
    (leftHoles : AreConsecutive start left)
    (rightHoles : AreConsecutive (start + left.length) right) :
    AreConsecutive start (left ++ right) := by
  intro position hole there
  rw [List.getElem?_append] at there
  split at there
  next inLeft => exact leftHoles position hole there
  next inRight =>
    rw [rightHoles _ hole there]
    omega

/-- A look-up finds the holes of a list by their indices, and these are consecutive from a start. -/
structure IsIndexed (start : Nat) (holes : List Hole) (find : Nat → Option Hole) : Prop where
  consecutive : AreConsecutive start holes
  found_iff :
    ∀ index, (∃ hole, find index = some hole) ↔ start ≤ index ∧ index < start + holes.length
  index_of_found : ∀ index hole, find index = some hole → hole.index = index

theorem AreConsecutive.isIndexed
    {start : Nat}
    {holes : List Hole}
    (consecutive : AreConsecutive start holes) :
    IsIndexed start holes (holeAt? start holes) where
  consecutive := consecutive
  found_iff := by
    intro index
    rw [← Option.isSome_iff_exists, holeAt?]
    split
    next late =>
      rw [isSome_getElem?]
      omega
    next early => simp [early]
  index_of_found := by
    intro index hole found
    rw [holeAt?] at found
    split at found
    next late =>
      rw [consecutive _ hole found]
      omega
    next early => cases found

/-! ## How runs are made -/

/-- The runs that the library gives out: those of no hole, and those of extractions. -/
inductive HoleRun.IsMade : HoleRun → Prop
  | empty
      {index : Nat}
      (word : index < indexBound) :
      IsMade (.startingAt index)
  | expression
      {expression replaced : Expression}
      {index : Nat}
      {run : HoleRun}
      (word : index < indexBound)
      (extracted : expression.replaceLiterals index = .ok (replaced, run)) :
      IsMade run
  | statement
      {statement replaced : Statement}
      {index : Nat}
      {run : HoleRun}
      (word : index < indexBound)
      (extracted : statement.replaceLiterals index = .ok (replaced, run)) :
      IsMade run
  | block
      {block replaced : Block}
      {index : Nat}
      {run : HoleRun}
      (word : index < indexBound)
      (extracted : block.replaceLiterals index = .ok (replaced, run)) :
      IsMade run
  | function
      {definition replaced : FunctionDefinition}
      {index : Nat}
      {run : HoleRun}
      (word : index < indexBound)
      (extracted : definition.replaceLiterals index = .ok (replaced, run)) :
      IsMade run

namespace HoleRun

/-- Whatever a run was made from, it is that of some sites from a machine word. -/
theorem IsMade.eq_runFrom
    {run : HoleRun}
    (made : run.IsMade) :
    ∃ index sites, index < indexBound ∧ run = runFrom index sites := by
  cases made with
  | empty word => exact ⟨_, [], word, rfl⟩
  | expression word extracted =>
      rw [Expression.replaceLiterals_eq, outcome_eq_ok_iff] at extracted
      exact ⟨_, _, word, (Prod.mk.inj extracted.2).2⟩
  | statement word extracted =>
      rw [Statement.replaceLiterals_eq] at extracted
      exact ⟨_, _, word, (Prod.mk.inj (of_replacement extracted).2).2⟩
  | block word extracted =>
      rw [Block.replaceLiterals_eq] at extracted
      exact ⟨_, _, word, (Prod.mk.inj (of_replacement extracted).2).2⟩
  | function word extracted =>
      rw [FunctionDefinition.replaceLiterals_eq_replacement] at extracted
      exact ⟨_, _, word, (Prod.mk.inj (of_replacement extracted).2).2⟩

theorem IsMade.start_lt
    {run : HoleRun}
    (made : run.IsMade) :
    run.start < indexBound := by
  rcases made.eq_runFrom with ⟨index, sites, word, rfl⟩
  exact word

theorem IsMade.consecutive
    {run : HoleRun}
    (made : run.IsMade) :
    AreConsecutive run.start run.holes := by
  rcases made.eq_runFrom with ⟨index, sites, _, rfl⟩
  exact areConsecutive_holesFrom index sites

end HoleRun

/-! ## Absorbing -/

namespace HoleTable

/-- The table that took the holes of a run over. -/
def appended (table : HoleTable) (run : HoleRun) : HoleTable :=
  { table with holes := table.holes ++ run.holes }

/-- To absorb a run is to compare its start with the next index of the table. -/
theorem absorb_cases
    (table : HoleTable)
    (run : HoleRun) :
    (indexBound ≤ table.next ∧ table.absorb run = .error (.fault .indexOverflow)) ∨
      (table.next < indexBound ∧ run.start < table.next ∧
        table.absorb run = .error (.rejected (.duplicateIndex table.next run.start))) ∨
      (table.next < run.start ∧ table.next < indexBound ∧
        table.absorb run = .error (.rejected (.indexGap table.next run.start))) ∨
      (table.next < indexBound ∧ run.start = table.next ∧
        table.absorb run = .ok (table.appended run)) := by
  by_cases room : table.next < indexBound
  · right
    rw [absorb, nextIndex_eq room, liftM_ok_of_fault, ok_bind]
    rcases Nat.lt_trichotomy run.start table.next with early | inPlace | late
    · left
      exact ⟨room, early, by simp [early]⟩
    · right; right
      exact ⟨room, inPlace, by simp [inPlace, appended]⟩
    · right; left
      have notEarly : ¬ run.start < table.next := Nat.lt_asymm late
      exact ⟨late, room, by simp [late, notEarly]⟩
  · left
    refine ⟨Nat.le_of_not_lt room, ?_⟩
    rw [absorb, nextIndex_of_full room, liftM_error_of_fault, error_bind]

theorem of_absorb
    {table after : HoleTable}
    {run : HoleRun}
    (absorbed : table.absorb run = .ok after) :
    run.start = table.next ∧ after = table.appended run := by
  rcases table.absorb_cases run with
      ⟨_, answer⟩ | ⟨_, _, answer⟩ | ⟨_, _, answer⟩ | ⟨_, inPlace, answer⟩
  all_goals rw [answer] at absorbed
  case inr.inr.inr => exact ⟨inPlace, (Except.ok.inj absorbed).symm⟩
  all_goals cases absorbed

/-- To absorb a run in place: the table is read, and written when nothing can fail any more. -/
def absorbing (run : HoleRun) : ExceptT Failure (StateM HoleTable) Unit := do
  let table ← get
  let expected ← table.nextIndex
  if run.start < expected then
    throw (.rejected (.duplicateIndex expected run.start))
  if expected < run.start then
    throw (.rejected (.indexGap expected run.start))
  set { table with holes := table.holes ++ run.holes }

/-- What comes of offering a run to a table: an answer, and the table afterwards. -/
def offered (table : HoleTable) (run : HoleRun) : Except Failure Unit × HoleTable :=
  (absorbing run).run.run table

/-- The answer in place is the same, and the table is another one only if it absorbs the run. -/
theorem offered_eq
    (table : HoleTable)
    (run : HoleRun) :
    table.offered run =
      match table.absorb run with
      | .ok after => (.ok (), after)
      | .error failure => (.error failure, table) := by
  have entered :
      table.offered run =
        ((do
          let expected ← table.nextIndex
          if run.start < expected then
            throw (.rejected (.duplicateIndex expected run.start))
          if expected < run.start then
            throw (.rejected (.indexGap expected run.start))
          set { table with holes := table.holes ++ run.holes } :
            ExceptT Failure (StateM HoleTable) Unit).run.run table) := rfl
  rw [entered, absorb]
  cases table.nextIndex with
  | error fault => rfl
  | ok expected =>
      have asked (next : Nat → ExceptT Failure (StateM HoleTable) Unit) :
          (liftM (Except.ok expected : Except Fault Nat) >>= next) = next expected := rfl
      rw [asked, liftM_ok_of_fault, ok_bind]
      by_cases early : run.start < expected
      · rw [if_pos early, if_pos early]
        rfl
      · rw [if_neg early, if_neg early]
        by_cases late : expected < run.start
        · rw [if_pos late, if_pos late]
          rfl
        · rw [if_neg late, if_neg late]
          rfl

/-! ## Offers to a table -/

/-- How a table answers to a run, and what becomes of it. -/
structure Answers (table : HoleTable) (run : HoleRun) : Prop where
  absorbs_iff :
    (∃ after, table.absorb run = .ok after) ↔ run.start = table.first + table.size
  duplicate_iff :
    table.absorb run =
        .error (.rejected (.duplicateIndex (table.first + table.size) run.start)) ↔
      run.start < table.first + table.size ∧ table.first + table.size < indexBound
  gap_iff :
    table.absorb run = .error (.rejected (.indexGap (table.first + table.size) run.start)) ↔
      table.first + table.size < run.start
  overflow_iff :
    table.absorb run = .error (.fault .indexOverflow) ↔
      indexBound ≤ table.first + table.size
  appended :
    ∀ after,
      table.absorb run = .ok after →
        after = table.appended run ∧ table.offered run = (.ok (), after)
  unchanged :
    ∀ failure, table.absorb run = .error failure → table.offered run = (.error failure, table)

/--
The answer depends on where the run starts, and a start is a machine word. There are four cases, and the
answer tells in which of them one is, since it is another one in each.
-/
theorem answers_of_word
    (table : HoleTable)
    {run : HoleRun}
    (word : run.start < indexBound) :
    table.Answers run := by
  constructor
  case appended =>
    intro after absorbed
    rw [offered_eq, absorbed]
    exact ⟨(of_absorb absorbed).2, rfl⟩
  case unchanged =>
    intro failure refused
    rw [offered_eq, refused]
  all_goals
    rw [size, ← next]
    rcases table.absorb_cases run with
        ⟨_, answer⟩ | ⟨_, _, answer⟩ | ⟨_, _, answer⟩ | ⟨_, _, answer⟩ <;>
      simp [answer] <;>
      omega

/-! ## Histories of offers -/

/-- The table after some runs were offered to it one after the other. -/
def afterOffers (table : HoleTable) (runs : List HoleRun) : HoleTable :=
  runs.foldl (fun table run => (table.offered run).2) table

/-- The first index of a table is kept, and the holes stay consecutive from there. -/
structure IsNumberedFrom (table : HoleTable) (first : Nat) : Prop where
  first_eq : table.first = first
  consecutive : AreConsecutive first table.holes

theorem isNumberedFrom_startingAt (first : Nat) :
    (startingAt first).IsNumberedFrom first where
  first_eq := rfl
  consecutive := areConsecutive_holesFrom first []

/-- Whichever run is offered, a numbered table stays numbered if the run is. -/
theorem IsNumberedFrom.offered
    {table : HoleTable}
    {first : Nat}
    (numbered : table.IsNumberedFrom first)
    {run : HoleRun}
    (consecutive : AreConsecutive run.start run.holes) :
    (table.offered run).2.IsNumberedFrom first := by
  rw [offered_eq]
  cases answer : table.absorb run with
  | error failure => exact numbered
  | ok after =>
      rcases of_absorb answer with ⟨inPlace, rfl⟩
      rw [inPlace, next, numbered.first_eq] at consecutive
      exact ⟨numbered.first_eq, numbered.consecutive.append consecutive⟩

/-- So it stays numbered whichever runs are offered, as long as the library made them. -/
theorem IsNumberedFrom.afterOffers
    {table : HoleTable}
    {first : Nat}
    (numbered : table.IsNumberedFrom first)
    {runs : List HoleRun}
    (made : ∀ run ∈ runs, run.IsMade) :
    (table.afterOffers runs).IsNumberedFrom first := by
  induction runs generalizing table with
  | nil => exact numbered
  | cons run rest hypothesis =>
      rcases List.forall_mem_cons.mp made with ⟨runMade, restMade⟩
      exact hypothesis (numbered.offered runMade.consecutive) restMade

/-- A look-up in a numbered table finds exactly the holes of the table. -/
theorem IsNumberedFrom.isIndexed
    {table : HoleTable}
    {first : Nat}
    (numbered : table.IsNumberedFrom first) :
    IsIndexed first table.holes table.hole? := by
  rcases numbered with ⟨rfl, consecutive⟩
  exact consecutive.isIndexed

/--
A new table to which runs were offered, good ones, early ones and late ones in any order. Its holes have
consecutive indices from the first, and a look-up finds exactly those. Each further run has holes of
consecutive indices from its own start, and the table absorbs it if it starts at the next index. If it
starts before or after that, or if the next index does not fit, the answer says so, and the table stays
as it was.
-/
theorem afterOffers_answers
    (first : Nat)
    (runs : List HoleRun)
    (made : ∀ run ∈ runs, run.IsMade) :
    ((startingAt first).afterOffers runs).first = first ∧
      IsIndexed first ((startingAt first).afterOffers runs).holes
        ((startingAt first).afterOffers runs).hole? ∧
      ∀ run : HoleRun,
        run.IsMade →
          IsIndexed run.start run.holes run.hole? ∧
            ((startingAt first).afterOffers runs).Answers run := by
  have numbered := (isNumberedFrom_startingAt first).afterOffers made
  refine ⟨numbered.first_eq, numbered.isIndexed, ?_⟩
  intro run runMade
  exact ⟨runMade.consecutive.isIndexed, answers_of_word _ runMade.start_lt⟩

end HoleTable

namespace Samples

/--
Runs near the bound of indices: one of no hole, one of two holes, one that starts early, one that starts
late, and one that takes the last two indices.
-/
def lastRuns : List HoleRun :=
  [ .startingAt 0xfffffffffffffffc,
    runFrom 0xfffffffffffffffc [⟨.int 1, 0⟩, ⟨.int 2, 0⟩],
    runFrom 0xfffffffffffffffd [⟨.int 3, 4⟩],
    runFrom 0xffffffffffffffff [⟨.bool true, 7⟩],
    runFrom 0xfffffffffffffffe [⟨.int 3, 4⟩, ⟨.char 'a', 5⟩] ]

theorem isMade_of_mem_lastRuns :
    ∀ run ∈ lastRuns, run.IsMade := by
  have pair :
      (binary (integer 1) "+" (integer 2)).replaceLiterals 0xfffffffffffffffc =
        .ok
          ((binary (integer 1) "+" (integer 2)).numbered 0xfffffffffffffffc,
            runFrom 0xfffffffffffffffc [⟨.int 1, 0⟩, ⟨.int 2, 0⟩]) := rfl
  have early :
      (assign 4 "x" (integer 3)).replaceLiterals 0xfffffffffffffffd =
        .ok
          ((assign 4 "x" (integer 3)).numbered 0xfffffffffffffffd,
            runFrom 0xfffffffffffffffd [⟨.int 3, 4⟩]) := rfl
  have late :
      (Statement.assertion 7 (bit true)).replaceLiterals 0xffffffffffffffff =
        .ok
          ((Statement.assertion 7 (bit true)).numbered 0xffffffffffffffff,
            runFrom 0xffffffffffffffff [⟨.bool true, 7⟩]) := rfl
  have last :
      (Block.mk 3 [assign 4 "x" (integer 3), .evaluate 5 (character 'a')]).replaceLiterals
          0xfffffffffffffffe =
        .ok
          ((Block.mk 3 [assign 4 "x" (integer 3), .evaluate 5 (character 'a')]).numbered
              0xfffffffffffffffe,
            runFrom 0xfffffffffffffffe [⟨.int 3, 4⟩, ⟨.char 'a', 5⟩]) := rfl
  simp only [lastRuns, List.forall_mem_cons]
  exact
    ⟨.empty (by decide), .expression (by decide) pair, .statement (by decide) early,
      .statement (by decide) late, .block (by decide) last, List.forall_mem_nil _⟩

/-- Two of the last runs are refused, and then the table is full up to the last index. -/
example :
    (HoleTable.startingAt 0xfffffffffffffffc).afterOffers lastRuns =
        (HoleTable.startingAt 0xfffffffffffffffc).extended
          [⟨.int 1, 0⟩, ⟨.int 2, 0⟩, ⟨.int 3, 4⟩, ⟨.char 'a', 5⟩] := by
  rfl

/-- The full table, to which a further run is offered. -/
theorem lastRuns_answers :
    (∀ run ∈ lastRuns, run.IsMade) ∧
      ((HoleTable.startingAt 0xfffffffffffffffc).afterOffers lastRuns).first = 0xfffffffffffffffc ∧
      IsIndexed 0xfffffffffffffffc
        ((HoleTable.startingAt 0xfffffffffffffffc).afterOffers lastRuns).holes
        ((HoleTable.startingAt 0xfffffffffffffffc).afterOffers lastRuns).hole? ∧
      ∀ run : HoleRun,
        run.IsMade →
          IsIndexed run.start run.holes run.hole? ∧
            ((HoleTable.startingAt 0xfffffffffffffffc).afterOffers lastRuns).Answers run :=
  ⟨isMade_of_mem_lastRuns,
    HoleTable.afterOffers_answers 0xfffffffffffffffc lastRuns isMade_of_mem_lastRuns⟩

end Samples

end SynthesisHoles
