import SynthesisHoles.Proofs.Hole.Absorption
import SynthesisHoles.Proofs.Text.Escapes

/-!
# The printed form of holes tells them apart

A table is printed with a line for each hole, and a line is made of four fields with plain signs between them.
The type of an extracted hole is that of its value, so it has one of three names. Digits end at the sign behind
them, and a character ends at its closing quote, so that each field can be told, and where it ends.

The main statement is about the tables that are made from extractions. Their lines are as many as their holes,
and the same lines come from the same holes. Which characters are printed by their numbers is left open in it.
-/

namespace SynthesisHoles

open Text (Legible endsNumeral_cons writePair)

/-! ## Printed forms with a choice of hidden characters -/

/-- Printed form of a literal where some characters are hidden. -/
def Literal.textWith (hidden : Char → Bool) : Literal → String
  | .int value => toString value
  | .bool value => if value then "true" else "false"
  | .char value => String.ofList (Text.quoteWith hidden '\'' [value])

/-- Printed form of a hole where some characters are hidden. -/
def Hole.textWith (hidden : Char → Bool) (hole : Hole) : String :=
  "??" ++ toString hole.index ++ " : " ++ hole.type.text ++ " = " ++ hole.value.textWith hidden
    ++ " (line " ++ toString hole.line ++ ")"

/-- Printed form of a table where some characters are hidden. -/
def HoleTable.textWith (hidden : Char → Bool) (table : HoleTable) : String :=
  String.join (table.holes.map fun hole => hole.textWith hidden ++ "\n")

theorem Hole.textWith_isHidden (hole : Hole) :
    hole.textWith Text.isHidden = hole.text := by
  cases hole with
  | mk index value type line => cases value <;> rfl

theorem HoleTable.textWith_isHidden (table : HoleTable) :
    table.textWith Text.isHidden = table.text := by
  simp only [textWith, text, Hole.textWith_isHidden]

/-! ## Tables made from extractions -/

/-- The tables that the library gives out: new ones, and those that absorb a run of an extraction. -/
inductive HoleTable.IsMade : HoleTable → Prop
  | startingAt (first : Nat) : IsMade (.startingAt first)
  | absorbs
      {table after : HoleTable}
      {run : HoleRun}
      (made : IsMade table)
      (runMade : run.IsMade)
      (absorbed : table.absorb run = .ok after) :
      IsMade after

/-- Whichever run is offered, a table that absorbs it or refuses it is given out as before. -/
theorem HoleTable.IsMade.offered
    {table : HoleTable}
    (made : table.IsMade)
    {run : HoleRun}
    (runMade : run.IsMade) :
    (table.offered run).2.IsMade := by
  rw [offered_eq]
  cases answer : table.absorb run with
  | error failure => exact made
  | ok after => exact .absorbs made runMade answer

theorem HoleTable.IsMade.afterOffers
    {table : HoleTable}
    (made : table.IsMade)
    {runs : List HoleRun}
    (runsMade : ∀ run ∈ runs, run.IsMade) :
    (table.afterOffers runs).IsMade := by
  induction runs generalizing table with
  | nil => exact made
  | cons run rest hypothesis =>
      rcases List.forall_mem_cons.mp runsMade with ⟨runMade, restMade⟩
      exact hypothesis (made.offered runMade) restMade

/-- The type of a hole is that of its value. -/
def Hole.IsTyped (hole : Hole) : Prop :=
  hole.type = hole.value.type

theorem isTyped_of_mem_holesFrom
    {start : Nat}
    {sites : List LiteralSite} :
    ∀ hole ∈ holesFrom start sites, hole.IsTyped := by
  intro hole member
  rcases List.mem_mapIdx.mp member with ⟨position, inside, rfl⟩
  rfl

theorem HoleRun.IsMade.isTyped_of_mem
    {run : HoleRun}
    (made : run.IsMade) :
    ∀ hole ∈ run.holes, hole.IsTyped := by
  rcases made.eq_runFrom with ⟨index, sites, _, rfl⟩
  exact isTyped_of_mem_holesFrom

/-- Absorption keeps holes typed, so the holes of all tables are. -/
theorem HoleTable.IsMade.isTyped_of_mem
    {table : HoleTable}
    (made : table.IsMade) :
    ∀ hole ∈ table.holes, hole.IsTyped := by
  induction made with
  | startingAt first => exact List.forall_mem_nil _
  | absorbs _ runMade absorbed hypothesis =>
      rw [(of_absorb absorbed).2, appended]
      exact List.forall_mem_append.mpr ⟨hypothesis, runMade.isTyped_of_mem⟩

/-! ## The value of a hole -/

namespace Literal

/-- The type and the value of a typed hole, as they are printed. -/
def typedForm (hidden : Char → Bool) (value : Literal) : List Char :=
  value.type.text.toList ++ (" = ".toList ++ (value.textWith hidden).toList)

theorem typedForm_int (hidden : Char → Bool) (value : Int) :
    (Literal.int value).typedForm hidden =
      ['i', 'n', 't', ' ', '=', ' '] ++ (toString value).toList := by
  simp [typedForm, type, DataType.text, textWith]

theorem typedForm_bool (hidden : Char → Bool) (value : Bool) :
    (Literal.bool value).typedForm hidden =
      ['b', 'i', 't', ' ', '=', ' '] ++
        if value then ['t', 'r', 'u', 'e'] else ['f', 'a', 'l', 's', 'e'] := by
  cases value <;> simp [typedForm, type, DataType.text, textWith]

theorem typedForm_char (hidden : Char → Bool) (value : Char) :
    (Literal.char value).typedForm hidden =
      ['c', 'h', 'a', 'r', ' ', '=', ' '] ++ Text.quoteWith hidden '\'' [value] := by
  simp [typedForm, type, DataType.text, textWith]

/-- The name of the type tells of which sort a literal is, and then the literal can be told. -/
theorem legible_typedForm
    (hidden : Char → Bool)
    (value : Literal) :
    Legible (typedForm hidden) value := by
  intro other rest otherRest ends otherEnds same
  cases value with
  | int value =>
      cases other with
      | int other =>
          rw [typedForm_int, typedForm_int, List.append_assoc, List.append_assoc] at same
          have cut := List.append_cancel_left same
          rcases Text.legible_integer value ends otherEnds cut with ⟨rfl, sameRest⟩
          exact ⟨rfl, sameRest⟩
      | bool other => simp [typedForm_int, typedForm_bool] at same
      | char other => simp [typedForm_int, typedForm_char] at same
  | bool value =>
      cases other with
      | int other => simp [typedForm_int, typedForm_bool] at same
      | bool other =>
          rw [typedForm_bool, typedForm_bool, List.append_assoc, List.append_assoc] at same
          have cut := List.append_cancel_left same
          cases value <;> cases other <;> simp_all
      | char other => simp [typedForm_bool, typedForm_char] at same
  | char value =>
      cases other with
      | int other => simp [typedForm_int, typedForm_char] at same
      | bool other => simp [typedForm_bool, typedForm_char] at same
      | char other =>
          rw [typedForm_char, typedForm_char, List.append_assoc, List.append_assoc] at same
          have cut := List.append_cancel_left same
          rcases Text.legible_quoteWith hidden [value] ends otherEnds cut with
            ⟨sameText, sameRest⟩
          rw [List.singleton_inj] at sameText
          rw [sameText]
          exact ⟨rfl, sameRest⟩

/-- No literal is printed with a line break. -/
theorem lineBreak_not_mem_typedForm
    (hidden : Char → Bool)
    (value : Literal) :
    '\n' ∉ value.typedForm hidden := by
  cases value with
  | int value =>
      have lineBreak : Text.isNumeral '\n' = false := rfl
      have noDigit := Text.not_mem_of_numerals (Text.isNumeral_of_mem_integer value) lineBreak
      rw [typedForm_int, List.mem_append, not_or]
      exact ⟨by decide, noDigit⟩
  | bool value => cases value <;> simp [typedForm_bool]
  | char value =>
      have noEscape := Text.lineBreak_not_mem_escapeCharacter hidden value
      simp [typedForm_char, Text.quoteWith, noEscape]

end Literal

/-! ## Lines -/

namespace Hole

/-- What tells a typed hole: its index, its value and its line. -/
def parts (hole : Hole) : Nat × Literal × Nat :=
  (hole.index, hole.value, hole.line)

theorem IsTyped.eq_of_parts
    {left right : Hole}
    (leftTyped : left.IsTyped)
    (rightTyped : right.IsTyped)
    (same : left.parts = right.parts) :
    left = right := by
  cases left with
  | mk index value type line =>
      cases right with
      | mk otherIndex otherValue otherType otherLine =>
          cases same
          have sameType : type = otherType := leftTyped.trans rightTyped.symm
          rw [sameType]

/-- Index, value and line of a typed hole, as they are printed. -/
def partsForm (hidden : Char → Bool) : Nat × Literal × Nat → List Char :=
  writePair (fun index : Nat => (toString index).toList) [' ', ':', ' ']
    (writePair (Literal.typedForm hidden) [' ', '(', 'l', 'i', 'n', 'e', ' ']
      (fun line : Nat => (toString line).toList))

theorem legible_partsForm
    (hidden : Char → Bool)
    (parts : Nat × Literal × Nat) :
    Legible (partsForm hidden) parts := by
  rcases parts with ⟨index, value, line⟩
  have blank : Text.isNumeral ' ' = false := rfl
  have behindIndex :=
    (Literal.legible_typedForm hidden value).pair blank ['(', 'l', 'i', 'n', 'e', ' ']
      (Text.legible_natural line)
  exact (Text.legible_natural index).pair blank [':', ' '] behindIndex

/-- The line of a hole in the printed form of a table. -/
def printedLine (hidden : Char → Bool) (hole : Hole) : List Char :=
  (hole.textWith hidden ++ "\n").toList

theorem IsTyped.printedLine_eq
    {hole : Hole}
    (typed : hole.IsTyped)
    (hidden : Char → Bool) :
    hole.printedLine hidden =
      '?' :: '?' :: (partsForm hidden hole.parts ++ [')', '\n']) := by
  rw [printedLine, textWith, typed]
  simp [partsForm, writePair, parts, Literal.typedForm]

/-- The line of a typed hole tells the hole, and where the line ends. -/
theorem IsTyped.printedLine_append_inj
    {hidden : Char → Bool}
    {left right : Hole}
    (leftTyped : left.IsTyped)
    (rightTyped : right.IsTyped)
    {rest otherRest : List Char}
    (same : left.printedLine hidden ++ rest = right.printedLine hidden ++ otherRest) :
    left = right ∧ rest = otherRest := by
  rw [leftTyped.printedLine_eq, rightTyped.printedLine_eq] at same
  simp only [List.cons_append, List.append_assoc, List.cons.injEq, true_and] at same
  have bracket : Text.isNumeral ')' = false := rfl
  rcases
      legible_partsForm hidden left.parts (endsNumeral_cons bracket _)
        (endsNumeral_cons bracket _) same with
    ⟨sameParts, sameBehind⟩
  constructor
  · exact leftTyped.eq_of_parts rightTyped sameParts
  · simpa using sameBehind

/-! ## Line breaks -/

theorem lineBreak_not_mem_partsForm
    (hidden : Char → Bool)
    (parts : Nat × Literal × Nat) :
    '\n' ∉ partsForm hidden parts := by
  have lineBreak : Text.isNumeral '\n' = false := rfl
  have noIndex := Text.not_mem_of_numerals (Text.isNumeral_of_mem_natural parts.1) lineBreak
  have noValue := Literal.lineBreak_not_mem_typedForm hidden parts.2.1
  have noLine := Text.not_mem_of_numerals (Text.isNumeral_of_mem_natural parts.2.2) lineBreak
  simp only [partsForm, writePair, List.mem_append, List.mem_cons, List.not_mem_nil, noIndex,
    noValue, noLine]
  decide

/-- The only line break of a line is the one that ends it. -/
theorem IsTyped.count_printedLine
    {hole : Hole}
    (typed : hole.IsTyped)
    (hidden : Char → Bool) :
    (hole.printedLine hidden).count '\n' = 1 := by
  have inside := lineBreak_not_mem_partsForm hidden hole.parts
  rw [typed.printedLine_eq]
  simp [List.count_eq_zero.mpr inside]

/-- Lines of typed holes tell the holes. -/
theorem flatMap_printedLine_inj
    {hidden : Char → Bool}
    {left right : List Hole}
    (leftTyped : ∀ hole ∈ left, hole.IsTyped)
    (rightTyped : ∀ hole ∈ right, hole.IsTyped)
    (same : left.flatMap (printedLine hidden) = right.flatMap (printedLine hidden)) :
    left = right := by
  induction left generalizing right with
  | nil =>
      cases right with
      | nil => rfl
      | cons other later =>
          have otherTyped := rightTyped other List.mem_cons_self
          rw [List.flatMap_cons, otherTyped.printedLine_eq] at same
          cases same
  | cons hole rest hypothesis =>
      rcases List.forall_mem_cons.mp leftTyped with ⟨holeTyped, restTyped⟩
      cases right with
      | nil =>
          rw [List.flatMap_cons, holeTyped.printedLine_eq] at same
          cases same
      | cons other later =>
          rcases List.forall_mem_cons.mp rightTyped with ⟨otherTyped, laterTyped⟩
          rw [List.flatMap_cons, List.flatMap_cons] at same
          rcases holeTyped.printedLine_append_inj otherTyped same with ⟨rfl, sameRest⟩
          rw [hypothesis restTyped laterTyped sameRest]

/-- There are as many line breaks as lines. -/
theorem count_flatMap_printedLine
    (hidden : Char → Bool)
    {holes : List Hole}
    (typed : ∀ hole ∈ holes, hole.IsTyped) :
    (holes.flatMap (printedLine hidden)).count '\n' = holes.length := by
  induction holes with
  | nil => rfl
  | cons hole rest hypothesis =>
      rcases List.forall_mem_cons.mp typed with ⟨holeTyped, restTyped⟩
      rw [List.flatMap_cons, List.count_append, holeTyped.count_printedLine, hypothesis restTyped,
        List.length_cons, Nat.add_comm]

end Hole

/-! ## Tables -/

namespace HoleTable

theorem toList_textWith
    (hidden : Char → Bool)
    (table : HoleTable) :
    (table.textWith hidden).toList = table.holes.flatMap (Hole.printedLine hidden) := by
  rw [textWith, String.toList_join, List.flatMap_map]
  rfl

/--
A table that is made from extractions, whichever characters are printed by their numbers. Its printed form has
one line break for each hole. Another such table has the same printed form exactly if it has the same holes: the
same indices, types, values and lines. With the characters that are hidden in fact, this is the printed form of
the library.
-/
theorem textWith_tells
    (hidden : Char → Bool)
    {table : HoleTable}
    (made : table.IsMade) :
    (table.textWith hidden).toList.count '\n' = table.size ∧
      (∀ other : HoleTable,
        other.IsMade →
          (table.textWith hidden = other.textWith hidden ↔ table.holes = other.holes)) ∧
      table.textWith Text.isHidden = table.text := by
  refine ⟨?_, ?_, table.textWith_isHidden⟩
  · rw [toList_textWith]
    exact Hole.count_flatMap_printedLine hidden made.isTyped_of_mem
  · intro other otherMade
    rw [← String.toList_inj, toList_textWith, toList_textWith]
    constructor
    · exact Hole.flatMap_printedLine_inj made.isTyped_of_mem otherMade.isTyped_of_mem
    · intro same
      rw [same]

end HoleTable

namespace Samples

/-- A statement with a quote, a line break and a negative number among its literals. -/
def signs : Statement :=
  .evaluate 4 (.array [character '\'', character '\n', integer (-12), bit false])

/-- The table of its holes. -/
def signTable : HoleTable :=
  (HoleTable.startingAt 7).extended signs.sites

theorem isMade_signTable : signTable.IsMade := by
  have extracted : signs.replaceLiterals 7 = .ok (signs.numbered 7, runFrom 7 signs.sites) := rfl
  exact .absorbs (.startingAt 7) (.statement (by decide) extracted) rfl

/-- Four lines, though one of the values is a line break, compared with those of the last indices. -/
theorem signTable_textWith_tells :
    (signTable.IsMade ∧ ((HoleTable.startingAt 0xfffffffffffffffc).afterOffers lastRuns).IsMade) ∧
      (signTable.textWith Text.isHidden).toList.count '\n' = 4 ∧
      (signTable.textWith Text.isHidden =
          ((HoleTable.startingAt 0xfffffffffffffffc).afterOffers lastRuns).textWith
            Text.isHidden ↔
        signTable.holes =
          ((HoleTable.startingAt 0xfffffffffffffffc).afterOffers lastRuns).holes) ∧
      signTable.textWith Text.isHidden = signTable.text := by
  have lastMade :=
    (HoleTable.IsMade.startingAt 0xfffffffffffffffc).afterOffers isMade_of_mem_lastRuns
  have tells := HoleTable.textWith_tells Text.isHidden isMade_signTable
  exact ⟨⟨isMade_signTable, lastMade⟩, tells.1, tells.2.1 _ lastMade, tells.2.2⟩

end Samples

end SynthesisHoles
