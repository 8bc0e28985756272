import SynthesisHoles.Hole.Json
import SynthesisHoles.Proofs.Text.JsonReading

/-!
# The JSON of holes tells them apart

The JSON of a value does not say of which sort the value is: an integer that is too large for a number is
written as a string, and so is a character. These never clash. A single character is the decimal form of a
digit at most, and digits are written as numbers.

So the JSON of literals, types and holes tells them apart, and with them that of runs and tables. The main
statement is about the written texts, the compact and the indented one.
-/

namespace SynthesisHoles

open Text (JsonValue)

/-! ## Literals -/

/-- An integer of one character is a digit, and that is far from the ends of a machine word. -/
theorem fitsSignedWord_of_toString_eq_singleton
    {value : Int}
    {character : Char}
    (short : toString value = String.singleton character) :
    fitsSignedWord value = true := by
  have length : (toString value).toList.length = 1 := by
    rw [short, String.toList_singleton, List.length_singleton]
  rw [Text.toString_integer] at length
  split at length
  next natural =>
    rw [Nat.toString_eq_ofList_toDigits, String.toList_ofList] at length
    have digit : value.toNat < 10 ^ 1 := by
      apply (Nat.length_toDigits_le_iff (by decide) (by decide)).mp
      exact Nat.le_of_eq length
    simp only [fitsSignedWord, Bool.and_eq_true, decide_eq_true_eq]
    omega
  next negative =>
    have digits := List.length_pos_iff.mpr (Text.toString_natural_ne_nil (-value).toNat)
    rw [String.toList_append, List.length_append] at length
    have sign : "-".toList.length = 1 := rfl
    omega

/-- An integer and a character are never written alike. -/
theorem Literal.json_int_ne_json_char (value : Int) (character : Char) :
    (Literal.int value).json ≠ (Literal.char character).json := by
  intro same
  rw [json, json] at same
  split at same
  next => cases same
  next large =>
    rw [JsonValue.string.injEq] at same
    exact large (fitsSignedWord_of_toString_eq_singleton same)

theorem Literal.json_inj {left right : Literal} :
    left.json = right.json ↔ left = right := by
  constructor
  · intro same
    cases left with
    | int value =>
        cases right with
        | int other =>
            rw [json, json] at same
            split at same <;> split at same
            next => rw [JsonValue.number.inj same]
            next => cases same
            next => cases same
            next =>
              rw [JsonValue.string.injEq, Text.toString_integer_inj] at same
              rw [same]
        | bool other =>
            rw [json, json] at same
            split at same <;> cases same
        | char other => exact absurd same (json_int_ne_json_char value other)
    | bool value =>
        cases right with
        | int other =>
            rw [json, json] at same
            split at same <;> cases same
        | bool other => rw [JsonValue.boolean.inj same]
        | char other => cases same
    | char value =>
        cases right with
        | int other => exact absurd same.symm (json_int_ne_json_char other value)
        | bool other => cases same
        | char other =>
            rw [json, json, JsonValue.string.injEq, String.singleton_inj] at same
            rw [same]
  · intro same
    rw [same]

/-! ## Types -/

theorem DataType.json_inj {left right : DataType} :
    left.json = right.json ↔ left = right := by
  constructor
  · intro same
    induction left generalizing right with
    | array item hypothesis =>
        cases right with
        | array other =>
            have sameItem : item.json = other.json := by
              simpa [json] using same
            rw [hypothesis sameItem]
        | _ => simp [json] at same
    | struct name =>
        cases right with
        | struct other =>
            have sameName : name = other := by
              simpa [json] using same
            rw [sameName]
        | _ => simp [json] at same
    | _ => cases right <;> first | rfl | simp [json] at same
  · intro same
    rw [same]

/-! ## Holes, runs and tables -/

theorem Hole.json_inj {left right : Hole} :
    left.json = right.json ↔ left = right := by
  cases left with
  | mk index value type line =>
      cases right with
      | mk otherIndex otherValue otherType otherLine =>
          simp only [json, JsonValue.object.injEq, JsonValue.number.injEq, List.cons.injEq,
            Prod.mk.injEq, Int.ofNat_inj, Literal.json_inj, DataType.json_inj, mk.injEq, true_and,
            and_true]

theorem Hole.map_json_inj {left right : List Hole} :
    left.map Hole.json = right.map Hole.json ↔ left = right :=
  List.map_inj_right fun _ _ => Hole.json_inj.mp

/-- An index and a list of holes, under any two names, are told by the object of both. -/
theorem Hole.json_numbered_inj
    {indexName holesName : String}
    {index otherIndex : Nat}
    {holes otherHoles : List Hole} :
    JsonValue.object [(indexName, .number index), (holesName, .list (holes.map json))] =
        JsonValue.object
          [(indexName, .number otherIndex), (holesName, .list (otherHoles.map json))] ↔
      index = otherIndex ∧ holes = otherHoles := by
  simp only [JsonValue.object.injEq, JsonValue.number.injEq, JsonValue.list.injEq, List.cons.injEq,
    Prod.mk.injEq, Int.ofNat_inj, map_json_inj, true_and, and_true]

theorem HoleRun.json_inj {left right : HoleRun} :
    left.json = right.json ↔ left = right := by
  cases left with
  | mk start holes =>
      cases right with
      | mk otherStart otherHoles =>
          rw [json, json, Hole.json_numbered_inj, mk.injEq]

theorem HoleTable.json_inj {left right : HoleTable} :
    left.json = right.json ↔ left = right := by
  cases left with
  | mk first holes =>
      cases right with
      | mk otherFirst otherHoles =>
          rw [json, json, Hole.json_numbered_inj, mk.injEq]

/-! ## Texts -/

/-- Values are told apart by both of their JSON texts. -/
structure ToldByJson {Value : Type} (json : Value → JsonValue) : Prop where
  compact_iff : ∀ left right, (json left).compact = (json right).compact ↔ left = right
  indented_iff : ∀ left right, (json left).indented = (json right).indented ↔ left = right

theorem toldByJson_of_json_inj
    {Value : Type}
    {json : Value → JsonValue}
    (inj : ∀ {left right}, json left = json right ↔ left = right) :
    ToldByJson json where
  compact_iff := by
    intro left right
    rw [JsonValue.compact_inj, inj]
  indented_iff := by
    intro left right
    rw [JsonValue.indented_inj, inj]

/--
Tables of holes are told apart by their JSON texts, the compact and the indented one: tables with the same
text have the same first index and the same holes, in index, value, type and line. Runs of holes are told
apart likewise, and so are types. Where the holes come from does not matter, nor which integers, characters
and names they hold.
-/
theorem json_texts_tell :
    ToldByJson HoleTable.json ∧ ToldByJson HoleRun.json ∧ ToldByJson DataType.json := by
  refine ⟨?_, ?_, ?_⟩
  · exact toldByJson_of_json_inj HoleTable.json_inj
  · exact toldByJson_of_json_inj HoleRun.json_inj
  · exact toldByJson_of_json_inj DataType.json_inj

end SynthesisHoles
