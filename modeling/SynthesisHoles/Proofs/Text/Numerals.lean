import SynthesisHoles.Text.Quoted

/-!
# Numbers at the front of a text

A number has no closing sign, so where its digits end is told by what stands behind them. In front of a text
that goes on neither with a digit nor with a sign, both the number and the place where it ends can be told.
Written forms of which this holds are called legible here. A form that closes itself is legible too, and a
form made of legible parts is legible if the part behind each number ends it.

The digits tell the number in any base up to sixteen, since it can be worked out from them.
-/

namespace SynthesisHoles.Text

/-! ## The number of some digits -/

/-- What a digit stands for, in lower case beyond nine. -/
def digitValue (digit : Char) : Nat :=
  if digit.isDigit then digit.toNat - '0'.toNat else digit.toNat - 'a'.toNat + 10

theorem digitValue_digitChar {number : Nat} (small : number < 16) :
    digitValue number.digitChar = number := by
  revert number
  decide

/-- The number that digits give in a base. -/
def numberOf (base : Nat) (digits : List Char) : Nat :=
  digits.foldl (fun number digit => base * number + digitValue digit) 0

/-- A number can be worked out from its digits. -/
theorem numberOf_toDigits
    {base : Nat}
    (proper : 1 < base)
    (small : base ≤ 16)
    (number : Nat) :
    numberOf base (base.toDigits number) = number := by
  induction number using Nat.strongRecOn with
  | _ number hypothesis =>
      rw [Nat.toDigits_eq_if proper]
      split
      next below =>
        rw [numberOf, List.foldl_cons, List.foldl_nil, digitValue_digitChar (by omega)]
        omega
      next above =>
        have last : number % base < base := Nat.mod_lt _ (by omega)
        have front := hypothesis (number / base) (Nat.div_lt_self (by omega) proper)
        rw [numberOf] at front
        rw [numberOf, List.foldl_append, front, List.foldl_cons, List.foldl_nil,
          digitValue_digitChar (by omega)]
        exact Nat.div_add_mod number base

theorem toDigits_inj
    {base left right : Nat}
    (proper : 1 < base)
    (small : base ≤ 16) :
    base.toDigits left = base.toDigits right ↔ left = right := by
  constructor
  · intro same
    rw [← numberOf_toDigits proper small left, same, numberOf_toDigits proper small]
  · intro same
    rw [same]

/-- Decimal forms of different natural numbers differ. -/
theorem toString_natural_inj {left right : Nat} :
    toString left = toString right ↔ left = right := by
  rw [Nat.toString_eq_ofList_toDigits, Nat.toString_eq_ofList_toDigits, String.ofList_inj,
    toDigits_inj (by decide) (by decide)]

/-! ## Digits and signs -/

/-- Whether a character can stand in a decimal number. -/
def isNumeral (character : Char) : Bool :=
  character.isDigit || decide (character = '-')

theorem isNumeral_of_mem_natural (value : Nat) :
    ∀ character ∈ (toString value).toList, isNumeral character = true := by
  intro character member
  rw [Nat.toString_eq_ofList_toDigits, String.toList_ofList] at member
  rw [isNumeral, Nat.isDigit_of_mem_toDigits (by decide) (by decide) member, Bool.true_or]

/-- The decimal form of an integer is that of a natural number, with a sign in front of a negative one. -/
theorem toString_integer (value : Int) :
    toString value =
      if 0 ≤ value then toString value.toNat else "-" ++ toString (-value).toNat := by
  rw [Int.toString_eq_repr, Int.repr_eq_if]
  rfl

theorem isNumeral_of_mem_integer (value : Int) :
    ∀ character ∈ (toString value).toList, isNumeral character = true := by
  intro character member
  rw [toString_integer] at member
  split at member
  next => exact isNumeral_of_mem_natural _ character member
  next =>
    rw [String.toList_append, List.mem_append] at member
    rcases member with sign | digit
    · rw [List.mem_singleton.mp sign]
      rfl
    · exact isNumeral_of_mem_natural _ character digit

theorem toString_natural_ne_nil (value : Nat) : (toString value).toList ≠ [] := by
  rw [Nat.toString_eq_ofList_toDigits, String.toList_ofList]
  exact Nat.toDigits_ne_nil

theorem toString_integer_ne_nil (value : Int) : (toString value).toList ≠ [] := by
  rw [toString_integer]
  split
  next => exact toString_natural_ne_nil _
  next =>
    rw [String.toList_append]
    exact List.append_ne_nil_of_right_ne_nil _ (toString_natural_ne_nil _)

/-- A natural number has no sign. -/
theorem not_sign_mem_natural (value : Nat) : '-' ∉ (toString value).toList := by
  intro member
  rw [Nat.toString_eq_ofList_toDigits, String.toList_ofList] at member
  have digit := Nat.isDigit_of_mem_toDigits (by decide) (by decide) member
  revert digit
  decide

/-- Decimal forms of different integers differ. -/
theorem toString_integer_inj {left right : Int} :
    toString left = toString right ↔ left = right := by
  constructor
  · intro same
    rw [toString_integer, toString_integer] at same
    have signOnlyLeft (magnitude other : Nat) : "-" ++ toString magnitude ≠ toString other := by
      intro same
      apply not_sign_mem_natural other
      rw [← same, String.toList_append]
      exact List.mem_cons_self
    split at same <;> split at same
    next => rw [toString_natural_inj] at same; omega
    next => exact absurd same.symm (signOnlyLeft _ _)
    next => exact absurd same (signOnlyLeft _ _)
    next => rw [String.append_right_inj, toString_natural_inj] at same; omega
  · intro same
    rw [same]

/-- A sign that stands in no number is none of some numerals. -/
theorem not_mem_of_numerals
    {front : List Char}
    (numerals : ∀ character ∈ front, isNumeral character = true)
    {sign : Char}
    (ends : isNumeral sign = false) :
    sign ∉ front := by
  intro member
  rw [numerals sign member] at ends
  cases ends

/-! ## Legible forms -/

/-- A text behind a number: it starts with neither a digit nor a sign. -/
def EndsNumeral (rest : List Char) : Prop :=
  ∀ character ∈ rest.head?, isNumeral character = false

theorem endsNumeral_nil : EndsNumeral [] := by
  intro character member
  cases member

theorem endsNumeral_cons
    {first : Char}
    (ends : isNumeral first = false)
    (rest : List Char) :
    EndsNumeral (first :: rest) := by
  intro character member
  cases member
  exact ends

/-- What stands in front of such a text is all that can belong to a number. -/
theorem takeWhile_isNumeral
    {front rest : List Char}
    (numerals : ∀ character ∈ front, isNumeral character = true)
    (ends : EndsNumeral rest) :
    (front ++ rest).takeWhile isNumeral = front := by
  rw [List.takeWhile_append_of_pos numerals]
  cases rest with
  | nil => rw [List.takeWhile_nil, List.append_nil]
  | cons first others =>
      have stops : ¬ isNumeral first = true := by
        rw [Bool.not_eq_true]
        exact ends first rfl
      rw [List.takeWhile_cons_of_neg stops, List.append_nil]

/--
The written form of a value is legible if it tells the value, and where the form ends, in front of any text
that ends a number.
-/
def Legible {Value : Type} (write : Value → List Char) (value : Value) : Prop :=
  ∀ ⦃other : Value⦄ ⦃rest otherRest : List Char⦄,
    EndsNumeral rest →
      EndsNumeral otherRest →
        write value ++ rest = write other ++ otherRest →
          value = other ∧ rest = otherRest

/-- A form that consists of numerals and tells the value by itself is legible. -/
theorem legible_of_numerals
    {Value : Type}
    {write : Value → List Char}
    (numerals : ∀ value, ∀ character ∈ write value, isNumeral character = true)
    (tells : ∀ left right, write left = write right → left = right)
    (value : Value) :
    Legible write value := by
  intro other rest otherRest ends otherEnds same
  have sameForm : write value = write other := by
    rw [← takeWhile_isNumeral (numerals value) ends, same,
      takeWhile_isNumeral (numerals other) otherEnds]
  constructor
  · exact tells value other sameForm
  · rw [sameForm] at same
    exact List.append_cancel_left same

theorem legible_natural (value : Nat) :
    Legible (fun number : Nat => (toString number).toList) value := by
  apply legible_of_numerals isNumeral_of_mem_natural
  intro left right same
  exact toString_natural_inj.mp (String.toList_inj.mp same)

theorem legible_integer (value : Int) :
    Legible (fun number : Int => (toString number).toList) value := by
  apply legible_of_numerals isNumeral_of_mem_integer
  intro left right same
  exact toString_integer_inj.mp (String.toList_inj.mp same)

/-- A whole text in a legible form tells the value. -/
theorem Legible.eq_of_form
    {Value : Type}
    {write : Value → List Char}
    {value other : Value}
    (legible : Legible write value)
    (same : write value = write other) :
    value = other := by
  have alone : write value ++ [] = write other ++ [] := by
    rw [same]
  exact (legible endsNumeral_nil endsNumeral_nil alone).1

/-- The written form of a pair: both forms, and some signs between them. -/
def writePair
    {First Second : Type}
    (writeFirst : First → List Char)
    (signs : List Char)
    (writeSecond : Second → List Char)
    (pair : First × Second) :
    List Char :=
  writeFirst pair.1 ++ (signs ++ writeSecond pair.2)

/-- A pair is legible if both parts are and the signs between them end a number. -/
theorem Legible.pair
    {First Second : Type}
    {writeFirst : First → List Char}
    {writeSecond : Second → List Char}
    {first : First}
    {second : Second}
    (firstLegible : Legible writeFirst first)
    {sign : Char}
    (ends : isNumeral sign = false)
    (signs : List Char)
    (secondLegible : Legible writeSecond second) :
    Legible (writePair writeFirst (sign :: signs) writeSecond) (first, second) := by
  rintro ⟨otherFirst, otherSecond⟩ rest otherRest restEnds otherRestEnds same
  simp only [writePair, List.append_assoc, List.cons_append] at same
  rcases firstLegible (endsNumeral_cons ends _) (endsNumeral_cons ends _) same with
    ⟨rfl, sameBehind⟩
  have cut := List.append_cancel_left (List.tail_eq_of_cons_eq sameBehind)
  rcases secondLegible restEnds otherRestEnds cut with ⟨rfl, sameRest⟩
  exact ⟨rfl, sameRest⟩

end SynthesisHoles.Text
