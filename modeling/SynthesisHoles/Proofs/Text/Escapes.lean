import SynthesisHoles.Proofs.Text.Numerals
import SynthesisHoles.Text.Json

/-!
# Reading escaped characters back

An escaped character starts with a backslash and says behind it what it is: by a letter, or by its number. All
other characters stand for themselves. Here one such character is read from the front of a text, once as it
is written in JSON strings and once as it is written between quotes for printing. The rest of the text comes
back unread, so that strings of escaped characters can be read one by one up to the closing quote.

Which characters are printed by their numbers is a parameter of quoted texts, and of what is said about them.
-/

namespace SynthesisHoles.Text

/-! ## Characters of JSON strings -/

/-- What a character behind a backslash stands for in a JSON string, if it is not the mark of a number. -/
def jsonLetter : Char → Char
  | 'b' => '\x08'
  | 't' => '\t'
  | 'n' => '\n'
  | 'f' => '\x0c'
  | 'r' => '\r'
  | character => character

/-- The first character of the inside of a JSON string, and the rest. The upper half of a number is zero. -/
def readJsonCharacter : List Char → Option (Char × List Char)
  | [] => none
  | '\\' :: 'u' :: _ :: _ :: high :: low :: rest =>
      some (Char.ofNat (16 * digitValue high + digitValue low), rest)
  | '\\' :: letter :: rest => some (jsonLetter letter, rest)
  | character :: rest => some (character, rest)

theorem readJsonCharacter_of_plain
    {character : Char}
    (plain : character ≠ '\\')
    (rest : List Char) :
    readJsonCharacter (character :: rest) = some (character, rest) := by
  rw [readJsonCharacter.eq_def]
  split <;> simp_all

/-- Whatever stands behind it, a character is read back from the way in which it is written. -/
theorem readJsonCharacter_jsonEscape (character : Char) (rest : List Char) :
    readJsonCharacter (jsonEscape character ++ rest) = some (character, rest) := by
  rw [jsonEscape]
  split
  next special =>
    rcases special with rfl | rfl
    · rfl
    · rfl
  next ordinary =>
    split
    next same => rw [same]; rfl
    split
    next same => rw [same]; rfl
    split
    next same => rw [same]; rfl
    split
    next same => rw [same]; rfl
    split
    next same => rw [same]; rfl
    split
    next control =>
      have high :
          digitValue (hexadecimalDigit (character.toNat / 16)) = character.toNat / 16 := by
        rw [hexadecimalDigit, Nat.mod_eq_of_lt (by omega), digitValue_digitChar (by omega)]
      have low : digitValue (hexadecimalDigit character.toNat) = character.toNat % 16 := by
        rw [hexadecimalDigit, digitValue_digitChar (by omega)]
      simp only [List.cons_append, readJsonCharacter, high, low, Nat.div_add_mod,
        Char.ofNat_toNat, List.nil_append]
    next =>
      rw [not_or] at ordinary
      exact readJsonCharacter_of_plain ordinary.2 rest

/-- No character of a string is written like the closing quote. -/
theorem quote_ne_jsonEscape (character : Char) (rest behind : List Char) :
    '"' :: rest ≠ jsonEscape character ++ behind := by
  intro same
  have read := readJsonCharacter_jsonEscape character behind
  rw [← same, readJsonCharacter_of_plain (by decide)] at read
  cases read
  simp [jsonEscape] at same

/-! ## Characters between quotes -/

/-- What a character behind a backslash stands for between quotes, if it is not the mark of a number. -/
def quotedLetter : Char → Char
  | '0' => '\x00'
  | 't' => '\t'
  | 'n' => '\n'
  | 'r' => '\r'
  | character => character

/-- The first character of the inside of a quoted text, and the rest. A number ends at a closing brace. -/
def readQuotedCharacter : List Char → Option (Char × List Char)
  | [] => none
  | '\\' :: 'u' :: _ :: rest =>
      some
        (Char.ofNat (numberOf 16 (rest.takeWhile (· ≠ '\x7d'))),
          (rest.dropWhile (· ≠ '\x7d')).tail)
  | '\\' :: letter :: rest => some (quotedLetter letter, rest)
  | character :: rest => some (character, rest)

theorem readQuotedCharacter_of_plain
    {character : Char}
    (plain : character ≠ '\\')
    (rest : List Char) :
    readQuotedCharacter (character :: rest) = some (character, rest) := by
  rw [readQuotedCharacter.eq_def]
  split <;> simp_all

/-- The digits of a number are digits. -/
theorem exists_digitChar_of_mem_toDigits
    {base : Nat}
    (proper : 1 < base)
    (number : Nat) :
    ∀ character ∈ base.toDigits number, ∃ digit, character = Nat.digitChar digit := by
  induction number using Nat.strongRecOn with
  | _ number hypothesis =>
      intro character member
      rw [Nat.toDigits_eq_if proper] at member
      split at member
      next => exact ⟨number, List.mem_singleton.mp member⟩
      next above =>
        rcases List.mem_append.mp member with front | last
        · exact hypothesis (number / base) (Nat.div_lt_self (by omega) proper) character front
        · exact ⟨number % base, List.mem_singleton.mp last⟩

theorem not_mem_hexadecimal
    {character : Char}
    (noDigit : ∀ digit, Nat.digitChar digit ≠ character)
    (number : Nat) :
    character ∉ hexadecimal number := by
  intro member
  rcases exists_digitChar_of_mem_toDigits (by decide) number character member with ⟨digit, same⟩
  exact noDigit digit same.symm

/-- A hexadecimal number that is closed by a brace is read up to the brace. -/
theorem readQuotedCharacter_number (number : Nat) (rest : List Char) :
    readQuotedCharacter ('\\' :: 'u' :: '\x7b' :: (hexadecimal number ++ '\x7d' :: rest)) =
      some (Char.ofNat number, rest) := by
  have inside : ∀ character ∈ hexadecimal number, (decide (character ≠ '\x7d')) = true := by
    intro character member
    rw [decide_eq_true_iff]
    rintro rfl
    exact not_mem_hexadecimal (fun _ => Nat.digitChar_ne _ rfl) number member
  rw [readQuotedCharacter, List.takeWhile_append_of_pos inside, List.dropWhile_append_of_pos inside]
  simp [hexadecimal, numberOf_toDigits]

/-- Whatever stands behind it, a character is read back from the way in which it is quoted. -/
theorem readQuotedCharacter_escapeCharacter
    (hidden : Char → Bool)
    (character : Char)
    (rest : List Char) :
    readQuotedCharacter (escapeCharacter hidden '\'' character ++ rest) =
      some (character, rest) := by
  rw [escapeCharacter]
  split
  next same => rw [same]; rfl
  split
  next same => rw [same]; rfl
  split
  next same => rw [same]; rfl
  split
  next same => rw [same]; rfl
  split
  next special =>
    rcases special with rfl | rfl
    · rfl
    · rfl
  next ordinary =>
    split
    next =>
      rw [List.append_assoc, List.append_assoc]
      refine (readQuotedCharacter_number character.toNat rest).trans ?_
      rw [Char.ofNat_toNat]
    next =>
      rw [not_or] at ordinary
      exact readQuotedCharacter_of_plain ordinary.1 rest

/-- No character is quoted like the closing quote. -/
theorem quote_ne_escapeCharacter
    (hidden : Char → Bool)
    (character : Char)
    (rest behind : List Char) :
    '\'' :: rest ≠ escapeCharacter hidden '\'' character ++ behind := by
  intro same
  have read := readQuotedCharacter_escapeCharacter hidden character behind
  rw [← same, readQuotedCharacter_of_plain (by decide)] at read
  cases read
  simp [escapeCharacter] at same

/-- A quoted character holds no line break, whichever characters are hidden. -/
theorem lineBreak_not_mem_escapeCharacter
    (hidden : Char → Bool)
    (character : Char) :
    '\n' ∉ escapeCharacter hidden '\'' character := by
  rw [escapeCharacter]
  split
  next => decide
  split
  next => decide
  split
  next => decide
  next noBreak =>
    split
    next => decide
    split
    next special =>
      rcases special with rfl | rfl
      · decide
      · decide
    split
    next =>
      have noDigit := not_mem_hexadecimal (fun _ => Nat.digitChar_ne '\n' rfl) character.toNat
      simp [noDigit]
    next =>
      rw [List.mem_singleton]
      exact Ne.symm noBreak

/-! ## Strings of escaped characters -/

/--
Strings of characters that are read back one by one up to a closing sign are told apart from what stands
behind the sign.
-/
theorem flatMap_append_inj
    {write : Char → List Char}
    {read : List Char → Option (Char × List Char)}
    {closing : Char}
    (reads : ∀ character rest, read (write character ++ rest) = some (character, rest))
    (closes : ∀ character rest behind, closing :: rest ≠ write character ++ behind)
    {left right rest otherRest : List Char}
    (same : left.flatMap write ++ closing :: rest = right.flatMap write ++ closing :: otherRest) :
    left = right ∧ rest = otherRest := by
  induction left generalizing right with
  | nil =>
      cases right with
      | nil => exact ⟨rfl, List.tail_eq_of_cons_eq same⟩
      | cons first others =>
          rw [List.flatMap_cons, List.append_assoc] at same
          exact absurd same (closes first rest _)
  | cons first others hypothesis =>
      cases right with
      | nil =>
          rw [List.flatMap_cons, List.append_assoc] at same
          exact absurd same.symm (closes first otherRest _)
      | cons otherFirst otherOthers =>
          rw [List.flatMap_cons, List.flatMap_cons, List.append_assoc, List.append_assoc] at same
          have read := reads first (others.flatMap write ++ closing :: rest)
          rw [same, reads, Option.some_inj, Prod.mk.injEq] at read
          rcases read with ⟨rfl, sameOthers⟩
          rcases hypothesis sameOthers.symm with ⟨rfl, sameRest⟩
          exact ⟨rfl, sameRest⟩

/-- A JSON string closes itself, so it is legible. -/
theorem legible_jsonString (text : String) :
    Legible (fun text : String => (jsonString text).toList) text := by
  intro other rest otherRest _ _ same
  simp only [jsonString, String.toList_ofList, List.cons_append, List.append_assoc, List.nil_append,
    List.cons.injEq, true_and] at same
  rcases flatMap_append_inj readJsonCharacter_jsonEscape quote_ne_jsonEscape same with
    ⟨sameText, sameRest⟩
  exact ⟨String.toList_inj.mp sameText, sameRest⟩

/-- So is a quoted text. -/
theorem legible_quoteWith
    (hidden : Char → Bool)
    (text : List Char) :
    Legible (quoteWith hidden '\'') text := by
  intro other rest otherRest _ _ same
  simp only [quoteWith, List.cons_append, List.append_assoc, List.nil_append, List.cons.injEq,
    true_and] at same
  exact
    flatMap_append_inj (readQuotedCharacter_escapeCharacter hidden)
      (quote_ne_escapeCharacter hidden) same

end SynthesisHoles.Text
