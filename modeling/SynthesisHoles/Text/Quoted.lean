import SynthesisHoles.Text.Hidden

/-!
# Quoted characters and strings

A quoted text stands between two delimiters. Inside it the delimiter and the backslash are written
after a backslash, the four usual controls by a letter, and every hidden character by its number in
hexadecimal. Which characters are hidden is a parameter of the rule: the quoted form never holds a
line break of its own, whatever the choice.
-/

namespace SynthesisHoles.Text

/-- Digits of a number in base sixteen, in lower case. -/
def hexadecimal (number : Nat) : List Char :=
  Nat.toDigits 16 number

/-- Written form of one character between two delimiters. -/
def escapeCharacter
    (hidden : Char → Bool)
    (delimiter character : Char) :
    List Char :=
  if character = '\x00' then ['\\', '0']
  else if character = '\t' then ['\\', 't']
  else if character = '\n' then ['\\', 'n']
  else if character = '\r' then ['\\', 'r']
  else if character = '\\' ∨ character = delimiter then ['\\', character]
  else if hidden character then
    ['\\', 'u', '\x7b'] ++ hexadecimal character.toNat ++ ['\x7d']
  else [character]

/-- A text between two delimiters. -/
def quoteWith
    (hidden : Char → Bool)
    (delimiter : Char)
    (text : List Char) :
    List Char :=
  delimiter :: text.flatMap (escapeCharacter hidden delimiter) ++ [delimiter]

/-- A character between single quotes. -/
def quoteCharacter (character : Char) : String :=
  String.ofList (quoteWith isHidden '\'' [character])

/-- A string between double quotes. -/
def quoteString (text : String) : String :=
  String.ofList (quoteWith isHidden '"' text.toList)

end SynthesisHoles.Text
