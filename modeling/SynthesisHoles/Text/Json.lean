/-!
# JSON texts

The values that the library writes as JSON, and their two written forms: compact, and indented by
two spaces a level. Strings escape the quote, the backslash and the controls below the space, and
hold every other character as it is.
-/

namespace SynthesisHoles.Text

/-- A JSON value with whole numbers. -/
inductive JsonValue
  | number (value : Int)
  | boolean (value : Bool)
  | string (value : String)
  | list (items : List JsonValue)
  | object (members : List (String × JsonValue))

/-- A number below sixteen as a hexadecimal digit, in lower case. -/
def hexadecimalDigit (number : Nat) : Char :=
  Nat.digitChar (number % 16)

/-- Written form of one character of a JSON string. -/
def jsonEscape (character : Char) : List Char :=
  if character = '"' ∨ character = '\\' then ['\\', character]
  else if character = '\x08' then ['\\', 'b']
  else if character = '\t' then ['\\', 't']
  else if character = '\n' then ['\\', 'n']
  else if character = '\x0c' then ['\\', 'f']
  else if character = '\r' then ['\\', 'r']
  else if character.toNat < 0x20 then
    ['\\', 'u', '0', '0',
      hexadecimalDigit (character.toNat / 16), hexadecimalDigit character.toNat]
  else [character]

/-- A string as a JSON string. -/
def jsonString (text : String) : String :=
  String.ofList ('"' :: text.toList.flatMap jsonEscape ++ ['"'])

namespace JsonValue

mutual

/-- Written form without spaces. -/
def compact : JsonValue → String
  | .number value => toString value
  | .boolean value => if value then "true" else "false"
  | .string value => jsonString value
  | .list items => "[" ++ String.intercalate "," (compactItems items) ++ "]"
  | .object members => "\x7b" ++ String.intercalate "," (compactMembers members) ++ "\x7d"

/-- Compact forms of the items of a list. -/
def compactItems : List JsonValue → List String
  | [] => []
  | item :: rest => item.compact :: compactItems rest

/-- Compact forms of the members of an object. -/
def compactMembers : List (String × JsonValue) → List String
  | [] => []
  | (name, value) :: rest => (jsonString name ++ ":" ++ value.compact) :: compactMembers rest

end

/-- Start of a line at a level of indentation. -/
def lineStart (level : Nat) : String :=
  "\n" ++ String.ofList (List.replicate (2 * level) ' ')

/-- Parts between brackets, each on a line of its own; nothing between the brackets of no part. -/
def enclose
    (opening closing : String)
    (level : Nat)
    (parts : List String) :
    String :=
  if parts.isEmpty then
    opening ++ closing
  else
    opening
      ++ String.intercalate "," (parts.map fun part => lineStart (level + 1) ++ part)
      ++ lineStart level
      ++ closing

mutual

/-- Written form indented by two spaces a level, starting at a level. -/
def indentedAt (level : Nat) : JsonValue → String
  | .number value => toString value
  | .boolean value => if value then "true" else "false"
  | .string value => jsonString value
  | .list items => enclose "[" "]" level (indentedItems (level + 1) items)
  | .object members => enclose "\x7b" "\x7d" level (indentedMembers (level + 1) members)

/-- Indented forms of the items of a list. -/
def indentedItems (level : Nat) : List JsonValue → List String
  | [] => []
  | item :: rest => item.indentedAt level :: indentedItems level rest

/-- Indented forms of the members of an object. -/
def indentedMembers (level : Nat) : List (String × JsonValue) → List String
  | [] => []
  | (name, value) :: rest =>
      (jsonString name ++ ": " ++ value.indentedAt level) :: indentedMembers level rest

end

/-- Written form indented by two spaces a level. -/
def indented (value : JsonValue) : String :=
  value.indentedAt 0

end JsonValue

end SynthesisHoles.Text
