/-!
# Ordinal numbers

English ordinals in digits: `1st`, `2nd`, `3rd`, `4th`, with `11th`, `12th` and `13th` for the
teens of every hundred.
-/

namespace SynthesisHoles.Text

/-- Ending of the ordinal of a number. -/
def ordinalEnding (number : Nat) : String :=
  if number % 100 = 11 ∨ number % 100 = 12 ∨ number % 100 = 13 then "th"
  else
    match number % 10 with
    | 1 => "st"
    | 2 => "nd"
    | 3 => "rd"
    | _ => "th"

/-- A number as an ordinal. -/
def ordinal (number : Nat) : String :=
  toString number ++ ordinalEnding number

end SynthesisHoles.Text
