/-!
# Ranges of code points

A property of characters is stored as the ascending list of the closed ranges of code points that
have it.
-/

namespace SynthesisHoles.Text

/-- Closed ranges of code points, in ascending order. -/
abbrev CodeRanges := List (Nat × Nat)

/-- Whether some range contains the code point of the character. -/
def CodeRanges.covers (ranges : CodeRanges) (character : Char) : Bool :=
  ranges.any fun range => range.1 ≤ character.toNat && character.toNat ≤ range.2

theorem CodeRanges.covers_iff
    (ranges : CodeRanges)
    (character : Char) :
    ranges.covers character = true ↔
      ∃ range ∈ ranges, range.1 ≤ character.toNat ∧ character.toNat ≤ range.2 := by
  simp [CodeRanges.covers]

end SynthesisHoles.Text
