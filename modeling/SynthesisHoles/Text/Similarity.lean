/-!
# Similar words

How close two words are, between zero and one: the mean of the shares of either word that has a
partner in the other and of the share of partners that stand in the same order. Partners are equal
characters that are not too far apart, taken from the left. The mean is computed in floating point, so
that words which are equally close in theory are told apart in a fixed way.
-/

namespace SynthesisHoles.Text

/-- How far apart partners may be in words of some lengths. -/
def partnerDistance (left right : Nat) : Nat :=
  max left right / 2 - 1

/-- First position of a character that is near a position and not taken, from a position on. -/
def findPartner
    (distance position : Nat)
    (taken : List Nat)
    (character : Char) :
    Nat → List Char → Option Nat
  | _, [] => none
  | candidate, other :: rest =>
      if position + distance < candidate then none
      else if position ≤ candidate + distance ∧ character = other ∧ candidate ∉ taken then
        some candidate
      else
        findPartner distance position taken character (candidate + 1) rest

/--
Characters of the first word that have a partner, and the positions of the partners, from a position
on and given the positions that are taken already.
-/
def findPartners
    (distance : Nat)
    (right : List Char) :
    Nat → List Char → List Nat → List Char × List Nat
  | _, [], taken => ([], taken)
  | position, character :: rest, taken =>
      match findPartner distance position taken character 0 right with
      | none => findPartners distance right (position + 1) rest taken
      | some candidate =>
          let (characters, all) :=
            findPartners distance right (position + 1) rest (candidate :: taken)
          (character :: characters, all)

/-- Characters of a word at the taken positions, in the order of the word. -/
def takenCharacters (word : List Char) (taken : List Nat) : List Char :=
  (word.zipIdx.filter fun entry => entry.2 ∈ taken).map Prod.fst

/-- Closeness of two words. -/
def similarity (left right : String) : Float :=
  let leftWord := left.toList
  let rightWord := right.toList
  if leftWord.isEmpty && rightWord.isEmpty then 1.0
  else
    let distance := partnerDistance leftWord.length rightWord.length
    let (characters, taken) := findPartners distance rightWord 0 leftWord []
    let partners := takenCharacters rightWord taken
    let misplaced := ((characters.zip partners).filter fun pair => pair.1 ≠ pair.2).length / 2
    let count := characters.length
    if count = 0 then 0.0
    else
      (count.toFloat / leftWord.length.toFloat + count.toFloat / rightWord.length.toFloat
        + (count - misplaced).toFloat / count.toFloat) / 3.0

/-- Least closeness at which a word is worth suggesting. -/
def suggestionThreshold : Float :=
  0.7

/-- The closest of the candidates that are worth suggesting; of equally close ones the last. -/
def suggestion?
    {Candidate : Type}
    (name : Candidate → String)
    (word : String)
    (candidates : List Candidate) :
    Option Candidate :=
  let closer (best : Option (Float × Candidate)) (candidate : Candidate) :=
    let closeness := similarity word (name candidate)
    if closeness > suggestionThreshold then
      match best with
      | none => some (closeness, candidate)
      | some (previous, _) => if closeness ≥ previous then some (closeness, candidate) else best
    else
      best
  (candidates.foldl closer none).map Prod.snd

end SynthesisHoles.Text
