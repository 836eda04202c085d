/-
# Dice from random words

The specification (section 4.3) wants a uniform number in an inclusive range from a generator of
random words, and leaves to the library how it is made. The library multiplies: a random word `w`
picks a face of a die with `sides` sides by the high half of the product `w * sides`. The words
would not divide evenly among the faces, so a word whose low half lies above a limit is thrown away
and the next one is drawn. The limit, `zone`, leaves every face the same number of words.

The words are a list here with zeros behind it for ever, and the number of words drawn is counted.
No bound on the number of rejected words follows from the rule, but the word zero is accepted
whatever the sides (`face?_zero`), so `drawFace` can go by recursion on the words that are left and
needs no fuel.

* `Proofs/Dice/Fair.lean`: an accepted word gives a face, and every face has the same number of
  words.
* `Proofs/Dice/Draws.lean`: which words the dice of a query draw, and how many.

How a generator comes to its words, and how likely each of them is, is no part of this.
-/
import DiceRoller.Dice.Source

namespace DiceRoller

/-! ## 1. The face of a word -/

/-- The number of values of a word. -/
def wordCount : Nat := UInt64.size

/-- The zero bits in front of the highest one bit of a positive word. -/
def leadingZeros (n : UInt64) : Nat := 63 - n.toNat.log2

/-- The greatest low half that is accepted: the sides, shifted until they fill a word, less one. -/
def zone (sides : UInt64) : Nat := (sides.toNat <<< leadingZeros sides) % wordCount - 1

/-- The face that a word gives, if the word is accepted. -/
def face? (sides word : UInt64) : Option UInt64 :=
  let product := word.toNat * sides.toNat
  if product % wordCount ≤ zone sides then some (.ofNat (1 + product / wordCount)) else none

/-! ## 2. The source -/

/-- The words not yet drawn, with zeros after them for ever, and how many were drawn so far. -/
structure Words where
  left : List UInt64
  drawn : Nat
deriving Repr, DecidableEq

/-- The face of the first accepted word. The word zero, which follows the last one, is accepted for
every number of sides and gives the face one. -/
def drawFace (sides : UInt64) : List UInt64 → Nat → UInt64 × Words
  | [], drawn => (1, ⟨[], drawn + 1⟩)
  | word :: rest, drawn =>
    match face? sides word with
    | some face => (face, ⟨rest, drawn + 1⟩)
    | none => drawFace sides rest (drawn + 1)

/-- The zeros at the end need no look at the sides. -/
theorem face?_zero (sides : UInt64) : face? sides 0 = some 1 := by
  simp [face?, wordCount]

/-- The source of random words. -/
def wordDice : DiceSource Words where
  throw sides w := drawFace sides w.left w.drawn

/-- Words of which none is drawn yet. -/
def Words.ofList (words : List UInt64) : Words := ⟨words, 0⟩

end DiceRoller
