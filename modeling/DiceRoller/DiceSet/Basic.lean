/-
# Dice sets

A dice set such as `3d6+2` says how many dice are thrown, how many sides they have and what is done
with the sum. Each part may be missing, and a missing part is not the same as a written zero: the
set keeps what was written, and the rules that fill the gaps belong to the evaluation. This is the
`Expression` of the specification (section 3).

The type of the numbers is a parameter. A dice set in a text has runs of digits (`Spelling`), one
that is evaluated has words (`Expression`), and the exact rules in `Proofs/Evaluate/Exact.lean` have
natural numbers. `DiceSet.map` goes from the one to the other, so nothing but the numbers can change
on the way.

`DiceSet.text` writes a dice set in its shortest notation, with a small `d` and no superfluous
zeros. Reading is in `DiceSet/Parse.lean`. That reading undoes writing, on its own and inside other
text, is `Proofs/DiceSet/RoundTrip.lean`, and which texts are written at all is
`Proofs/DiceSet/Canonical.lean`.
-/
import DiceRoller.Text.Decimal

namespace DiceRoller

/-! ## 1. The notation -/

/-- What is done with the dice after they are thrown. The numbers are of type `ν`. -/
inductive Modifier (ν : Type) where
  /-- The dice are added up. -/
  | plain
  /-- The dice are read as a percentage where their shape allows it, and added up elsewhere. -/
  | percent
  | add (magnitude : ν)
  | subtract (magnitude : ν)
deriving Repr, DecidableEq

/-- A dice set whose numbers are of type `ν`. -/
structure DiceSet (ν : Type) where
  count : Option ν
  sides : Option ν
  modifier : Modifier ν
deriving Repr, DecidableEq

/-- A dice set whose numbers are words, ready to be evaluated. -/
abbrev Expression := DiceSet UInt64

/-- Applies a function to the number of a modifier. -/
def Modifier.map {ν μ : Type} (f : ν → μ) : Modifier ν → Modifier μ
  | .plain => .plain
  | .percent => .percent
  | .add n => .add (f n)
  | .subtract n => .subtract (f n)

/-- Applies a function to every number of a dice set. -/
def DiceSet.map {ν μ : Type} (f : ν → μ) (e : DiceSet ν) : DiceSet μ where
  count := e.count.map f
  sides := e.sides.map f
  modifier := e.modifier.map f

/-! ## 2. Writing -/

/-- A modifier as it stands at the end of a dice set. -/
def Modifier.text : Modifier UInt64 → String
  | .plain => ""
  | .percent => "%"
  | .add n => "+" ++ Text.numeral n
  | .subtract n => "-" ++ Text.numeral n

/-- A number that may be missing. -/
def numeralOrNothing : Option UInt64 → String
  | none => ""
  | some n => Text.numeral n

/-- A dice set in its shortest notation, with a small `d`. -/
def DiceSet.text (e : Expression) : String :=
  numeralOrNothing e.count ++ "d" ++ numeralOrNothing e.sides ++ e.modifier.text

end DiceRoller
