/-
# Why a roll fails

Four things can go wrong with a roll, and each error keeps the text or the number that caused it.
These are the errors of the specification (section 7), with its messages. Two of the messages do not
show what the error keeps: too many dice and too many sides are told in fixed words.

The limits stand here, since one of the messages names its limit (`maxThrows`). The first error is
one of reading, the next two are found before any die is thrown, and the last one after the throws.

* `Proofs/DiceSet/ClosedForm.lean`: when a text is malformed.
* `Proofs/Evaluate/Effects.lean`: in which order the limits are checked, and what an error leaves
  behind.
* `Proofs/Evaluate/Totals.lean`, `Proofs/Evaluate/Subtraction.lean`: when a magnitude is refused.
-/
import DiceRoller.Text.Decimal

namespace DiceRoller

/-- The most dice thrown at once. -/
def maxThrows : UInt64 := 100

/-- The most sides a die may have. -/
def maxSides : UInt64 := 1000000

/-- Why a dice set was not rolled. -/
inductive RollError where
  /-- The text holds no dice set. -/
  | malformed (text : String)
  | tooManyThrows (count : UInt64)
  | tooManySides (sides : UInt64)
  /-- The magnitude of the modifier, or the sum it is applied to, leaves the signed words. -/
  | overflow (magnitude : UInt64)
deriving Repr, DecidableEq

/-- The error as it is shown. -/
def RollError.message : RollError → String
  | .malformed text => "Invalid dice set received: " ++ text
  | .tooManyThrows _ => "Too many throws, try a number between 1 and " ++ Text.numeral maxThrows
  | .tooManySides _ => "You're crazy, I'm not going to do that."
  | .overflow n => "Modifier " ++ Text.numeral n ++ " is too large to apply"

end DiceRoller
