/-
# Outcomes

What came out of a roll: the number on each die, how the dice were read, and the total. This is the
`Outcome` of the specification (section 3), with its total either a sum, which is a signed word, or
a percentage, which is a word.

The line that shows an outcome is a function of it here (`Outcome.text`). For this the outcome keeps
how its dice were read (`Reading`): as the digits of a percentage, as a plain sum, or as a sum with
a magnitude. Everything else in the line follows from the numbers. A percentage that is thrown with
one die is its own line, without an equals sign; every other line ends with the total behind one.

The type allows outcomes that no roll comes to, such as a percentage without dice.
`Outcome.Coherent` in `Proofs/Evaluate/Line.lean` is what holds of all that do come up, and no two
such outcomes are shown alike (`Outcome.text_inj`).
-/
import DiceRoller.Text.Decimal

namespace DiceRoller

/-- The result that a roll comes to. -/
inductive Total where
  | sum (value : Int64)
  | percent (value : UInt64)
deriving DecidableEq

/-- A total as it is shown, a percentage with its sign. -/
def Total.text : Total → String
  | .sum n => Text.signedNumeral n
  | .percent n => Text.numeral n ++ "%"

/-- How the dice of a roll were read. -/
inductive Reading where
  /-- As the digits of a percentage. -/
  | percentile
  /-- As a sum. -/
  | plain
  /-- As a sum to which a magnitude is added. -/
  | plus (magnitude : UInt64)
  /-- As a sum from which a magnitude is taken away. -/
  | minus (magnitude : UInt64)
deriving DecidableEq

/-- A roll that succeeded. -/
structure Outcome where
  /-- The numbers thrown, in order. -/
  rolls : List UInt64
  reading : Reading
  total : Total
deriving DecidableEq

/-- The numbers thrown, with plus signs between them. -/
def joinRolls (rolls : List UInt64) : String :=
  "+".intercalate (rolls.map Text.numeral)

/-- The outcome as it is shown: the way to the total and the total. A percentage thrown with one die
needs no way. -/
def Outcome.text (o : Outcome) : String :=
  match o.reading, o.rolls with
  | .percentile, [_] => o.total.text
  | .percentile, rolls => joinRolls rolls ++ "= " ++ o.total.text
  | .plain, rolls => joinRolls rolls ++ "= " ++ o.total.text
  | .plus n, rolls => "(" ++ joinRolls rolls ++ ")+" ++ Text.numeral n ++ "= " ++ o.total.text
  | .minus n, rolls => "(" ++ joinRolls rolls ++ ")-" ++ Text.numeral n ++ "= " ++ o.total.text

end DiceRoller
