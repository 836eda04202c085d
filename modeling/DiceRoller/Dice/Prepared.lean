/-
# Prepared dice

A source whose numbers are laid out in advance. It notes the sides of every die it is asked for, and
once its numbers are used up every die shows its highest face. Whoever tests the rules rolls with
such dice (section 10 of the specification); here they are a source like any other, so whatever is
proved of all sources is true of them.

A prepared number is answered whatever the sides are, also when it is no face of the die. So
statements that need faces have a hypothesis that these dice may fail, and statements without one
cover this case too. The note of the sides is what makes throws visible:
`Proofs/Chat/Conservation.lean` follows it through a conversation, and `throwEach_preparedDice`
there says which number each die finds.
-/
import DiceRoller.Dice.Source

namespace DiceRoller

/-- The numbers not yet used, and the sides asked for so far, oldest first. -/
structure Prepared where
  left : List UInt64
  asked : List UInt64
deriving Repr, DecidableEq

/-- The next number laid out, whatever the sides, and the highest face after the last one. -/
def Prepared.throw (sides : UInt64) (p : Prepared) : UInt64 × Prepared :=
  match p.left with
  | [] => (sides, ⟨[], p.asked ++ [sides]⟩)
  | n :: rest => (n, ⟨rest, p.asked ++ [sides]⟩)

/-- The source of prepared numbers. -/
def preparedDice : DiceSource Prepared where
  throw := Prepared.throw

/-- Numbers laid out before any die is thrown. -/
def Prepared.ofList (numbers : List UInt64) : Prepared := ⟨numbers, []⟩

end DiceRoller
