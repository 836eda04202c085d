/-
# Reading dice sets

The dice set of a text is the leftmost one in it, with every number read as a word. A text fails to
give one only if it holds none: a number of any length is read. This is the `parse` of the
specification (section 4.1), in two steps: the search of `DiceSet/Search.lean` finds the characters
of the dice set, and `Text.saturated` turns its runs of digits into words. A run that is too long
for a word becomes the greatest one, so that it is a limit that refuses it later and not the parser.

The only error is that of the whole text, which it quotes. No default is filled in here.

* `Proofs/DiceSet/ClosedForm.lean`: what is read, from the first separator alone.
* `Proofs/Grammar/Command.lean`: the grammar of commands reads the same dice set.
* `Proofs/Evaluate/Saturation.lean`: nobody can tell that long numbers are cut off.

The event with which a parser tells why a text holds no dice set is left out, as `Event.lean` says.
-/
import DiceRoller.DiceSet.Search
import DiceRoller.RollError

namespace DiceRoller

/-- The leftmost dice set of a text. -/
def DiceSet.parse (text : String) : Except RollError Expression :=
  match search text.toList with
  | some found => .ok (found.spelling.map Text.saturated)
  | none => .error (.malformed text)

end DiceRoller
