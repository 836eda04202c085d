/-
# Queries

A query is the text of a roll without the blanks around it. When it is blank, a default takes its
place. The dice set that is evaluated is read from the query's own text. This is the Solver of the
specification (section 4.3).

That there are no blanks at its ends is part of the type, so a query can only be made by trimming
and need not be trimmed again. The default replaces a query that is empty, and no other: a text that
holds no dice set but is not blank is kept, and its error quotes it. Defaults can follow one
another, and the first text that is not blank stands.

* `Proofs/Chat/Defaults.lean`: trimming and defaults do not change what is rolled.
* `Proofs/Dice/Draws.lean`: what every query makes of random words.

A query without a dice set leaves an empty log here. The event in which the parser accounts for it
on demand is left out, since it quotes the words of the parsing library (`Event.lean`).
-/
import DiceRoller.DiceSet.Parse
import DiceRoller.Evaluate
import DiceRoller.Text.Blank

namespace DiceRoller

/-- A text to be rolled, with no blanks at either end. -/
structure Query where
  text : String
  trimmed : Text.trim text = text

/-- The query of a text. -/
def Query.ofText (text : String) : Query := ⟨Text.trim text, Text.trim_trim text⟩

/-- The query itself, or that of the default text when nothing is in it. -/
def Query.orDefault (q : Query) (default : String) : Query :=
  if q.text.isEmpty then .ofText default else q

/-- The dice set that the query asks for. -/
def Query.expression (q : Query) : Except RollError Expression := DiceSet.parse q.text

/-- Rolls the query with dice from a source. Nothing is logged where there is no dice set; the
parser's own account of it is left out. -/
def Query.solve {σ : Type} (source : DiceSource σ) (q : Query) (s : σ) :
    Run σ (Except RollError Outcome) :=
  match q.expression with
  | .error reason => ⟨.error reason, s, []⟩
  | .ok e => e.evaluate source s

end DiceRoller
