/-
# Finding a dice set in a text

A dice set may stand anywhere in a text, with anything before and after it (section 4.1 of the
specification). The search takes the leftmost position at which one can be read, and each run of
digits there in full.

`spellingAt?` is the rule for one position: digits or none, a separator of either case, digits or
none, and a modifier if there is one. A sign without digits is no modifier, and the dice set then
ends before it. `searchFrom` goes through the positions.

The search may skip a whole run of digits at once. If no dice set begins at the first digit of a
run, what follows the run is no separator, so none begins at a later digit of the run either.
Without this, a long run of digits that leads nowhere would be read again from each of its digits.
The recursion is on the length of what is left.

`Proofs/DiceSet/Leftmost.lean` proves that the search finds the leftmost dice set, steps over runs
included. The grammar that the specification gives for the notation is not run here;
`Proofs/Grammar/Command.lean` proves that it comes to the same.
-/
import DiceRoller.DiceSet.Basic

namespace DiceRoller

/-! ## 1. A dice set at the start of a text -/

/-- A dice set as it stands in a text: its numbers are runs of digits that are not yet read. -/
abbrev Spelling := DiceSet (List Char)

/-- The run of digits at the start of a text, if there is one. -/
def digitRun? (s : List Char) : Option (List Char) :=
  match s.takeWhile Char.isDigit with
  | [] => none
  | ds => some ds

/-- The letter between the count and the sides. -/
def isSeparator (c : Char) : Bool := c == 'd' || c == 'D'

/-- The modifier at the start of a text. A sign without digits after it is none. -/
def modifierAt : List Char → Modifier (List Char)
  | '%' :: _ => .percent
  | '+' :: rest => (digitRun? rest).elim .plain .add
  | '-' :: rest => (digitRun? rest).elim .plain .subtract
  | _ => .plain

/-- The dice set that begins at the start of a text. -/
def spellingAt? (s : List Char) : Option Spelling :=
  match s.dropWhile Char.isDigit with
  | [] => none
  | c :: rest =>
    if isSeparator c then
      some ⟨digitRun? s, digitRun? rest, modifierAt (rest.dropWhile Char.isDigit)⟩
    else none

/-! ## 2. The search -/

/-- A dice set and the number of characters in front of it. -/
structure Found where
  start : Nat
  spelling : Spelling
deriving Repr, DecidableEq

/-- The leftmost dice set of a text that begins after `start` characters of a longer one. -/
def searchFrom (start : Nat) (s : List Char) : Option Found :=
  match spellingAt? s with
  | some d => some ⟨start, d⟩
  | none =>
    match s with
    | [] => none
    | c :: rest =>
      if c.isDigit then
        let run := rest.takeWhile Char.isDigit
        searchFrom (start + 1 + run.length) (rest.dropWhile Char.isDigit)
      else searchFrom (start + 1) rest
termination_by s.length
decreasing_by
  · have := (List.dropWhile_suffix (l := rest) Char.isDigit).length_le
    simp only [List.length_cons]; omega
  · simp

/-- The leftmost dice set of a text. -/
def search (s : List Char) : Option Found := searchFrom 0 s

end DiceRoller
