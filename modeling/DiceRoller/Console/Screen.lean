/-
# The screen

Whatever a line of input leads to is shown in lines of two kinds, on the standard output and on the
standard error output (section 6 of the specification). The two are kept apart and each in order;
how they are mixed on a terminal is not described. A terminal obeys the control sequences in them,
which set colours or move the cursor, so these are printed but not seen.

`Screen.seen` is what is left of a screen without them. A control sequence is the escape character,
an opening bracket, parameters, and a character that ends it; anything else behind an escape
character is taken as text. A sequence does not reach beyond its line.

Screens are put one after the other by `Screen.append`. That what is seen of two screens is what is
seen of each, and that a line without the escape character is seen as it is, is proved in
`Proofs/Console/Screen.lean`.
-/
import DiceRoller.Text.Lines

namespace DiceRoller

/-! ## 1. Lines shown -/

/-- Lines on the standard output and on the standard error output. -/
structure Screen where
  out : List String
  err : List String
deriving Repr, DecidableEq

/-- One screen after the other. -/
def Screen.append (a b : Screen) : Screen := ⟨a.out ++ b.out, a.err ++ b.err⟩

/-- Nothing shown. -/
def Screen.empty : Screen := ⟨[], []⟩

/-- A text on the standard output. -/
def Screen.ofOut (text : String) : Screen := ⟨Text.printedLines text, []⟩

/-- A text on the standard error output. -/
def Screen.ofErr (text : String) : Screen := ⟨[], Text.printedLines text⟩

/-! ## 2. Control sequences -/

/-- A character of the parameters of a control sequence: a digit or a sign that separates them. -/
def isParameter (c : Char) : Bool := 0x30 ≤ c.toNat && c.toNat ≤ 0x3F

/-- A character that ends a control sequence. -/
def isSequenceEnd (c : Char) : Bool := 0x40 ≤ c.toNat && c.toNat ≤ 0x7E

/-- How many characters the control sequence has that a text begins with: the escape character, an
opening bracket, parameters, and the character that ends it. -/
def sequenceLength? : List Char → Option Nat
  | '\x1b' :: '[' :: rest =>
    let parameters := (rest.takeWhile isParameter).length
    match rest[parameters]? with
    | some c => if isSequenceEnd c then some (parameters + 3) else none
    | none => none
  | _ => none

/-- The characters that are seen of a text whose first `hidden` characters are not. -/
def seenAfter : Nat → List Char → List Char
  | _, [] => []
  | hidden + 1, _ :: rest => seenAfter hidden rest
  | 0, c :: rest =>
    match sequenceLength? (c :: rest) with
    | some (n + 1) => seenAfter n rest
    | _ => c :: seenAfter 0 rest

/-- A line as it is seen. -/
def seenLine (line : String) : String := String.ofList (seenAfter 0 line.toList)

/-- The lines as they are seen. -/
def Screen.seen (screen : Screen) : Screen := ⟨screen.out.map seenLine, screen.err.map seenLine⟩

end DiceRoller
