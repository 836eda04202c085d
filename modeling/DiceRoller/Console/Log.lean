/-
# The log at the console

The specification (section 8) has the events logged to the standard error output, down to the level
`DEBUG` on demand and `INFO` otherwise. The log goes to a terminal, and a terminal obeys certain
characters. Where they occur in an event, they are written out, so that a nick or a remembered line
cannot colour or erase what else is shown.

An event is shown with the name of its level in front of it and without the time
(`Event.loggedLines`). A line feed in it is not written out, so one event may take several lines.
The level itself holds no such character and stands as it is.

`loggedChar_of_harmless` says that all other characters stay as they are, and
`Proofs/Console/Screen.lean` that the log is seen as it is printed: no line of it holds the escape
character. What the libraries log by themselves is not part of it.
-/
import DiceRoller.Event
import DiceRoller.Options.Basic
import DiceRoller.Text.Lines

namespace DiceRoller

/-! ## 1. Characters written out -/

/-- A number in hexadecimal digits, at least two of them. -/
def hexNumeral (n : Nat) : List Char :=
  if n < 16 then '0' :: Nat.toDigits 16 n else Nat.toDigits 16 n

/-- The bell, the backspace, the form feed, the escape and the delete character. -/
def isTerminalControl (c : Char) : Bool :=
  c == '\x07' || c == '\x08' || c == '\x0c' || c == '\x1b' || c == '\x7f'

/-- The control characters from U+0080 to U+009F. -/
def isHighControl (c : Char) : Bool := 0x80 ≤ c.toNat && c.toNat ≤ 0x9F

/-- A character as the log shows it. -/
def loggedChar (c : Char) : List Char :=
  if isTerminalControl c then '\\' :: 'x' :: hexNumeral c.toNat
  else if isHighControl c then '\\' :: 'u' :: '\x7b' :: (hexNumeral c.toNat ++ ['\x7d'])
  else [c]

/-- All other characters are shown as they are. -/
theorem loggedChar_of_harmless {c : Char} (h : isTerminalControl c = false)
    (hc : isHighControl c = false) : loggedChar c = [c] := by
  simp [loggedChar, h, hc]

/-- A text as the log shows it. -/
def loggedText (text : String) : String := String.ofList (text.toList.flatMap loggedChar)

/-! ## 2. Events -/

/-- The event is shown, either always or because it is asked for. -/
def Options.shows (o : Options) (e : Event) : Bool := o.debug || e.level != .debug

/-- The lines that an event takes on the screen. -/
def Event.loggedLines (e : Event) : List String :=
  Text.printedLines (e.level.text ++ " " ++ loggedText e.message)

/-- The lines that the events take on the screen, without those that are not shown. -/
def Options.loggedLines (o : Options) (log : List Event) : List String :=
  (log.filter o.shows).flatMap Event.loggedLines

end DiceRoller
