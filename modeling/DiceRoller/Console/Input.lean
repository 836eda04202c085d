/-
# Input

What is typed at the console reaches the program as lines. From a file or another program come
bytes: backspaces among them are carried out, and the first line that is not text ends the input.
From a terminal come keys: Enter ends a line, and two control keys end the session.

Both ways give the same thing (`Input`): the lines, what is typed on the line that the input ends
in, and how it ends. A session is then a function of its input, whichever way it came. The last line
of a file needs no line break, while a line at the terminal without Enter is none; it is kept apart
since the prompt shows it.

`Proofs/Console/Piped.lean` says what lines encoded text makes, also in front of bytes that are no
text. Of the keys only those are described that type a character or end a line or the session:
moving the cursor, the history keys and the key for completion are left out, and what completion
does with a line is in `Console/Prompt.lean`.
-/
import DiceRoller.Console.Backspace
import DiceRoller.Text.Lines

namespace DiceRoller

/-- How the input ends. -/
inductive Ending where
  /-- There is no more of it. -/
  | finished
  /-- The user interrupts the session. -/
  | interrupted
  /-- The next line is not text. -/
  | undecodable
deriving Repr, DecidableEq

/-- The lines of the input, what is typed on the line that it ends in, and how it ends. -/
structure Input where
  lines : List String
  unfinished : String
  ending : Ending
deriving Repr, DecidableEq

/-! ## 1. Bytes -/

/-- The text that bytes stand for in UTF-8. -/
def decodeBytes? (bytes : List UInt8) : Option String := String.fromUTF8? ⟨bytes.toArray⟩

/-- The lines up to the first one that is not text, each with its backspaces carried out. -/
def Input.ofByteLines : List (List UInt8) → Input
  | [] => ⟨[], "", .finished⟩
  | line :: rest =>
    match decodeBytes? line with
    | none => ⟨[], "", .undecodable⟩
    | some text =>
      let input := Input.ofByteLines rest
      { input with lines := applyBackspaces text :: input.lines }

/-- The input that bytes make. -/
def Input.ofBytes (bytes : List UInt8) : Input :=
  .ofByteLines (Text.splitLines 10 13 bytes)

/-! ## 2. Keys -/

/-- The input that keys make. `typed` holds the keys since the last Enter, in order. -/
def Input.ofKeysAfter (typed : List Char) : List Char → Input
  | [] => ⟨[], String.ofList typed, .finished⟩
  | c :: rest =>
    if c = '\r' then
      let input := Input.ofKeysAfter [] rest
      { input with lines := String.ofList typed :: input.lines }
    else if c = '\x03' then ⟨[], String.ofList typed, .interrupted⟩
    else if c = '\x04' then ⟨[], String.ofList typed, .finished⟩
    else Input.ofKeysAfter (typed ++ [c]) rest

/-- The input that the keys pressed at a terminal make. -/
def Input.ofKeys (keys : String) : Input := .ofKeysAfter [] keys.toList

end DiceRoller
