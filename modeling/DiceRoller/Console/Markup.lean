/-
# Marked up lines

A line may carry marks: stars around emphasised words, tildes around words struck out, back quotes
around words to be taken literally, and a backslash before a mark that is none. Only what stands
between the marks is shown. The console marks up its results, and what is rolled is a part of the
result, so marks that a user types reach this reader too.

A mark of one star and a mark of two differ only in the next character, so the reader holds a
character back until the one after it has told whether it is shown (`MarkupReader.held`). It is a
machine with four modes that shows some characters at each step. The odd cases are those of the
library that draws the lines: a back quote directly behind a single tilde is no mark, and at the end
of a line a mark that is open is shown or not depending on the style it would end.

* `MarkupReader.read_start`, `MarkupReader.shown_start`: a text without marks is shown as it is, by
  induction on its characters.

Nothing is proved of texts with marks, and colours and the width of the terminal are left out.
-/
namespace DiceRoller

/-! ## 1. The reader -/

/-- What the next character may complete. -/
inductive MarkupMode where
  | text
  /-- A star was read that may be the first of two. -/
  | star
  /-- A tilde was read that may be the first of two. -/
  | tilde
  /-- A back quote was read and none after it. -/
  | literal
deriving Repr, DecidableEq

/-- The reader of a marked up line: its mode, the styles that are switched on, and the last character
where it is still open whether it is shown. -/
structure MarkupReader where
  mode : MarkupMode
  italic : Bool
  struck : Bool
  held : Option Char
deriving Repr, DecidableEq

/-- A character that a backslash makes stand for itself. -/
def isMark (c : Char) : Bool := c == '*' || c == '~' || c == '|' || c == '`' || c == '\\'

/-- The reader at the start of a line. -/
def MarkupReader.start : MarkupReader := ⟨.text, false, false, none⟩

/-! ## 2. One character -/

/-- What a backslash does to the mark behind it: another backslash is dropped, and any other mark is
held instead of the backslash. Neither changes the mode, so a star in front of the backslash still
waits for a character. -/
def MarkupReader.escape (r : MarkupReader) (c : Char) : List Char × MarkupReader :=
  if c = '\\' then (['\\'], { r with held := none }) else ([], { r with held := some c })

/-- Shows the character held back and holds this one, in a mode of its own. -/
def MarkupReader.hold (r : MarkupReader) (mode : MarkupMode) (c : Char) : List Char × MarkupReader :=
  (r.held.toList, { r with mode := mode, held := some c })

/-- A character where no mark is open. -/
def MarkupReader.readText (r : MarkupReader) (c : Char) : List Char × MarkupReader :=
  if c = '*' then r.hold .star c
  else if c = '~' then r.hold .tilde c
  else if c = '\\' then r.hold .text c
  else if c = '`' then (r.held.toList, { r with mode := .literal, held := none })
  else (r.held.toList ++ [c], { r with mode := .text, held := none })

/-- A character after a star: of the two, the character held back is not shown. Only a single star
turns the emphasis on or off. -/
def MarkupReader.readAfterStar (r : MarkupReader) (c : Char) : List Char × MarkupReader :=
  let single (mode : MarkupMode) : MarkupReader :=
    { r with mode := mode, italic := !r.italic, held := none }
  if c = '\\' then r.hold .star c
  else if c = '*' then ([], { r with mode := .text, held := none })
  else if c = '~' then ([], single .tilde)
  else if c = '`' then ([], single .literal)
  else ([c], single .text)

/-- A character after a tilde: a second tilde makes a mark, and after anything else, be it a back
quote, the first one is no mark. -/
def MarkupReader.readAfterTilde (r : MarkupReader) (c : Char) : List Char × MarkupReader :=
  if c = '\\' then r.hold .tilde c
  else if c = '~' then ([], { r with mode := .text, struck := !r.struck, held := none })
  else if c = '*' then r.hold .star c
  else (r.held.toList ++ [c], { r with mode := .text, held := none })

/-- What is shown once a character is read, and the reader after it. -/
def MarkupReader.read (r : MarkupReader) (c : Char) : List Char × MarkupReader :=
  if r.held = some '\\' ∧ isMark c then r.escape c
  else match r.mode with
    | .text => r.readText c
    | .star => r.readAfterStar c
    | .tilde => r.readAfterTilde c
    | .literal => if c = '`' then ([], { r with mode := .text }) else ([c], r)

/-- What is shown at the end of a line: the character held back, unless it is a mark that ends a
style. -/
def MarkupReader.finish (r : MarkupReader) : List Char :=
  match r.mode with
  | .star => if r.italic then [] else r.held.toList
  | .tilde => if r.struck then [] else r.held.toList
  | _ => r.held.toList

/-! ## 3. Lines -/

/-- The characters of a marked up text that are shown, read by a reader that has come so far. -/
def MarkupReader.shown (r : MarkupReader) : List Char → List Char
  | [] => r.finish
  | c :: rest =>
    let step := r.read c
    step.1 ++ step.2.shown rest

/-- Outside all marks, a character that is none is shown at once. -/
theorem MarkupReader.read_start {c : Char} (h : isMark c = false) :
    start.read c = ([c], start) := by
  simp only [isMark, Bool.or_eq_false_iff, beq_eq_false_iff_ne, ne_eq] at h
  simp [read, start, readText, h]

/-- A text without marks is shown as it is. -/
theorem MarkupReader.shown_start {text : List Char} (h : ∀ c ∈ text, isMark c = false) :
    start.shown text = text := by
  induction text with
  | nil => rfl
  | cons c rest ih =>
    have hc := read_start (h c (by simp))
    simp [shown, hc, ih fun d hd => h d (by simp [hd])]

/-- A marked up line as it is shown. -/
def shownMarkup (line : String) : String :=
  String.ofList (MarkupReader.start.shown line.toList)

end DiceRoller
