/-
# The prompt

While a line is typed, a half-typed trigger word can be completed, a full one is highlighted, and
the rest of a remembered line is offered as a hint. None of this changes what a line means; it helps
the user of the host that the specification ships (section 1) to type one.

A line under the cursor is what stands before it and what stands after it (`EditedLine`). The cursor
is given as a number of bytes, and at a place between two characters the two sides are those
characters (`EditedLine.ofPosition`). A completion replaces what was typed from its start on. The
only one offered is the trigger with a blank behind it, for a text before the cursor that begins the
trigger and is not all of it.

Colours are control sequences around the text, and a text that switches styles off by itself has the
colour switched on again behind it (`resumeStyle`).

* `resumeStyle_of_not_mem`: a text without the escape character stays as it is.
* `Proofs/Console/Completion.lean`: when a completed line is answered.

Where the hint and the colours stand on the terminal is left out, and so are the keys that accept a
candidate.
-/
import DiceRoller.Console.History

namespace DiceRoller

/-! ## 1. The line being typed -/

/-- The text before and after the cursor. -/
structure EditedLine where
  before : String
  after : String
deriving Repr, DecidableEq

/-- The characters that the first `n` bytes hold, and the others. -/
def splitAtByte : Nat → List Char → List Char × List Char
  | 0, s => ([], s)
  | _ + 1, [] => ([], [])
  | n + 1, c :: rest =>
    let split := splitAtByte (n + 1 - c.utf8Size) rest
    (c :: split.1, split.2)
termination_by _ s => s.length

/-- The line with its cursor after `position` bytes. -/
def EditedLine.ofPosition (line : String) (position : Nat) : EditedLine :=
  let split := splitAtByte position line.toList
  ⟨String.ofList split.1, String.ofList split.2⟩

/-! ## 2. Completion -/

/-- A word that may take the place of what is typed. -/
structure Candidate where
  display : String
  replacement : String
deriving Repr, DecidableEq

/-- The words offered for the text from `start` bytes on to the cursor. -/
structure Completion where
  start : Nat
  candidates : List Candidate
deriving Repr, DecidableEq

/-- The text is a beginning of the trigger, not empty and not the whole of it. -/
def isTriggerStart (trigger typed : String) : Bool :=
  !typed.isEmpty && typed != trigger && typed.toList.isPrefixOf trigger.toList

/-- Completes the trigger word at the start of a line. -/
def EditedLine.complete (l : EditedLine) (trigger : String) : Completion :=
  if isTriggerStart trigger l.before then ⟨0, [⟨trigger, trigger ++ " "⟩]⟩
  else ⟨l.before.utf8ByteSize, []⟩

/-- The line after a candidate is accepted: it replaces the text from `start` bytes on to the
cursor. -/
def EditedLine.accept (l : EditedLine) (start : Nat) (c : Candidate) : String :=
  (EditedLine.ofPosition l.before start).before ++ c.replacement ++ l.after

/-! ## 3. Hints and colours -/

/-- The hint behind the cursor, which must stand at the end of the line. -/
def EditedLine.hint (l : EditedLine) (h : History) : Option String :=
  if l.after.isEmpty then h.hint l.before else none

/-- The control sequence that switches a style on, given its codes. -/
def styleStart (codes : String) : String := "\x1b[" ++ codes ++ "m"

/-- The control sequence that switches every style off. -/
def styleEnd : String := "\x1b[0m"

/-- A text with `start` behind each of its own sequences that switch every style off, so that the
style goes on. -/
def resumeStyle (start : List Char) : List Char → List Char
  | '\x1b' :: '[' :: '0' :: 'm' :: rest =>
    '\x1b' :: '[' :: '0' :: 'm' :: (start ++ resumeStyle start rest)
  | c :: rest => c :: resumeStyle start rest
  | [] => []

/-- A text without the escape character has nothing to resume after. -/
theorem resumeStyle_of_not_mem {start text : List Char} (h : '\x1b' ∉ text) :
    resumeStyle start text = text := by
  fun_induction resumeStyle start text with
  | case1 rest ih => simp at h
  | case2 c rest hc ih => rw [ih fun hm => h (by simp [hm])]
  | case3 => rfl

/-- The whole text in the style with these codes. -/
def styled (codes text : String) : String :=
  styleStart codes ++ String.ofList (resumeStyle (styleStart codes).toList text.toList) ++ styleEnd

/-- The line with the trigger word at its start in bold cyan. -/
def highlightLine (trigger line : String) : String :=
  match trigger.toList, trigger.toList.isPrefixOf? line.toList with
  | _ :: _, some rest => styled "1;36" trigger ++ String.ofList rest
  | _, _ => line

/-- The hint in dim letters. -/
def highlightHint (hint : String) : String := styled "2" hint

/-- A line is drawn anew at every character unless it is empty. -/
def redrawsAtCharacter (line : String) : Bool := !line.isEmpty

/-- The prompt in its colours, or a prompt of another kind as it is. -/
def highlightPrompt (coloured prompt : String) (isDefault : Bool) : String :=
  if isDefault then coloured else prompt

end DiceRoller
