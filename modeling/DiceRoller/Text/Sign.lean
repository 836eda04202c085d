/-
# Written signs

A written sign is what a reader takes for one character. A text falls into signs in one way: after
each character it depends on the class of the next one, and on a little of what came before, whether
the sign goes on. Unicode calls the signs extended grapheme clusters. A backspace in piped input
takes one of them back (`Console/Backspace.lean`), and this is the only use of them.

`SignState` is the little that matters of what came before: the class of the last character, how
much of a joined pictograph or of a conjunct has been read, and whether half a flag is open. With it
the text is cut in one walk from left to right, where the rules are written with an unbounded look
back.

* `flatten_signs`: no character is lost, by induction on the text. That the signs are those of the
  Unicode rules is not proved, since the rules are what is written here.
-/
import DiceRoller.Text.SignClass

namespace DiceRoller.Text

/-! ## 1. Where a sign goes on -/

/-- How much of a joined pictograph has been read. -/
inductive PictographState where
  | none
  /-- A pictograph and marks that extend it. -/
  | pictograph
  /-- The same with a joiner behind it. -/
  | joined
deriving Repr, DecidableEq

/-- How much of a conjunct has been read. -/
inductive ConjunctState where
  | none
  /-- A consonant and marks that extend it. -/
  | consonant
  /-- The same with a linker among the marks. -/
  | linked
deriving Repr, DecidableEq

/-- All that matters of the text before a position. -/
structure SignState where
  last : SignClass
  pictograph : PictographState
  conjunct : ConjunctState
  /-- The text ends in an odd number of halves of flags. -/
  halfFlag : Bool
deriving Repr, DecidableEq

/-- The start of a text, where no sign goes on. -/
def SignState.start : SignState := ⟨.control, .none, .none, false⟩

/-- The state of a pictograph after one more character. -/
def PictographState.next (s : PictographState) : SignClass → PictographState
  | .pictograph => .pictograph
  | .extend | .linker | .nonJoiner => if s = .pictograph then .pictograph else .none
  | .joiner => if s = .pictograph then .joined else .none
  | _ => .none

/-- The state of a conjunct after one more character. -/
def ConjunctState.next (s : ConjunctState) : SignClass → ConjunctState
  | .consonant => .consonant
  | .linker => if s = .none then .none else .linked
  | .extend | .joiner => s
  | _ => .none

/-- The state after one more character. -/
def SignState.next (s : SignState) (k : SignClass) : SignState where
  last := k
  pictograph := s.pictograph.next k
  conjunct := s.conjunct.next k
  halfFlag := k = .regional && !s.halfFlag

/-- Two parts of a Hangul syllable that stand in their order. -/
def joinsSyllable : SignClass → SignClass → Bool
  | .leading, .leading | .leading, .vowel => true
  | .leading, .openSyllable | .leading, .closedSyllable => true
  | .openSyllable, .vowel | .openSyllable, .trailing => true
  | .vowel, .vowel | .vowel, .trailing => true
  | .closedSyllable, .trailing | .trailing, .trailing => true
  | _, _ => false

/-- A character of this class belongs to the sign before it. -/
def SignState.joins (s : SignState) (k : SignClass) : Bool :=
  if s.last = .control ∨ k = .control then false
  else match k with
    | .extend | .linker | .nonJoiner | .joiner | .spacingMark => true
    | _ =>
      s.last = .prepend || joinsSyllable s.last k
        || (k = .consonant && s.conjunct = .linked)
        || (k = .pictograph && s.pictograph = .joined)
        || (k = .regional && s.halfFlag)

/-! ## 2. Signs -/

/-- The rest of the sign that a text goes on with, and the signs after it. -/
def signsAfter (s : SignState) : List Char → List Char × List (List Char)
  | [] => ([], [])
  | c :: rest =>
    let k := signClass c
    let r := signsAfter (s.next k) rest
    if s.joins k then (c :: r.1, r.2) else ([], (c :: r.1) :: r.2)

/-- The signs of a text. -/
def signs (text : List Char) : List (List Char) := (signsAfter .start text).2

/-- No character is lost. -/
theorem flatten_signsAfter (s : SignState) (text : List Char) :
    (signsAfter s text).1 ++ (signsAfter s text).2.flatten = text := by
  induction text generalizing s with
  | nil => rfl
  | cons c rest ih =>
    rw [signsAfter]
    cases s.joins (signClass c) <;> simp [ih]

@[simp] theorem flatten_signs (text : List Char) : (signs text).flatten = text := by
  have h := flatten_signsAfter .start text
  cases text with
  | nil => rfl
  | cons c rest =>
    have hj : SignState.start.joins (signClass c) = false := by simp [SignState.joins, SignState.start]
    simpa [signs, signsAfter, hj] using h

end DiceRoller.Text
