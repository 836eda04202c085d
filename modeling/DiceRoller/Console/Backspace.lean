/-
# Backspaces

In a line that another program types, a backspace takes the sign before it back, however many
characters it is written with. The library that reads the lines keeps the text and, beside it, a
note of the size of each sign, so that a backspace knows how many bytes to take. The note is one
byte long, and a sign of 256 bytes is therefore noted with the size 0 (`notedSize`): a backspace
behind it takes nothing of it away.

Signs are cut as in `Text/Sign.lean`, and the whole line is cut before the first backspace is
carried out. A backspace is a sign by itself, so two characters that only come to stand next to each
other when what was between them is taken back are not one sign.

* `kept_foldl_strike`: signs that are no backspaces are all kept, by induction on the signs.
* `struckChars_of_not_mem`: a text without backspaces stays as it is. This is all that is proved of
  it, and all that the proofs about sessions need.
-/
import DiceRoller.Text.Sign

namespace DiceRoller

/-! ## 1. A line being typed -/

/-- The characters kept so far and, for each sign among them, the note of its size. Both begin with
the latest. -/
structure Draft where
  kept : List Char
  sizes : List UInt8
deriving Repr, DecidableEq

/-- The size of a sign as it is noted, which is 0 for a sign of 256 bytes. -/
def notedSize (sign : List Char) : UInt8 := .ofNat (sign.foldr (fun c size => c.utf8Size + size) 0)

/-- The text without the first characters that fit into `n` bytes. -/
def dropBytes (n : Nat) : List Char → List Char
  | [] => []
  | c :: rest => if c.utf8Size ≤ n then dropBytes (n - c.utf8Size) rest else c :: rest

/-- One more sign. -/
def Draft.type (d : Draft) (sign : List Char) : Draft :=
  ⟨sign.reverse ++ d.kept, notedSize sign :: d.sizes⟩

/-- One sign less, if there is any. -/
def Draft.takeBack (d : Draft) : Draft :=
  match d.sizes with
  | [] => d
  | size :: sizes => ⟨dropBytes size.toNat d.kept, sizes⟩

/-- The draft after a sign or a backspace. -/
def Draft.strike (d : Draft) (sign : List Char) : Draft :=
  if sign = ['\x08'] then d.takeBack else d.type sign

/-! ## 2. Whole lines -/

/-- The characters that are left when all signs are struck. -/
def struckChars (text : List Char) : List Char :=
  ((Text.signs text).foldl Draft.strike ⟨[], []⟩).kept.reverse

/-- Signs that are no backspaces are all kept. -/
theorem kept_foldl_strike {signs : List (List Char)} (h : ['\x08'] ∉ signs) (d : Draft) :
    (signs.foldl Draft.strike d).kept = signs.flatten.reverse ++ d.kept := by
  induction signs generalizing d with
  | nil => rfl
  | cons sign rest ih =>
    have hs : sign ≠ ['\x08'] := fun e => h (by simp [e])
    have hr : ['\x08'] ∉ rest := fun e => h (by simp [e])
    simp [ih hr, Draft.strike, hs, Draft.type]

/-- A text without backspaces stays as it is. -/
theorem struckChars_of_not_mem {text : List Char} (h : '\x08' ∉ text) :
    struckChars text = text := by
  have hs : ['\x08'] ∉ Text.signs text := fun e =>
    h (by rw [← Text.flatten_signs text]; exact List.mem_flatten.mpr ⟨_, e, by simp⟩)
  simp [struckChars, kept_foldl_strike hs]

/-- The line with its backspaces carried out. -/
def applyBackspaces (line : String) : String := String.ofList (struckChars line.toList)

end DiceRoller
