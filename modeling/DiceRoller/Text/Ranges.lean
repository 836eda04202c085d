/-
# Ranges of characters

A property of characters that no formula describes is written as the list of the intervals of code
points that have it. The tables of letters and numbers, of cased characters and of the classes
within a written sign are such lists, taken from the Unicode data.

The lists are looked through from the front, which is slow for the last intervals but needs no proof
that they are in order. The properties themselves are functions to `Bool`, so that what depends on
them can be evaluated and decided; `Ranges.holds_iff` says what they mean.
-/
namespace DiceRoller.Text

/-- Closed intervals of code points, in ascending order. -/
abbrev Ranges := List (Nat × Nat)

/-- The character lies in one of the intervals. -/
def Ranges.holds (rs : Ranges) (c : Char) : Bool :=
  rs.any fun r => r.1 ≤ c.toNat && c.toNat ≤ r.2

theorem Ranges.holds_iff {rs : Ranges} {c : Char} :
    rs.holds c = true ↔ ∃ r ∈ rs, r.1 ≤ c.toNat ∧ c.toNat ≤ r.2 := by
  simp [Ranges.holds]

end DiceRoller.Text
