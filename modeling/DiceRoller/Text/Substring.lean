/-
# Texts inside texts

A text occurs in another when it can be read off at some position of it. This is how a filter is
looked for in a name (section 4.5 of the specification), after both are put into lower case.

`occursIn` tries one position after the other, by recursion on the longer text. `occursIn_iff` says
what that means: the longer text is the shorter one with something in front of it and something
behind. The empty text occurs in every text; that a blank filter matches nothing is a guard of its
own, in `Chat/Silence.lean`.
-/
namespace DiceRoller.Text

/-- The first text occurs somewhere in the second. -/
def occursIn (needle : List Char) : List Char → Bool
  | [] => needle.isEmpty
  | c :: rest => needle.isPrefixOf (c :: rest) || occursIn needle rest

theorem occursIn_iff {needle s : List Char} :
    occursIn needle s = true ↔ ∃ before after, s = before ++ needle ++ after := by
  induction s with
  | nil => cases needle <;> simp [occursIn]
  | cons c rest ih =>
    simp only [occursIn, Bool.or_eq_true, ih, List.isPrefixOf_iff_prefix]
    constructor
    · rintro (⟨after, h⟩ | ⟨before, after, rfl⟩)
      · exact ⟨[], after, by simp [h]⟩
      · exact ⟨c :: before, after, by simp⟩
    · rintro ⟨before, after, h⟩
      cases before with
      | nil => exact .inl ⟨after, by simpa using h.symm⟩
      | cons b before =>
        simp only [List.cons_append, List.cons.injEq] at h
        exact .inr ⟨before, after, h.2⟩

end DiceRoller.Text
