/-
# Canonical dice sets

A dice set is read from a great many texts but written in one way. This file says which texts are
written: `Canonical` is their grammar, character by character and without reference to reading or
writing.

The grammar has a part for each part of a dice set: a numeral or nothing, a small `d`, a numeral or
nothing, and a modifier with a numeral, a percent sign or nothing. A numeral has no superfluous
zero, and its value is a word (`Text.IsNumeral`). Each part is proved to be what is written for that
part, and the whole follows.

* `canonicalNumber_iff`, `canonicalModifier_iff`, `canonical_iff`: the canonical texts are the texts
  of dice sets, part by part.
* `text_of_parse_eq_iff`: a text survives being read and written again exactly when it is canonical.

So a written zero and a missing number are both canonical, and they are different dice sets. A text
that does not survive is either malformed or read as a dice set that is written in another way;
which of its parts is to blame is not said here.
-/
import DiceRoller.Proofs.DiceSet.RoundTrip

namespace DiceRoller

open Text

/-! ## 1. The grammar of what is written -/

/-- A numeral or nothing. -/
inductive CanonicalNumber : List Char → Prop
  | missing : CanonicalNumber []
  | number {ds : List Char} (numeral : IsNumeral ds) : CanonicalNumber ds

/-- A percent sign, a sign with a numeral behind it, or nothing. -/
inductive CanonicalModifier : List Char → Prop
  | plain : CanonicalModifier []
  | percent : CanonicalModifier ['%']
  | add {ds : List Char} (numeral : IsNumeral ds) : CanonicalModifier ('+' :: ds)
  | subtract {ds : List Char} (numeral : IsNumeral ds) : CanonicalModifier ('-' :: ds)

/-- A dice set as it is written: a small `d`, the numbers around it, the modifier, and nothing in
front or behind. -/
inductive Canonical : List Char → Prop
  | dice {count sides modifier : List Char} (hcount : CanonicalNumber count)
      (hsides : CanonicalNumber sides) (hmodifier : CanonicalModifier modifier) :
      Canonical (count ++ 'd' :: (sides ++ modifier))

/-! ## 2. The grammar is that of the written parts -/

theorem canonicalNumber_iff {s : List Char} :
    CanonicalNumber s ↔ ∃ n : Option UInt64, (numeralOrNothing n).toList = s := by
  refine ⟨fun h => ?_, ?_⟩
  · cases h with
    | missing => exact ⟨none, rfl⟩
    | number h =>
      obtain ⟨n, hn⟩ := isNumeral_iff.mp h
      exact ⟨some n, hn⟩
  · rintro ⟨_ | n, rfl⟩
    · exact .missing
    · exact .number (isNumeral_numeral n)

theorem Modifier.toList_text_add (n : UInt64) :
    (Modifier.add n).text.toList = '+' :: (numeral n).toList := by
  simp [Modifier.text]

theorem Modifier.toList_text_subtract (n : UInt64) :
    (Modifier.subtract n).text.toList = '-' :: (numeral n).toList := by
  simp [Modifier.text]

theorem canonicalModifier_iff {s : List Char} :
    CanonicalModifier s ↔ ∃ m : Modifier UInt64, m.text.toList = s := by
  refine ⟨fun h => ?_, ?_⟩
  · cases h with
    | plain => exact ⟨.plain, rfl⟩
    | percent => exact ⟨.percent, rfl⟩
    | add h =>
      obtain ⟨n, rfl⟩ := isNumeral_iff.mp h
      exact ⟨.add n, Modifier.toList_text_add n⟩
    | subtract h =>
      obtain ⟨n, rfl⟩ := isNumeral_iff.mp h
      exact ⟨.subtract n, Modifier.toList_text_subtract n⟩
  · rintro ⟨m, rfl⟩
    cases m with
    | plain => exact .plain
    | percent => exact .percent
    | add n =>
      rw [Modifier.toList_text_add]
      exact .add (isNumeral_numeral n)
    | subtract n =>
      rw [Modifier.toList_text_subtract]
      exact .subtract (isNumeral_numeral n)

theorem toList_text (e : Expression) : e.text.toList =
    (numeralOrNothing e.count).toList ++
      'd' :: ((numeralOrNothing e.sides).toList ++ e.modifier.text.toList) := by
  simp [DiceSet.text]

/-- **The canonical texts are the texts of dice sets.** -/
theorem canonical_iff {s : List Char} : Canonical s ↔ ∃ e : Expression, e.text.toList = s := by
  refine ⟨fun h => ?_, ?_⟩
  · obtain ⟨hcount, hsides, hmodifier⟩ := h
    obtain ⟨count, rfl⟩ := canonicalNumber_iff.mp hcount
    obtain ⟨sides, rfl⟩ := canonicalNumber_iff.mp hsides
    obtain ⟨modifier, rfl⟩ := canonicalModifier_iff.mp hmodifier
    exact ⟨⟨count, sides, modifier⟩, toList_text _⟩
  · rintro ⟨e, rfl⟩
    rw [toList_text]
    exact .dice (canonicalNumber_iff.mpr ⟨_, rfl⟩) (canonicalNumber_iff.mpr ⟨_, rfl⟩)
      (canonicalModifier_iff.mpr ⟨_, rfl⟩)

/-! ## 3. What survives reading and writing -/

/-- Nothing behind a dice set extends it where there is nothing behind it. -/
theorem Modifier.extendedBy_nil (m : Modifier UInt64) : m.extendedBy [] = false := by
  cases m <;> rfl

/-- The text of a dice set is read as that dice set. -/
theorem parse_text (e : Expression) : DiceSet.parse e.text = .ok e := by
  have := parse_append_text_append (e := e) (p := "") (s := "") (by simp) (by simp)
    (Modifier.extendedBy_nil _)
  rwa [String.empty_append, String.append_empty] at this

/-- **The canonical texts are those that survive.** A text is read as a dice set that is written as
the same text exactly when it is canonical. Every other text holds no dice set or is changed: a
capital separator, a superfluous zero, a number above the greatest word, a sign without a number and
any text around the dice set are not written again. -/
theorem text_of_parse_eq_iff (t : String) :
    (∃ e, DiceSet.parse t = .ok e ∧ e.text = t) ↔ Canonical t.toList := by
  rw [canonical_iff]
  constructor
  · rintro ⟨e, -, htext⟩
    exact ⟨e, congrArg String.toList htext⟩
  · rintro ⟨e, htext⟩
    obtain rfl : e.text = t := String.toList_inj.mp htext
    exact ⟨e, parse_text e, rfl⟩

end DiceRoller
