/-
# Dice sets are read back

Reading undoes writing. The text of a dice set is read as that dice set, on its own and inside other
text, as long as what stands around it could not be a part of it: in front no separator and no digit
at the end, behind nothing that goes on where the dice set ends (`Modifier.extendedBy`).

What goes on where it ends hangs on the modifier. Behind a percent sign nothing can. Behind a
magnitude a digit would be one more digit of it. Without a modifier a digit goes on with the sides,
and a percent sign, or a sign with a digit behind it, would be the modifier; a sign alone would not.

* `saturated_digitRun?_append`: a number that may be missing is read back in front of anything that
  is no digit.
* `modifierAt_append`: a modifier is read back in front of a text that does not extend it.
* `parse_append_text_append`: a dice set is read back inside other text.
* `parse_undoes_text`: all of it, and that no two dice sets are written alike.

The conditions on the text around it are sufficient, for every dice set. Whether they are needed
depends on the dice set, and that is not pursued. Which texts are written is in
`Proofs/DiceSet/Canonical.lean`.
-/
import DiceRoller.Proofs.DiceSet.ClosedForm

namespace DiceRoller

open Text

/-! ## 1. What goes on where a dice set ends -/

/-- The text goes on with a digit. -/
def beginsWithDigit (s : List Char) : Bool := s.head?.any Char.isDigit

/-- The text behind a dice set with this modifier would be read as a part of it: a digit goes on
with a number, and where there is no modifier, a percent sign or a sign with a digit would be one.
-/
def Modifier.extendedBy : Modifier UInt64 → List Char → Bool
  | .percent, _ => false
  | .add _, s | .subtract _, s => beginsWithDigit s
  | .plain, s =>
    beginsWithDigit s || s.head? == some '%' ||
      (s.head?.any (fun c => c == '+' || c == '-') && beginsWithDigit s.tail)

theorem takeWhile_append_of_not_beginsWithDigit {ds s : List Char}
    (hds : ∀ c ∈ ds, c.isDigit = true) (hs : beginsWithDigit s = false) :
    (ds ++ s).takeWhile Char.isDigit = ds := by
  rw [List.takeWhile_append_of_pos hds]
  cases s with
  | nil => simp
  | cons c s =>
    rw [List.takeWhile_cons_of_neg (by simpa [beginsWithDigit] using hs), List.append_nil]

theorem dropWhile_append_of_not_beginsWithDigit {ds s : List Char}
    (hds : ∀ c ∈ ds, c.isDigit = true) (hs : beginsWithDigit s = false) :
    (ds ++ s).dropWhile Char.isDigit = s := by
  rw [List.dropWhile_append_of_pos hds]
  cases s with
  | nil => rfl
  | cons c s => rw [List.dropWhile_cons_of_neg (by simpa [beginsWithDigit] using hs)]

/-! ## 2. The parts are read back -/

theorem isDigit_of_mem_numeralOrNothing {n : Option UInt64} {c : Char}
    (h : c ∈ (numeralOrNothing n).toList) : c.isDigit = true := by
  cases n with
  | none => simp [numeralOrNothing] at h
  | some n => exact isDigit_of_mem_numeral h

/-- A number that may be missing is read back in front of anything that is no digit. -/
theorem saturated_digitRun?_append (n : Option UInt64) {s : List Char}
    (hs : beginsWithDigit s = false) :
    (digitRun? ((numeralOrNothing n).toList ++ s)).map saturated = n := by
  rw [digitRun?_eq,
    takeWhile_append_of_not_beginsWithDigit (fun c => isDigit_of_mem_numeralOrNothing) hs]
  cases n with
  | none => simp [numeralOrNothing]
  | some n =>
    rw [numeralOrNothing, if_neg (numeral_ne_nil n), Option.map_some, saturated_numeral]

theorem beginsWithDigit_modifier_append {m : Modifier UInt64} {s : List Char}
    (h : m.extendedBy s = false) : beginsWithDigit (m.text.toList ++ s) = false := by
  cases m with
  | plain =>
    simp only [Modifier.extendedBy, Bool.or_eq_false_iff] at h
    exact h.1.1
  | percent => rfl
  | add n => simp [Modifier.text, beginsWithDigit]
  | subtract n => simp [Modifier.text, beginsWithDigit]

theorem digitRun?_eq_none {s : List Char} (hs : beginsWithDigit s = false) : digitRun? s = none :=
  Option.map_eq_none_iff.mp (saturated_digitRun?_append none hs)

/-- Text that does not extend a dice set without a modifier holds no modifier at its start. -/
theorem modifierAt_eq_plain {s : List Char} (h : Modifier.plain.extendedBy s = false) :
    modifierAt s = .plain := by
  unfold modifierAt
  split
  · simp [Modifier.extendedBy] at h
  · rename_i rest
    rw [digitRun?_eq_none (s := rest) (by simpa [Modifier.extendedBy, beginsWithDigit] using h)]
    rfl
  · rename_i rest
    rw [digitRun?_eq_none (s := rest) (by simpa [Modifier.extendedBy, beginsWithDigit] using h)]
    rfl
  · rfl

/-- **A modifier is read back** in front of a text that does not extend it. -/
theorem modifierAt_append {m : Modifier UInt64} {s : List Char} (h : m.extendedBy s = false) :
    (modifierAt (m.text.toList ++ s)).map saturated = m := by
  cases m with
  | plain =>
    have : modifierAt (Modifier.plain.text.toList ++ s) = .plain := modifierAt_eq_plain h
    rw [this]
    rfl
  | percent => rfl
  | add n =>
    obtain ⟨ds, hds, hn⟩ := Option.map_eq_some_iff.mp (saturated_digitRun?_append (some n) h)
    have htext : (Modifier.add n).text.toList ++ s = '+' :: ((numeralOrNothing n).toList ++ s) := by
      simp [Modifier.text, numeralOrNothing]
    rw [htext, modifierAt, hds, Option.elim_some, Modifier.map, hn]
  | subtract n =>
    obtain ⟨ds, hds, hn⟩ := Option.map_eq_some_iff.mp (saturated_digitRun?_append (some n) h)
    have htext : (Modifier.subtract n).text.toList ++ s =
        '-' :: ((numeralOrNothing n).toList ++ s) := by
      simp [Modifier.text, numeralOrNothing]
    rw [htext, modifierAt, hds, Option.elim_some, Modifier.map, hn]

/-! ## 3. The dice set is read back -/

/-- **A dice set inside other text is read back**, if the text in front of it neither holds a
separator nor ends in a digit, and the text behind it does not extend it. -/
theorem parse_append_text_append {e : Expression} {p s : String}
    (hp : ∀ c ∈ p.toList, isSeparator c = false)
    (hlast : ∀ c ∈ p.toList.getLast?, c.isDigit = false)
    (hs : e.modifier.extendedBy s.toList = false) : DiceSet.parse (p ++ e.text ++ s) = .ok e := by
  have htail := beginsWithDigit_modifier_append hs
  have hds : ∀ c ∈ (numeralOrNothing e.count).toList, c.isDigit = true :=
    fun c => isDigit_of_mem_numeralOrNothing
  have htext : (p ++ e.text ++ s).toList = p.toList ++ ((numeralOrNothing e.count).toList ++
      'd' :: ((numeralOrNothing e.sides).toList ++ (e.modifier.text.toList ++ s.toList))) := by
    simp [DiceSet.text]
  have hsearch := search_append (r := (numeralOrNothing e.sides).toList ++
    (e.modifier.text.toList ++ s.toList)) hp hlast hds (rfl : isSeparator 'd' = true)
  rw [← htext] at hsearch
  rw [parse_of_search_eq_some hsearch]
  have hcount : (digitRun? (numeralOrNothing e.count).toList).map saturated = e.count := by
    have := saturated_digitRun?_append e.count (s := []) rfl
    rwa [List.append_nil] at this
  have hsides := saturated_digitRun?_append e.sides htail
  have hmodifier := modifierAt_append hs
  rw [dropWhile_append_of_not_beginsWithDigit (fun c => isDigit_of_mem_numeralOrNothing) htail]
  simp only [DiceSet.map, hcount, hsides, hmodifier]

/-- **Reading undoes writing**, inside other text, on its own, and so no two dice sets are written
alike. -/
theorem parse_undoes_text :
    (∀ (e : Expression) (p s : String), 'd' ∉ p.toList → 'D' ∉ p.toList →
      (∀ c ∈ p.toList.getLast?, c.isDigit = false) → e.modifier.extendedBy s.toList = false →
      DiceSet.parse (p ++ e.text ++ s) = .ok e) ∧
    (∀ e : Expression, DiceSet.parse e.text = .ok e) ∧
    Function.Injective (DiceSet.text : Expression → String) := by
  have halone (e : Expression) : DiceSet.parse e.text = .ok e := by
    have hs : e.modifier.extendedBy "".toList = false := by cases e.modifier <;> rfl
    have := parse_append_text_append (e := e) (p := "") (s := "") (by simp) (by simp) hs
    rwa [String.empty_append, String.append_empty] at this
  refine ⟨fun e p s hd hD hlast hs => ?_, halone, fun e e' h => ?_⟩
  · exact parse_append_text_append (isSeparator_eq_false_of_not_mem hd hD) hlast hs
  · have := halone e'
    rw [← h, halone e] at this
    exact Except.ok.inj this

end DiceRoller
