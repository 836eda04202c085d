/-
# Blanks around a dice set

No blank is a part of a dice set: it is no digit, no separator, no sign and no percent sign. So
blanks in front of a text cannot go on with a count, and blanks behind it neither go on with a
number nor make a modifier of a sign.

Queries are trimmed before they are read (section 4.3 of the specification), and this is why nobody
notices. A text is its trimmed text with blanks on both sides, and the closed form of reading looks
at three runs of digits and one modifier; each of them is the same with blanks around the text.

* `takeWhile_isDigit_append_blanks`, `rtakeWhile_isDigit_blanks_append`: runs of digits at either
  end.
* `modifierAt_append_blanks`: blanks behind a text make no modifier of its end.
* `spelling_search_blanks`: blanks around a text do not change what is found in it.
* `parse_trim_eq_ok_iff`: a text is read as its trimmed text is.

Only where a dice set stands in the text changes with the blanks in front of it, so positions are
left out of the statement. Blanks inside a dice set are another matter: they end it.
-/
import DiceRoller.Proofs.DiceSet.ClosedForm
import DiceRoller.Proofs.Text.Blank

namespace DiceRoller

open Text

variable {a b : List Char}

/-! ## 1. Blanks behind a run of digits -/

theorem isSeparator_eq_false_of_isBlank {c : Char} (hc : isBlank c = true) :
    isSeparator c = false := by
  rw [Bool.eq_false_iff, ne_eq, isSeparator_iff]
  rintro (rfl | rfl)
  · exact absurd hc (by decide)
  · exact absurd hc (by decide)

theorem takeWhile_isDigit_append_blanks (hb : ∀ c ∈ b, isBlank c = true) (s : List Char) :
    (s ++ b).takeWhile Char.isDigit = s.takeWhile Char.isDigit := by
  induction s with
  | nil =>
    cases b with
    | nil => rfl
    | cons c b => simp [isDigit_eq_false_of_isBlank (hb c List.mem_cons_self)]
  | cons c s ih => cases hc : c.isDigit <;> simp [hc, ih]

theorem dropWhile_isDigit_append_blanks (hb : ∀ c ∈ b, isBlank c = true) (s : List Char) :
    (s ++ b).dropWhile Char.isDigit = s.dropWhile Char.isDigit ++ b := by
  induction s with
  | nil =>
    cases b with
    | nil => rfl
    | cons c b => simp [isDigit_eq_false_of_isBlank (hb c List.mem_cons_self)]
  | cons c s ih => cases hc : c.isDigit <;> simp [hc, ih]

/-- Digits are counted from behind, too: blanks in front of a text do not go on with the digits that
it ends with. -/
theorem rtakeWhile_isDigit_blanks_append (ha : ∀ c ∈ a, isBlank c = true) (s : List Char) :
    (a ++ s).rtakeWhile Char.isDigit = s.rtakeWhile Char.isDigit := by
  have ha' : ∀ c ∈ a.reverse, isBlank c = true := fun c hc => ha c (List.mem_reverse.mp hc)
  rw [List.rtakeWhile, List.rtakeWhile, List.reverse_append, takeWhile_isDigit_append_blanks ha']

theorem digitRun?_append_blanks (hb : ∀ c ∈ b, isBlank c = true) (s : List Char) :
    digitRun? (s ++ b) = digitRun? s := by
  rw [digitRun?_eq, digitRun?_eq, takeWhile_isDigit_append_blanks hb]

/-! ## 2. Blanks behind a modifier -/

theorem modifierAt_blanks (hb : ∀ c ∈ b, isBlank c = true) : modifierAt b = .plain := by
  unfold modifierAt
  split
  · exact absurd (hb _ List.mem_cons_self) (by decide)
  · exact absurd (hb _ List.mem_cons_self) (by decide)
  · exact absurd (hb _ List.mem_cons_self) (by decide)
  · rfl

/-- Blanks behind a text make no modifier of its end: a sign needs a digit directly behind it. -/
theorem modifierAt_append_blanks (hb : ∀ c ∈ b, isBlank c = true) (s : List Char) :
    modifierAt (s ++ b) = modifierAt s := by
  cases s with
  | nil => exact modifierAt_blanks hb
  | cons c s =>
    by_cases hpercent : c = '%'
    · subst hpercent
      rfl
    · by_cases hadd : c = '+'
      · subst hadd
        simp only [List.cons_append, modifierAt, digitRun?_append_blanks hb]
      · by_cases hsub : c = '-'
        · subst hsub
          simp only [List.cons_append, modifierAt, digitRun?_append_blanks hb]
        · simp [modifierAt, hpercent, hadd, hsub]

/-! ## 3. Blanks around a text -/

/-- **Blanks around a text do not change what is found in it.** -/
theorem spelling_search_blanks (ha : ∀ c ∈ a, isBlank c = true) (hb : ∀ c ∈ b, isBlank c = true)
    (s : List Char) :
    (search (a ++ (s ++ b))).map Found.spelling = (search s).map Found.spelling := by
  have ha' : ∀ c ∈ a, isSeparator c = false := fun c hc => isSeparator_eq_false_of_isBlank (ha c hc)
  have hb' : ∀ c ∈ b, isSeparator c = false := fun c hc => isSeparator_eq_false_of_isBlank (hb c hc)
  by_cases hex : ∃ c ∈ s, isSeparator c = true
  · obtain ⟨p, c, r, rfl, hc, hp⟩ := exists_first_separator hex
    have hap : ∀ x ∈ a ++ p, isSeparator x = false := by
      intro x hx
      rcases List.mem_append.mp hx with hx | hx
      · exact ha' x hx
      · exact hp x hx
    have hsplit : a ++ (p ++ c :: r ++ b) = (a ++ p) ++ c :: (r ++ b) := by simp
    rw [hsplit, search_first_separator hap hc, search_first_separator hp hc]
    simp only [Option.map_some, rtakeWhile_isDigit_blanks_append ha, digitRun?_append_blanks hb,
      dropWhile_isDigit_append_blanks hb, modifierAt_append_blanks hb]
  · have hs : ∀ c ∈ s, isSeparator c = false := by simpa using hex
    have hall : ∀ c ∈ a ++ (s ++ b), isSeparator c = false := by
      intro c hc
      simp only [List.mem_append] at hc
      rcases hc with hc | hc | hc
      · exact ha' c hc
      · exact hs c hc
      · exact hb' c hc
    rw [search_eq_none_of_forall hs, search_eq_none_of_forall hall]

/-- A text is read as what is found in it, wherever it stands. -/
theorem parse_eq (t : String) :
    DiceSet.parse t = ((search t.toList).map Found.spelling).elim (.error (.malformed t))
      fun d => .ok (d.map saturated) := by
  rw [DiceSet.parse]
  cases search t.toList <;> rfl

/-- **A text is read as its trimmed text is.** -/
theorem parse_trim_eq_ok_iff {t : String} {e : Expression} :
    DiceSet.parse (trim t) = .ok e ↔ DiceSet.parse t = .ok e := by
  obtain ⟨a, b, ha, hb, ht⟩ := exists_trimChars_append t.toList
  have hsearch := spelling_search_blanks ha hb (trimChars t.toList)
  rw [← ht] at hsearch
  rw [parse_eq, parse_eq, toList_trim, hsearch]
  cases (search (trimChars t.toList)).map Found.spelling with
  | none => simp
  | some d => rfl

/-- The error that is left is that of the trimmed text. -/
theorem parse_trim_of_parse_eq_error {t : String} {reason : RollError}
    (h : DiceSet.parse t = .error reason) :
    DiceSet.parse (trim t) = .error (.malformed (trim t)) := by
  cases hparse : DiceSet.parse (trim t) with
  | error reason' => rw [eq_malformed_of_parse_eq_error hparse]
  | ok e =>
    rw [parse_trim_eq_ok_iff.mp hparse] at h
    exact absurd h (by simp)

end DiceRoller
