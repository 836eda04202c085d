/-
# Trimming takes only blanks

Trimming can take a character away only if it is blank: every other character of a text stays in it,
and a text without blanks stays as it is. What is taken away stands at the two ends of the text, so
nothing is left only of a text that is blank throughout. No blank is a character that words or
numerals are made of.

These are the facts about blanks that the rest of the development uses. They are stated for
characters that are not blank, as a letter, a digit or a separator is, so that a proof about such
characters need not know what the blanks are.

* `mem_trim_iff`: a character that is not blank survives trimming.
* `exists_trimChars_append`: a text is its trimmed text with blanks in front of it and blanks behind
  it. Proofs about trimming go through this cut and speak of concatenations.
* `trim_eq_empty_iff`: nothing is left only of a blank text.
* `isDigit_eq_false_of_isBlank`, `isWord_eq_false_of_isBlank`: the second one is decided for the 25
  blanks.
-/
import DiceRoller.Text.Alphanumeric
import DiceRoller.Text.Blank
import Mathlib.Data.List.TakeWhile

namespace DiceRoller.Text

theorem mem_trimStart_iff {c : Char} (hc : isBlank c = false) {s : List Char} :
    c ∈ trimStart s ↔ c ∈ s := by
  refine ⟨fun h => (List.dropWhile_sublist _).subset h, fun h => ?_⟩
  rw [← List.takeWhile_append_dropWhile (p := isBlank) (l := s), List.mem_append] at h
  rcases h with h | h
  · have hall := List.all_takeWhile (p := isBlank) (l := s)
    have := List.all_eq_true.mp hall c h
    rw [hc] at this
    exact absurd this (by simp)
  · exact h

theorem mem_trimEnd_iff {c : Char} (hc : isBlank c = false) {s : List Char} :
    c ∈ trimEnd s ↔ c ∈ s := by
  have h := mem_trimStart_iff hc (s := s.reverse)
  rw [trimStart] at h
  rw [trimEnd, List.mem_reverse, h, List.mem_reverse]

/-- **A character that is not blank survives trimming.** -/
theorem mem_trim_iff {c : Char} (hc : isBlank c = false) {t : String} :
    c ∈ (trim t).toList ↔ c ∈ t.toList := by
  rw [toList_trim, trimChars, mem_trimEnd_iff hc, mem_trimStart_iff hc]

theorem trimStart_of_not_blank {s : List Char} (hs : ∀ c ∈ s, isBlank c = false) :
    trimStart s = s := by
  cases s with
  | nil => rfl
  | cons c s => simp [trimStart, hs c List.mem_cons_self]

theorem trimEnd_of_not_blank {s : List Char} (hs : ∀ c ∈ s, isBlank c = false) : trimEnd s = s := by
  have h := trimStart_of_not_blank (s := s.reverse) fun c hc => hs c (List.mem_reverse.mp hc)
  rw [trimStart] at h
  rw [trimEnd, h, List.reverse_reverse]

/-- A text without blanks stays as it is. -/
theorem trim_of_not_blank {t : String} (ht : ∀ c ∈ t.toList, isBlank c = false) : trim t = t := by
  rw [trim, trimChars, trimStart_of_not_blank ht, trimEnd_of_not_blank ht, String.ofList_toList]

/-- A text is its trimmed text with blanks in front of it and blanks behind it. -/
theorem exists_trimChars_append (s : List Char) :
    ∃ a b, (∀ c ∈ a, isBlank c = true) ∧ (∀ c ∈ b, isBlank c = true) ∧
      s = a ++ (trimChars s ++ b) := by
  have hfront : s = s.takeWhile isBlank ++ trimStart s := List.takeWhile_append_dropWhile.symm
  have hback : trimStart s = trimChars s ++ ((trimStart s).reverse.takeWhile isBlank).reverse := by
    have h := congrArg List.reverse
      (List.takeWhile_append_dropWhile (p := isBlank) (l := (trimStart s).reverse))
    rw [List.reverse_append, List.reverse_reverse] at h
    exact h.symm
  refine ⟨_, _, fun c hc => List.mem_takeWhile_imp hc, fun c hc => ?_, hfront.trans (by rw [← hback])⟩
  exact List.mem_takeWhile_imp (List.mem_reverse.mp hc)

theorem trimChars_eq_nil_iff {s : List Char} :
    trimChars s = [] ↔ ∀ c ∈ s, isBlank c = true := by
  constructor
  · intro h c hc
    obtain ⟨a, b, ha, hb, hs⟩ := exists_trimChars_append s
    rw [h, List.nil_append] at hs
    rw [hs] at hc
    rcases List.mem_append.mp hc with hc | hc
    · exact ha c hc
    · exact hb c hc
  · intro h
    have hstart : trimStart s = [] := List.dropWhile_eq_nil_iff.mpr h
    rw [trimChars, hstart, trimEnd_nil]

/-- **Nothing is left only of a blank text.** -/
theorem trim_eq_empty_iff {t : String} : trim t = "" ↔ ∀ c ∈ t.toList, isBlank c = true := by
  rw [← trimChars_eq_nil_iff, ← toList_trim, String.toList_eq_nil_iff]

/-- No blank is a digit. -/
theorem isDigit_eq_false_of_isBlank {c : Char} (hc : isBlank c = true) : c.isDigit = false := by
  cases hd : c.isDigit with
  | false => rfl
  | true =>
    obtain ⟨hlow, hhigh⟩ := Char.isDigit_iff_toNat.mp hd
    have hzero : '0'.toNat = 48 := rfl
    have hnine : '9'.toNat = 57 := rfl
    simp only [isBlank, Bool.or_eq_true, Bool.and_eq_true, decide_eq_true_eq, beq_iff_eq] at hc
    omega

/-- No blank is a letter, a number or an underscore. -/
theorem isWord_eq_false_of_isBlank {c : Char} (hc : isBlank c = true) : isWord c = false := by
  let blanks := [0x09, 0x0A, 0x0B, 0x0C, 0x0D, 0x20, 0x85, 0xA0, 0x1680, 0x2000, 0x2001, 0x2002,
    0x2003, 0x2004, 0x2005, 0x2006, 0x2007, 0x2008, 0x2009, 0x200A, 0x2028, 0x2029, 0x202F, 0x205F,
    0x3000]
  have hmem : c.toNat ∈ blanks := by
    simp only [isBlank, Bool.or_eq_true, Bool.and_eq_true, decide_eq_true_eq, beq_iff_eq] at hc
    simp only [blanks, List.mem_cons, List.not_mem_nil, or_false]
    omega
  have hall : ∀ n ∈ blanks, isWord (Char.ofNat n) = false := by decide +kernel
  rw [← Char.ofNat_toNat c]
  exact hall c.toNat hmem

end DiceRoller.Text
