/-
# Reading numerals

A run of digits is read digit by digit, and cut off at the greatest word as soon as it passes it.
That comes to the same as one cut at the end. A numeral is a run of digits without superfluous
zeros, and reading it gives the number that was written: no word is so large that it would be cut
off.

The library writes numbers (`Nat.toDigits`) and knows the value of digits (`Nat.ofDigitChars`); what
is proved here is that the two fit together, for runs that are numerals. A run of digits is built up
from the left, so the induction for it is on the digits that follow a positive number.

* `toNat_saturated`: cutting off at every digit is cutting off once at the end.
* `saturated_numeral`: every word is read back from its numeral.
* `isNumeral_iff`: the runs of digits that are numerals of words are exactly those without a
  superfluous zero and with a value that is a word.
* `numeral_inj`, `signedNumeral_inj`: no two words are written alike, and no two signed words.
* `not_mem_numeral`, `not_mem_signedNumeral`: numerals hold only digits and, in front, a minus sign.
  This is how a mark next to a number is told from it.
-/
import DiceRoller.Text.Decimal
import Mathlib.Algebra.Ring.Nat
import Mathlib.Data.List.Basic

namespace DiceRoller.Text

/-! ## 1. Cutting off -/

theorem toNat_ofNatClamp (n : Nat) :
    (UInt64.ofNatClamp n).toNat = min n (2 ^ 64 - 1) := by
  have size : UInt64.size = 2 ^ 64 := rfl
  unfold UInt64.ofNatClamp
  split <;> simp only [UInt64.toNat_ofNatLT] <;> omega

/-- Once the greatest word is reached, more digits leave it there: cutting off at every digit is
cutting off once at the end. -/
theorem toNat_saturated (ds : List Char) :
    (saturated ds).toNat = min (digitsValue ds) (2 ^ 64 - 1) := by
  have key : ∀ (ds : List Char) (w : UInt64) (n : Nat), w.toNat = min n (2 ^ 64 - 1) →
      (ds.foldl appendDigit w).toNat = min (Nat.ofDigitChars 10 ds n) (2 ^ 64 - 1) := by
    intro ds
    induction ds with
    | nil => intro w n h; simpa [Nat.ofDigitChars] using h
    | cons d ds ih =>
      intro w n h
      rw [List.foldl_cons, ih (appendDigit w d) (10 * n + (d.toNat - '0'.toNat)) ?_]
      · simp [Nat.ofDigitChars]
      · rw [appendDigit, toNat_ofNatClamp, h]; omega
  exact key ds 0 0 (by simp)

/-! ## 2. Reading what was written -/

theorem toList_numeral (n : UInt64) : (numeral n).toList = Nat.toDigits 10 n.toNat :=
  Nat.toList_repr

theorem isDigit_of_mem_numeral {n : UInt64} {c : Char} (h : c ∈ (numeral n).toList) :
    c.isDigit = true := by
  rw [toList_numeral] at h
  exact Nat.isDigit_of_mem_toDigits (by decide) (by decide) h

theorem numeral_ne_nil (n : UInt64) : (numeral n).toList ≠ [] := by
  rw [toList_numeral]
  exact Nat.toDigits_ne_nil

theorem digitsValue_numeral (n : UInt64) : digitsValue (numeral n).toList = n.toNat := by
  rw [toList_numeral]
  exact Nat.ofDigitChars_ten_toDigits

/-- **Every word is read back from its numeral.** -/
theorem saturated_numeral (n : UInt64) : saturated (numeral n).toList = n := by
  have hn : n.toNat < 2 ^ 64 := n.toNat_lt
  apply UInt64.toNat_inj.mp
  rw [toNat_saturated, digitsValue_numeral]
  omega

/-! ## 3. Which runs of digits are numerals -/

/-- The numeral of a word: digits without superfluous zeros, of a value that is no greater than the
greatest word. -/
structure IsNumeral (ds : List Char) : Prop where
  ne_nil : ds ≠ []
  digits : ∀ c ∈ ds, c.isDigit = true
  leading : ds.head? = some '0' → ds = ['0']
  value_le : digitsValue ds ≤ 2 ^ 64 - 1

theorem digitChar_of_isDigit {c : Char} (h : c.isDigit = true) :
    c.toNat - '0'.toNat < 10 ∧ (c.toNat - '0'.toNat).digitChar = c := by
  obtain ⟨hlow, hhigh⟩ := Char.isDigit_iff_toNat.mp h
  have hzero : '0'.toNat = 48 := rfl
  have hnine : '9'.toNat = 57 := rfl
  have hlt : c.toNat - '0'.toNat < 10 := by omega
  refine ⟨hlt, Char.toNat_inj.mp ?_⟩
  rw [Nat.toNat_digitChar_of_lt_ten hlt]
  omega

/-- Digits that are written behind the numeral of a positive number go on with it. -/
theorem toDigits_append_digits {n : Nat} {ds : List Char} (hn : 0 < n)
    (hds : ∀ c ∈ ds, c.isDigit = true) :
    Nat.toDigits 10 n ++ ds = Nat.toDigits 10 (Nat.ofDigitChars 10 ds n) := by
  induction ds generalizing n with
  | nil => simp [Nat.ofDigitChars_nil]
  | cons d ds ih =>
    obtain ⟨hlt, hchar⟩ := digitChar_of_isDigit (hds d List.mem_cons_self)
    have hone := Nat.toDigits_append_toDigits (b := 10) (by decide) hn hlt
    rw [Nat.toDigits_of_lt_base hlt, hchar] at hone
    calc Nat.toDigits 10 n ++ d :: ds
        = (Nat.toDigits 10 n ++ [d]) ++ ds := by simp
      _ = Nat.toDigits 10 (10 * n + (d.toNat - '0'.toNat)) ++ ds := by rw [hone]
      _ = Nat.toDigits 10 (Nat.ofDigitChars 10 (d :: ds) n) := by
          rw [ih (by omega) fun c hc => hds c (List.mem_cons_of_mem d hc), Nat.ofDigitChars_cons]

/-- Digits with no zero in front are the numeral of their value. -/
theorem toDigits_digitsValue {d : Char} {ds : List Char}
    (hds : ∀ c ∈ d :: ds, c.isDigit = true) (hd : d ≠ '0') :
    Nat.toDigits 10 (digitsValue (d :: ds)) = d :: ds := by
  obtain ⟨hlt, hchar⟩ := digitChar_of_isDigit (hds d List.mem_cons_self)
  have hpos : 0 < d.toNat - '0'.toNat := by
    rw [Nat.pos_iff_ne_zero]
    intro hzero
    rw [hzero] at hchar
    exact hd hchar.symm
  have h := toDigits_append_digits hpos fun c hc => hds c (List.mem_cons_of_mem d hc)
  rw [Nat.toDigits_of_lt_base hlt, hchar] at h
  rw [digitsValue, Nat.ofDigitChars_cons, Nat.mul_zero, Nat.zero_add, ← h, List.singleton_append]

theorem eq_zero_of_head?_toDigits {n : Nat} (h : (Nat.toDigits 10 n).head? = some '0') :
    n = 0 := by
  induction n using Nat.strong_induction_on with
  | _ n ih =>
    rcases Nat.lt_or_ge n 10 with hn | hn
    · rw [Nat.toDigits_of_lt_base hn, List.head?_cons, Option.some_inj] at h
      exact Nat.digitChar_eq_zero.mp h
    · rw [Nat.toDigits_of_base_le (by decide) hn,
        List.head?_append_of_ne_nil _ Nat.toDigits_ne_nil] at h
      have := ih (n / 10) (by omega) h
      omega

theorem isNumeral_numeral (n : UInt64) : IsNumeral (numeral n).toList where
  ne_nil := numeral_ne_nil n
  digits _ h := isDigit_of_mem_numeral h
  leading h := by
    rw [toList_numeral] at h ⊢
    rw [eq_zero_of_head?_toDigits h, Nat.toDigits_zero]
  value_le := by
    have := n.toNat_lt
    rw [digitsValue_numeral]
    omega

/-- **A run of digits is a numeral exactly when some word is written so.** -/
theorem isNumeral_iff {ds : List Char} :
    IsNumeral ds ↔ ∃ n : UInt64, (numeral n).toList = ds := by
  refine ⟨fun h => ?_, ?_⟩
  · obtain ⟨d, rest, rfl⟩ := List.exists_cons_of_ne_nil h.ne_nil
    by_cases hd : d = '0'
    · have hzero : d :: rest = ['0'] := h.leading (by rw [List.head?_cons, hd])
      exact ⟨0, hzero ▸ rfl⟩
    · refine ⟨UInt64.ofNat (digitsValue (d :: rest)), ?_⟩
      have hlt : digitsValue (d :: rest) < 2 ^ 64 := by
        have := h.value_le
        omega
      rw [toList_numeral, UInt64.toNat_ofNat_of_lt' hlt, toDigits_digitsValue h.digits hd]
  · rintro ⟨n, rfl⟩
    exact isNumeral_numeral n

/-! ## 4. No two numbers are written alike -/

theorem not_mem_toDigits {c : Char} (hc : c.isDigit = false) (n : Nat) : c ∉ Nat.toDigits 10 n := by
  intro h
  rw [Nat.isDigit_of_mem_toDigits (by decide) (by decide) h] at hc
  exact absurd hc (by simp)

theorem not_mem_numeral {c : Char} (hc : c.isDigit = false) (n : UInt64) :
    c ∉ (numeral n).toList := by
  rw [toList_numeral]
  exact not_mem_toDigits hc n.toNat

theorem numeral_inj {m n : UInt64} (h : numeral m = numeral n) : m = n := by
  rw [← saturated_numeral m, h, saturated_numeral]

theorem toList_signedNumeral (n : Int64) :
    (signedNumeral n).toList =
      if n.toInt < 0 then '-' :: Nat.toDigits 10 n.toInt.natAbs
      else Nat.toDigits 10 n.toInt.natAbs := by
  unfold signedNumeral
  split <;> simp

theorem not_mem_signedNumeral {c : Char} (hc : c.isDigit = false) (hminus : c ≠ '-') (n : Int64) :
    c ∉ (signedNumeral n).toList := by
  rw [toList_signedNumeral]
  split
  · simp [hminus, not_mem_toDigits hc]
  · exact not_mem_toDigits hc _

theorem minus_mem_signedNumeral_iff (n : Int64) :
    '-' ∈ (signedNumeral n).toList ↔ n.toInt < 0 := by
  rw [toList_signedNumeral]
  split
  · simp [*]
  · simp [*, not_mem_toDigits]

/-- The minus sign tells the sign of a signed word, and the digits tell its magnitude. -/
theorem signedNumeral_inj {m n : Int64} (h : signedNumeral m = signedNumeral n) : m = n := by
  have hsign := minus_mem_signedNumeral_iff m
  rw [h, minus_mem_signedNumeral_iff] at hsign
  have hlist := congrArg String.toList h
  rw [toList_signedNumeral, toList_signedNumeral] at hlist
  have hdigits : Nat.toDigits 10 m.toInt.natAbs = Nat.toDigits 10 n.toInt.natAbs := by
    by_cases hn : n.toInt < 0
    · rw [if_pos hn, if_pos (hsign.mp hn)] at hlist
      exact (List.cons.inj hlist).2
    · rw [if_neg hn, if_neg (mt hsign.mpr hn)] at hlist
      exact hlist
  have habs : m.toInt.natAbs = n.toInt.natAbs := by
    rw [← Nat.ofDigitChars_ten_toDigits (n := m.toInt.natAbs), hdigits,
      Nat.ofDigitChars_ten_toDigits]
  exact Int64.toInt_inj.mp (by omega)

end DiceRoller.Text
