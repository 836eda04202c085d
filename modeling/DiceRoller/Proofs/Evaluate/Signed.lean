/-
# Sums in signed words

The dice are added up in signed words, where a sum that is too large would wrap around. This file
says what the operations come to in the integers, so that no proof behind it has to speak of machine
arithmetic.

The checked operations are stated as they are used: an operation gives a word exactly when the
integer it computes is a signed word, and then it gives that integer (`bind_signed?_eq_some_iff`,
once for both signs). The sum has no check, and is exact as long as the exact sum fits; the
induction is over the dice that are still to be added, and since the sum never goes down, a last sum
that fits makes all of them fit.

* `toInt_sumOf`: the sum of the dice is exact as long as the exact sum fits.
* `plus_eq_some_iff`, `minus_eq_some_iff`: a magnitude is applied exactly when it and the result
  fit, and then the result is exact.
* `outcomeOf_eq_error`: nothing else makes an outcome fail.
* `comesTo_of_outcomeOf_eq_ok`: all outcomes that dice can come to. Proofs about outcomes split into
  these cases.
* `sum_map_toNat_le`, `toNat_digits`: dice within the limits stay far below the greatest words.
-/
import DiceRoller.Evaluate
import Mathlib.Algebra.Order.BigOperators.Group.List
import Mathlib.Algebra.Order.Group.Nat
import Mathlib.Algebra.Ring.Int.Defs
import Mathlib.Algebra.Ring.Nat

namespace DiceRoller

/-! ## 1. Words and integers -/

theorem fitsSigned_iff {n : Int} : fitsSigned n = true ↔ -(2 ^ 63) ≤ n ∧ n < 2 ^ 63 := by
  have hmax : Int64.maxValue.toInt = 2 ^ 63 - 1 := rfl
  have hmin : Int64.minValue.toInt = -(2 ^ 63) := rfl
  rw [fitsSigned, Bool.and_eq_true, decide_eq_true_iff, decide_eq_true_iff, hmin, hmax]
  omega

theorem fitsSigned_natCast_iff {n : Nat} : fitsSigned n = true ↔ n < 2 ^ 63 := by
  rw [fitsSigned_iff]
  omega

/-- A signed word is written as the integer that it stands for. -/
theorem signedNumeral_eq_repr (n : Int64) : Text.signedNumeral n = n.toInt.repr := by
  rw [Text.signedNumeral, Int.repr_eq_if]
  by_cases h : n.toInt < 0
  · have habs : n.toInt.natAbs = (-n.toInt).toNat := by omega
    rw [if_pos h, if_neg (by omega), habs]
  · have habs : n.toInt.natAbs = n.toInt.toNat := by omega
    rw [if_neg h, if_pos (by omega), habs]

theorem toInt_toInt64 {n : UInt64} (h : n.toNat < 2 ^ 63) : n.toInt64.toInt = n.toNat := by
  have hn : 2 * n.toBitVec.toNat < 2 ^ 64 := by
    have : n.toBitVec.toNat = n.toNat := rfl
    omega
  exact BitVec.toInt_eq_toNat_of_lt hn

theorem toInt_add_of_fits {a b : Int64} (h : fitsSigned (a.toInt + b.toInt) = true) :
    (a + b).toInt = a.toInt + b.toInt := by
  rw [fitsSigned_iff] at h
  rw [Int64.toInt_add, Int.bmod_eq_of_le (by omega) (by omega)]

theorem toInt_sub_of_fits {a b : Int64} (h : fitsSigned (a.toInt - b.toInt) = true) :
    (a - b).toInt = a.toInt - b.toInt := by
  rw [fitsSigned_iff] at h
  rw [Int64.toInt_sub, Int.bmod_eq_of_le (by omega) (by omega)]

/-! ## 2. The sum of the dice -/

/-- By induction on the dice that are still to be added. The sum never goes down, so if the last one
fits, all of them do. -/
theorem toInt_foldl_add {rolls : List UInt64} {a : Int64} (ha : 0 ≤ a.toInt)
    (h : a.toInt + (rolls.map UInt64.toNat).sum < 2 ^ 63) :
    (rolls.foldl (fun sum n => sum + n.toInt64) a).toInt =
      a.toInt + (rolls.map UInt64.toNat).sum := by
  induction rolls generalizing a with
  | nil => simp
  | cons n rolls ih =>
    rw [List.map_cons, List.sum_cons, Int.natCast_add] at h ⊢
    have hn : n.toInt64.toInt = n.toNat := toInt_toInt64 (by omega)
    have hstep : (a + n.toInt64).toInt = a.toInt + n.toNat := by
      rw [toInt_add_of_fits (fitsSigned_iff.mpr (by omega)), hn]
    rw [List.foldl_cons, ih (by omega) (by omega), hstep, Int.add_assoc]

/-- **The dice are added up exactly**, as long as the exact sum is a signed word. -/
theorem toInt_sumOf {rolls : List UInt64} (h : (rolls.map UInt64.toNat).sum < 2 ^ 63) :
    (sumOf rolls).toInt = (rolls.map UInt64.toNat).sum := by
  have hzero : (0 : Int64).toInt = 0 := rfl
  rw [sumOf, toInt_foldl_add (by omega) (by omega), hzero, Int.zero_add]

/-- No more than a hundred dice with no more than a million sides come to no more than a hundred
million. -/
theorem sum_map_toNat_le {rolls : List UInt64} (hlength : rolls.length ≤ 100)
    (hrolls : ∀ r ∈ rolls, r.toNat ≤ 1000000) :
    (rolls.map UInt64.toNat).sum ≤ 100000000 := by
  have hsum : (rolls.map UInt64.toNat).sum ≤ (rolls.map UInt64.toNat).length * 1000000 := by
    refine List.sum_le_card_nsmul _ _ fun n hn => ?_
    obtain ⟨r, hr, rfl⟩ := List.mem_map.mp hn
    exact hrolls r hr
  rw [List.length_map] at hsum
  have := Nat.mul_le_mul_right 1000000 hlength
  omega

/-- Two digits are put together in words without leaving them. -/
theorem toNat_digits {tens ones : UInt64} (htens : tens.toNat ≤ 1000000)
    (hones : ones.toNat ≤ 1000000) :
    (tens * 10).toNat = 10 * tens.toNat ∧ (tens * 10 + ones).toNat = 10 * tens.toNat + ones.toNat := by
  have h10 : (10 : UInt64).toNat = 10 := rfl
  have hproduct : (tens * 10).toNat = 10 * tens.toNat := by
    rw [UInt64.toNat_mul, h10, Nat.mod_eq_of_lt (by omega), Nat.mul_comm]
  refine ⟨hproduct, ?_⟩
  rw [UInt64.toNat_add, hproduct, Nat.mod_eq_of_lt (by omega)]

/-! ## 3. Magnitudes -/

/-- An operation that gives a word `a` only under a condition, and then the word of the integer `x`.
-/
theorem ite_some_eq_some_iff {p : Prop} [Decidable p] {a c : Int64} {x : Int}
    (h : p → a.toInt = x) : (if p then some a else none) = some c ↔ p ∧ c.toInt = x := by
  split
  · rename_i hp
    rw [Option.some.injEq, ← Int64.toInt_inj, h hp]
    exact ⟨fun hc => ⟨hp, hc.symm⟩, fun hc => hc.2.symm⟩
  · rename_i hp
    exact ⟨fun hc => absurd hc (by simp), fun hc => absurd hc.1 hp⟩

theorem signed?_eq_some_iff {n : UInt64} {a : Int64} :
    signed? n = some a ↔ n.toNat < 2 ^ 63 ∧ a.toInt = n.toNat := by
  rw [signed?, ite_some_eq_some_iff fun h => toInt_toInt64 (fitsSigned_natCast_iff.mp h),
    fitsSigned_natCast_iff]

theorem addSigned?_eq_some_iff {a b c : Int64} :
    addSigned? a b = some c ↔ fitsSigned (a.toInt + b.toInt) = true ∧ c.toInt = a.toInt + b.toInt :=
  ite_some_eq_some_iff toInt_add_of_fits

theorem subSigned?_eq_some_iff {a b c : Int64} :
    subSigned? a b = some c ↔ fitsSigned (a.toInt - b.toInt) = true ∧ c.toInt = a.toInt - b.toInt :=
  ite_some_eq_some_iff toInt_sub_of_fits

/-- A checked operation `f` that computes the integer operation `g` is applied to a magnitude
exactly when the magnitude and the result fit. -/
theorem bind_signed?_eq_some_iff {f : Int64 → Option Int64} {g : Int → Int}
    (hf : ∀ a c, f a = some c ↔ fitsSigned (g a.toInt) = true ∧ c.toInt = g a.toInt)
    {n : UInt64} {total : Int64} :
    (signed? n).bind f = some total ↔
      n.toNat < 2 ^ 63 ∧ fitsSigned (g n.toNat) = true ∧ total.toInt = g n.toNat := by
  rw [Option.bind_eq_some_iff]
  constructor
  · rintro ⟨a, ha, htotal⟩
    obtain ⟨hn, han⟩ := signed?_eq_some_iff.mp ha
    rw [hf, han] at htotal
    exact ⟨hn, htotal⟩
  · rintro ⟨hn, htotal⟩
    have ha := toInt_toInt64 hn
    refine ⟨n.toInt64, signed?_eq_some_iff.mpr ⟨hn, ha⟩, (hf _ _).mpr ?_⟩
    rwa [ha]

/-- It is not applied exactly when one of the two does not fit. -/
theorem bind_signed?_eq_none_iff {f : Int64 → Option Int64} {g : Int → Int}
    (hf : ∀ a c, f a = some c ↔ fitsSigned (g a.toInt) = true ∧ c.toInt = g a.toInt)
    {n : UInt64} :
    (signed? n).bind f = none ↔ ¬ (n.toNat < 2 ^ 63 ∧ fitsSigned (g n.toNat) = true) := by
  constructor
  · rintro hnone ⟨hn, hfits⟩
    obtain ⟨hlow, hhigh⟩ := fitsSigned_iff.mp hfits
    have htotal : (Int64.ofInt (g n.toNat)).toInt = g n.toNat :=
      Int64.toInt_ofInt_of_le (by omega) (by omega)
    rw [(bind_signed?_eq_some_iff hf).mpr ⟨hn, hfits, htotal⟩] at hnone
    exact absurd hnone (by simp)
  · intro hnot
    refine Option.eq_none_iff_forall_ne_some.mpr fun total htotal => ?_
    obtain ⟨hn, hfits, -⟩ := (bind_signed?_eq_some_iff hf).mp htotal
    exact hnot ⟨hn, hfits⟩

/-- **A magnitude is added exactly or not at all.** -/
theorem plus_eq_some_iff {sum total : Int64} {n : UInt64} :
    (signed? n).bind (addSigned? sum) = some total ↔
      n.toNat < 2 ^ 63 ∧ fitsSigned (sum.toInt + n.toNat) = true ∧
        total.toInt = sum.toInt + n.toNat :=
  bind_signed?_eq_some_iff (g := fun x => sum.toInt + x) fun _ _ => addSigned?_eq_some_iff

/-- **A magnitude is taken away exactly or not at all.** -/
theorem minus_eq_some_iff {sum total : Int64} {n : UInt64} :
    (signed? n).bind (subSigned? sum) = some total ↔
      n.toNat < 2 ^ 63 ∧ fitsSigned (sum.toInt - n.toNat) = true ∧
        total.toInt = sum.toInt - n.toNat :=
  bind_signed?_eq_some_iff (g := fun x => sum.toInt - x) fun _ _ => subSigned?_eq_some_iff

theorem plus_eq_none_iff {sum : Int64} {n : UInt64} :
    (signed? n).bind (addSigned? sum) = none ↔
      ¬ (n.toNat < 2 ^ 63 ∧ fitsSigned (sum.toInt + n.toNat) = true) :=
  bind_signed?_eq_none_iff (g := fun x => sum.toInt + x) fun _ _ => addSigned?_eq_some_iff

theorem minus_eq_none_iff {sum : Int64} {n : UInt64} :
    (signed? n).bind (subSigned? sum) = none ↔
      ¬ (n.toNat < 2 ^ 63 ∧ fitsSigned (sum.toInt - n.toNat) = true) :=
  bind_signed?_eq_none_iff (g := fun x => sum.toInt - x) fun _ _ => subSigned?_eq_some_iff

/-! ## 4. Outcomes -/

theorem outcomeOf_add (sides n : UInt64) (rolls : List UInt64) :
    outcomeOf sides (.add n) rolls =
      ((signed? n).bind (addSigned? (sumOf rolls))).elim (.error (.overflow n))
        fun total => .ok ⟨rolls, .plus n, .sum total⟩ := by
  rw [outcomeOf]
  cases (signed? n).bind (addSigned? (sumOf rolls)) <;> rfl

theorem outcomeOf_subtract (sides n : UInt64) (rolls : List UInt64) :
    outcomeOf sides (.subtract n) rolls =
      ((signed? n).bind (subSigned? (sumOf rolls))).elim (.error (.overflow n))
        fun total => .ok ⟨rolls, .minus n, .sum total⟩ := by
  rw [outcomeOf]
  cases (signed? n).bind (subSigned? (sumOf rolls)) <;> rfl

theorem eq_of_elim_eq_error {checked : Option Int64} {f : Int64 → Outcome}
    {reason reason' : RollError}
    (h : checked.elim (.error reason) (fun total => .ok (f total)) = Except.error reason') :
    reason = reason' := by
  cases checked with
  | some total => exact absurd h (by simp)
  | none => exact Except.error.inj h

theorem exists_of_elim_eq_ok {checked : Option Int64} {f : Int64 → Outcome} {reason : RollError}
    {o : Outcome} (h : checked.elim (.error reason) (fun total => .ok (f total)) = Except.ok o) :
    ∃ total, checked = some total ∧ f total = o := by
  cases checked with
  | some total => exact ⟨total, rfl, Except.ok.inj h⟩
  | none => exact absurd h (by simp)

/-- **Only a magnitude makes an outcome fail**, and the error holds it. -/
theorem outcomeOf_eq_error {sides : UInt64} {m : Modifier UInt64} {rolls : List UInt64}
    {reason : RollError} (h : outcomeOf sides m rolls = .error reason) :
    ∃ n, (m = .add n ∨ m = .subtract n) ∧ reason = .overflow n := by
  cases m with
  | plain => exact absurd h (by simp [outcomeOf])
  | percent =>
    rw [outcomeOf] at h
    split at h <;> exact absurd h (by simp)
  | add n =>
    rw [outcomeOf_add] at h
    exact ⟨n, .inl rfl, (eq_of_elim_eq_error h).symm⟩
  | subtract n =>
    rw [outcomeOf_subtract] at h
    exact ⟨n, .inr rfl, (eq_of_elim_eq_error h).symm⟩

/-- What the numbers thrown can come to: a percentage where one is asked for and shown, their sum where
no magnitude is applied, and otherwise the checked total. -/
inductive ComesTo (sides : UInt64) (rolls : List UInt64) : Modifier UInt64 → Outcome → Prop
  | percentage {p : UInt64} (shown : percentage? sides rolls = some p) :
      ComesTo sides rolls .percent ⟨rolls, .percentile, .percent p⟩
  | percentSum (not_shown : percentage? sides rolls = none) :
      ComesTo sides rolls .percent ⟨rolls, .plain, .sum (sumOf rolls)⟩
  | sum : ComesTo sides rolls .plain ⟨rolls, .plain, .sum (sumOf rolls)⟩
  | plus {n : UInt64} {total : Int64}
      (checked : (signed? n).bind (addSigned? (sumOf rolls)) = some total) :
      ComesTo sides rolls (.add n) ⟨rolls, .plus n, .sum total⟩
  | minus {n : UInt64} {total : Int64}
      (checked : (signed? n).bind (subSigned? (sumOf rolls)) = some total) :
      ComesTo sides rolls (.subtract n) ⟨rolls, .minus n, .sum total⟩

theorem comesTo_of_outcomeOf_eq_ok {sides : UInt64} {m : Modifier UInt64} {rolls : List UInt64}
    {o : Outcome} (h : outcomeOf sides m rolls = .ok o) : ComesTo sides rolls m o := by
  cases m with
  | plain =>
    obtain rfl := Except.ok.inj h
    exact .sum
  | percent =>
    rw [outcomeOf] at h
    split at h
    · rename_i p hp
      obtain rfl := Except.ok.inj h
      exact .percentage hp
    · rename_i hnone
      obtain rfl := Except.ok.inj h
      exact .percentSum hnone
  | add n =>
    rw [outcomeOf_add] at h
    obtain ⟨total, hchecked, rfl⟩ := exists_of_elim_eq_ok h
    exact .plus hchecked
  | subtract n =>
    rw [outcomeOf_subtract] at h
    obtain ⟨total, hchecked, rfl⟩ := exists_of_elim_eq_ok h
    exact .minus hchecked

/-- An outcome shows the numbers that were thrown. -/
theorem rolls_of_outcomeOf_eq_ok {sides : UInt64} {m : Modifier UInt64} {rolls : List UInt64}
    {o : Outcome} (h : outcomeOf sides m rolls = .ok o) : o.rolls = rolls := by
  cases comesTo_of_outcomeOf_eq_ok h <;> rfl

end DiceRoller
