/-
# Totals are exact

The dice are added up in signed words, the digits of a percentage are put together in words, and a
magnitude is applied with a check (section 4.2 of the specification). Within the limits none of this
can go wrong before the check: the sum stays at a hundred million or below at every step. So every
total is the integer that the notation asks for, and a magnitude is refused only where that integer,
or the magnitude itself, is no signed word.

`FitsThroughout` names what has to hold on the way: each number keeps its value as a signed word,
every partial sum is the exact one, and so are the product and the sum of two digits. `IsTotal` is
the total in exact arithmetic, from the modifier and the resolved shape. It does not mention how the
program computes it.

* `fitsThroughout_of_faces`: no step of the arithmetic leaves its machine type. The first dice of a
  roll are within the limits too, so one bound serves all partial sums.
* `isTotal_of_outcomeOf_eq_ok`: every total is exact, and a percentage only where the shape of the
  dice allows one.
* `outcomeOf_add_eq_error_iff`: when a magnitude is too large to be added.
* `evaluate_exact`: both for every evaluation within the limits, and when it fails.

Magnitudes to take away are covered as far as they are signed words. The larger ones are in
`Proofs/Evaluate/Subtraction.lean`.
-/
import DiceRoller.Dice.Prepared
import DiceRoller.Proofs.Evaluate.Effects

namespace DiceRoller

variable {rolls : List UInt64}

/-! ## 1. The arithmetic on the way -/

/-- No step of the arithmetic on these numbers leaves its machine type. -/
structure FitsThroughout (rolls : List UInt64) : Prop where
  /-- Every number keeps its value as a signed word. -/
  casts : ∀ r ∈ rolls, r.toInt64.toInt = r.toNat
  /-- Every sum on the way is the exact one. -/
  sums : ∀ k, (sumOf (rolls.take k)).toInt = ((rolls.take k).map UInt64.toNat).sum
  /-- The product and the sum that put two digits together are exact. -/
  digits : ∀ tens ones, rolls = [tens, ones] →
    (tens * 10).toNat = 10 * tens.toNat ∧ (tens * 10 + ones).toNat = 10 * tens.toNat + ones.toNat

/-- The last sum is that of all the dice. -/
theorem FitsThroughout.toInt_sumOf (h : FitsThroughout rolls) :
    (sumOf rolls).toInt = (rolls.map UInt64.toNat).sum := by
  have hall := h.sums rolls.length
  rwa [List.take_length] at hall

/-- **Dice within the limits fit throughout.**  The first dice are dice within the limits too, so the
bound on their sum holds at every step. -/
theorem fitsThroughout_of_faces {sides : UInt64} (hlength : rolls.length ≤ 100)
    (hsides : sides ≤ 1000000) (hfaces : ∀ r ∈ rolls, IsFace sides r) : FitsThroughout rolls := by
  have hrolls : ∀ r ∈ rolls, r.toNat ≤ 1000000 := fun r hr =>
    UInt64.le_iff_toNat_le.mp (UInt64.le_trans (hfaces r hr).2 hsides)
  refine ⟨fun r hr => ?_, fun k => ?_, ?_⟩
  · have := hrolls r hr
    exact toInt_toInt64 (by omega)
  · have hk : ((rolls.take k).map UInt64.toNat).sum ≤ 100000000 :=
      sum_map_toNat_le (by rw [List.length_take]; omega)
        fun r hr => hrolls r (List.mem_of_mem_take hr)
    exact DiceRoller.toInt_sumOf (by omega)
  · rintro tens ones rfl
    exact toNat_digits (hrolls tens (by simp)) (hrolls ones (by simp))

/-! ## 2. The total that the notation asks for -/

/-- What a modifier adds to the sum of the dice. -/
def Modifier.shift : Modifier UInt64 → Int
  | .plain | .percent => 0
  | .add n => n.toNat
  | .subtract n => -n.toNat

/-- The total of these numbers, thrown with dice of this shape, in exact arithmetic: the percentage of
two dice with ten sides or of one die with a hundred, where one is asked for, and in every other case
the sum of the dice with the magnitude of the modifier. -/
inductive IsTotal (m : Modifier UInt64) (count sides : UInt64) : List UInt64 → Total → Prop
  | digits {tens ones p : UInt64} (percent : m = .percent) (shape : count = 2 ∧ sides = 10)
      (value : p.toNat = 10 * tens.toNat + ones.toNat) :
      IsTotal m count sides [tens, ones] (.percent p)
  | die {p : UInt64} (percent : m = .percent) (shape : count = 1 ∧ sides = 100) :
      IsTotal m count sides [p] (.percent p)
  | sum {rolls : List UInt64} {total : Int64}
      (other : ¬ (m = .percent ∧ (count = 2 ∧ sides = 10 ∨ count = 1 ∧ sides = 100)))
      (value : total.toInt = (rolls.map UInt64.toNat).sum + m.shift) :
      IsTotal m count sides rolls (.sum total)

/-- Numbers that show no percentage are not two dice with ten sides, nor one with a hundred. -/
theorem not_shape_of_percentage?_eq_none {count sides : UInt64}
    (hlength : rolls.length = count.toNat) (h : percentage? sides rolls = none) :
    ¬ (count = 2 ∧ sides = 10 ∨ count = 1 ∧ sides = 100) := by
  rintro (⟨rfl, rfl⟩ | ⟨rfl, rfl⟩)
  · obtain ⟨tens, ones, rfl⟩ := List.length_eq_two.mp hlength
    exact absurd h (by simp [percentage?])
  · obtain ⟨value, rfl⟩ := List.length_eq_one_iff.mp hlength
    exact absurd h (by simp [percentage?])

/-- A percentage is read off two dice with ten sides or one with a hundred. -/
theorem isTotal_percent {count sides p : UInt64} (hlength : rolls.length = count.toNat)
    (hfits : FitsThroughout rolls) (h : percentage? sides rolls = some p) :
    IsTotal .percent count sides rolls (.percent p) := by
  unfold percentage? at h
  split at h
  · rename_i tens ones
    split at h
    · rename_i hsides
      have hcount : count = 2 := UInt64.toNat_inj.mp hlength.symm
      obtain rfl := Option.some.inj h
      exact .digits rfl ⟨hcount, hsides⟩ (hfits.digits tens ones rfl).2
    · exact absurd h (by simp)
  · rename_i value
    split at h
    · rename_i hsides
      have hcount : count = 1 := UInt64.toNat_inj.mp hlength.symm
      obtain rfl := Option.some.inj h
      exact .die rfl ⟨hcount, hsides⟩
    · exact absurd h (by simp)
  · exact absurd h (by simp)

/-- **Every total is the one that the notation asks for.** -/
theorem isTotal_of_outcomeOf_eq_ok {m : Modifier UInt64} {count sides : UInt64} {o : Outcome}
    (hlength : rolls.length = count.toNat) (hfits : FitsThroughout rolls)
    (h : outcomeOf sides m rolls = .ok o) : IsTotal m count sides rolls o.total := by
  have hsum := hfits.toInt_sumOf
  have hplain : (sumOf rolls).toInt = (rolls.map UInt64.toNat).sum + 0 := by omega
  cases comesTo_of_outcomeOf_eq_ok h with
  | percentage hp => exact isTotal_percent hlength hfits hp
  | percentSum hnone =>
    -- the dice are as many as the shape says, so a shape with a percentage would have shown one
    exact .sum (fun hshape => not_shape_of_percentage?_eq_none hlength hnone hshape.2) hplain
  | sum => exact .sum (by simp) hplain
  | plus hchecked =>
    obtain ⟨-, -, htotal⟩ := plus_eq_some_iff.mp hchecked
    exact .sum (by simp) (by rw [htotal, hsum, Modifier.shift])
  | minus hchecked =>
    obtain ⟨-, -, htotal⟩ := minus_eq_some_iff.mp hchecked
    exact .sum (by simp) (by rw [htotal, hsum, Modifier.shift, Int.sub_eq_add_neg])

/-! ## 3. When a magnitude is refused -/

/-- **A magnitude is too large to add exactly when the integer it leads to is no signed word.** -/
theorem outcomeOf_add_eq_error_iff {sides n : UInt64} {reason : RollError}
    (hfits : FitsThroughout rolls) :
    outcomeOf sides (.add n) rolls = .error reason ↔
      reason = .overflow n ∧ 2 ^ 63 - 1 < (rolls.map UInt64.toNat).sum + n.toNat := by
  have hsum := hfits.toInt_sumOf
  rw [outcomeOf_add]
  cases hchecked : (signed? n).bind (addSigned? (sumOf rolls)) with
  | none =>
    have hnot := plus_eq_none_iff.mp hchecked
    rw [fitsSigned_iff] at hnot
    constructor
    · intro h
      exact ⟨(Except.error.inj h).symm, by omega⟩
    · rintro ⟨rfl, -⟩
      rfl
  | some total =>
    obtain ⟨-, hfit, -⟩ := plus_eq_some_iff.mp hchecked
    rw [fitsSigned_iff] at hfit
    constructor
    · intro h
      exact absurd h (by simp)
    · rintro ⟨-, hlarge⟩
      omega

/-- A magnitude that is a signed word can always be taken away: the sum is not negative. -/
theorem outcomeOf_subtract_ne_error {sides n : UInt64} (hfits : FitsThroughout rolls)
    (hn : n.toNat ≤ 2 ^ 63 - 1) (reason : RollError) :
    outcomeOf sides (.subtract n) rolls ≠ .error reason := by
  have hsum := hfits.toInt_sumOf
  have hlt := Int64.toInt_lt (sumOf rolls)
  rw [outcomeOf_subtract]
  cases hchecked : (signed? n).bind (subSigned? (sumOf rolls)) with
  | none =>
    have hnot := minus_eq_none_iff.mp hchecked
    rw [fitsSigned_iff] at hnot
    omega
  | some total => simp

theorem exists_ok_of_ne_error {ε α : Type} {r : Except ε α} (h : ∀ reason, r ≠ .error reason) :
    ∃ a, r = .ok a := by
  cases r with
  | ok a => exact ⟨a, rfl⟩
  | error reason => exact absurd rfl (h reason)

/-! ## 4. Every evaluation within the limits -/

variable {σ : Type}

/-- **Within the limits every total is exact.**  Let a dice set ask for `count` dice with `sides`
sides, both within the limits, and let the dice show faces. Then no step of the arithmetic leaves its
machine type, an outcome shows the numbers thrown, and its total is the one that the notation asks
for. A magnitude to add leads to an error exactly when the integer it leads to is too large, and the
error holds it; a magnitude to take away leads to none if it is a signed word; and without a magnitude
there is always an outcome. -/
theorem evaluate_exact {source : DiceSource σ} {e : Expression} {s : σ} {count sides : UInt64}
    (hcount : FilledIn 1 e.count count) (hsides : FilledIn 100 e.sides sides)
    (hthrows : count ≤ 100) (hfaces : sides ≤ 1000000)
    (hanswers : ∀ r ∈ source.answers sides count.toNat s, IsFace sides r) :
    let rolls := source.answers sides count.toNat s
    let sum := (rolls.map UInt64.toNat).sum
    let result := (e.evaluate source s).value
    FitsThroughout rolls ∧
    (∀ o, result = .ok o → o.rolls = rolls ∧ IsTotal e.modifier count sides rolls o.total) ∧
    (∀ n, e.modifier = .add n →
      ∀ reason, result = .error reason ↔ reason = .overflow n ∧ 2 ^ 63 - 1 < sum + n.toNat) ∧
    (∀ n, e.modifier = .subtract n → n.toNat ≤ 2 ^ 63 - 1 → ∃ o, result = .ok o) ∧
    (e.modifier = .plain ∨ e.modifier = .percent → ∃ o, result = .ok o) := by
  intro rolls sum result
  -- within the limits the result is the outcome of the answers
  have hshape : e.shape = .ok ⟨count, sides⟩ := by
    rw [← hcount.orDefault_eq] at hthrows ⊢
    rw [← hsides.orDefault_eq] at hfaces ⊢
    exact DiceSet.shape_of_le hthrows hfaces
  have hresult : result = outcomeOf sides e.modifier rolls := by
    rw [show result = (e.evaluate source s).value from rfl,
      DiceSet.evaluate_of_shape_eq_ok hshape]
  -- there are at most a hundred faces, so no sum of them leaves its machine type
  have hlength : rolls.length = count.toNat := DiceSource.length_answers source sides count.toNat s
  have hthrows' : rolls.length ≤ 100 := by
    rw [hlength]
    exact UInt64.le_iff_toNat_le.mp hthrows
  have hfits := fitsThroughout_of_faces hthrows' hfaces hanswers
  -- what remains is about these numbers and the modifier
  rw [hresult]
  refine ⟨hfits, fun o ho => ?_, fun n hn reason => ?_, fun n hn hle => ?_, fun hm => ?_⟩
  · exact ⟨rolls_of_outcomeOf_eq_ok ho, isTotal_of_outcomeOf_eq_ok hlength hfits ho⟩
  · rw [hn]
    exact outcomeOf_add_eq_error_iff hfits
  · rw [hn]
    exact exists_ok_of_ne_error (outcomeOf_subtract_ne_error hfits hle)
  · refine exists_ok_of_ne_error fun reason hreason => ?_
    obtain ⟨n, hn, -⟩ := outcomeOf_eq_error hreason
    rcases hm with hm | hm <;> rcases hn with hn | hn <;> rw [hm] at hn <;> cases hn

/-- A hundred dice with a million sides that all show their highest face, and the least magnitude that
is too large to be added to them. -/
theorem evaluate_exact_hundred_highest :
    FilledIn 1 (some 100) 100 ∧ FilledIn 100 (some 1000000) 1000000 ∧
    (∀ r ∈ preparedDice.answers 1000000 100 (.ofList []), IsFace 1000000 r) ∧
    (DiceSet.evaluate preparedDice ⟨some 100, some 1000000, .add 9223372036754775808⟩
      (.ofList [])).value = .error (.overflow 9223372036754775808) := by
  have hcount : FilledIn 1 (some 100) 100 := .written (by decide)
  have hsides : FilledIn 100 (some 1000000) 1000000 := .written (by decide)
  have hrolls : preparedDice.answers 1000000 100 (.ofList []) = List.replicate 100 1000000 := rfl
  have hfaces : ∀ r ∈ preparedDice.answers 1000000 100 (.ofList []), IsFace 1000000 r := by
    intro r hr
    rw [hrolls] at hr
    rw [List.eq_of_mem_replicate hr]
    exact ⟨by decide, UInt64.le_refl _⟩
  obtain ⟨-, -, hadd, -⟩ :=
    evaluate_exact (e := ⟨some 100, some 1000000, .add 9223372036754775808⟩) hcount hsides
      (by decide) (by decide) hfaces
  refine ⟨hcount, hsides, hfaces, (hadd _ rfl _).mpr ⟨rfl, ?_⟩⟩
  have hsum : ((preparedDice.answers 1000000 (100 : UInt64).toNat (.ofList [])).map
      UInt64.toNat).sum = 100000000 := by
    rw [show (100 : UInt64).toNat = 100 from rfl, hrolls, List.map_replicate, List.sum_replicate]
    rfl
  have hn : (9223372036754775808 : UInt64).toNat = 9223372036754775808 := rfl
  rw [hsum, hn]
  decide

end DiceRoller
