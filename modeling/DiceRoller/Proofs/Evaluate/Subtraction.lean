/-
# Taking a magnitude away

A magnitude is a word, and the dice are added up in signed words. Before it is taken away, the
magnitude itself has to become a signed word. For a sum that is not negative this is a stronger
condition than the one on the difference: there are magnitudes that are no signed words although the
difference is one.

The specification (section 4.2) has an error for a magnitude that cannot be applied without leaving
the signed words. By that rule the magnitudes from `2 ^ 63` up to `2 ^ 63` more than the sum of the
dice could be taken away, for the difference is a signed word. The program refuses them. This file
says exactly which they are, and that everywhere else the two agree.

* `outcomeOf_subtract_eq_error_iff`: a magnitude is refused exactly when it is no signed word. The
  sum plays no part.
* `exists_outcomeOf_subtract_eq_ok`: any other magnitude is taken away exactly.
* `evaluate_subtract`: when a subtraction is refused and when it is exact; and that the magnitudes
  refused without need are those of the band.
* `evaluate_subtract_band_end`, `evaluate_subtract_refused_early`: the ends of the band.

For magnitudes that are added there is no such band: what is no signed word leads to a sum that is
none (`outcomeOf_add_eq_error_iff` in `Proofs/Evaluate/Totals.lean`).
-/
import DiceRoller.Proofs.Evaluate.Totals

namespace DiceRoller

variable {σ : Type} {rolls : List UInt64}

/-! ## 1. When a magnitude is refused -/

/-- **A magnitude is too large to be taken away exactly when it is no signed word.**  The sum plays no
part: it is not negative, so a magnitude that is a signed word leads to a difference that is one. -/
theorem outcomeOf_subtract_eq_error_iff {sides n : UInt64} {reason : RollError}
    (hfits : FitsThroughout rolls) :
    outcomeOf sides (.subtract n) rolls = .error reason ↔
      reason = .overflow n ∧ 2 ^ 63 ≤ n.toNat := by
  have hsum := hfits.toInt_sumOf
  have hlt := Int64.toInt_lt (sumOf rolls)
  rw [outcomeOf_subtract]
  cases hchecked : (signed? n).bind (subSigned? (sumOf rolls)) with
  | none =>
    have hnot := minus_eq_none_iff.mp hchecked
    rw [fitsSigned_iff] at hnot
    constructor
    · intro h
      exact ⟨(Except.error.inj h).symm, by omega⟩
    · rintro ⟨rfl, -⟩
      rfl
  | some total =>
    obtain ⟨hn, -, -⟩ := minus_eq_some_iff.mp hchecked
    constructor
    · intro h
      exact absurd h (by simp)
    · rintro ⟨-, hlarge⟩
      omega

/-- Any other magnitude is taken away exactly. -/
theorem exists_outcomeOf_subtract_eq_ok {n : UInt64} (hfits : FitsThroughout rolls)
    (hn : n.toNat < 2 ^ 63) (sides : UInt64) :
    ∃ o total, outcomeOf sides (.subtract n) rolls = .ok o ∧ o.total = .sum total ∧
      total.toInt = (rolls.map UInt64.toNat).sum - n.toNat := by
  have hnot : ∀ reason, outcomeOf sides (.subtract n) rolls ≠ .error reason := by
    intro reason hreason
    obtain ⟨-, hlarge⟩ := (outcomeOf_subtract_eq_error_iff hfits).mp hreason
    omega
  obtain ⟨o, ho⟩ := exists_ok_of_ne_error hnot
  refine ⟨o, ?_⟩
  rw [ho]
  rw [outcomeOf_subtract] at ho
  obtain ⟨total, hchecked, rfl⟩ := exists_of_elim_eq_ok ho
  obtain ⟨-, -, htotal⟩ := minus_eq_some_iff.mp hchecked
  exact ⟨total, rfl, rfl, by rw [htotal, hfits.toInt_sumOf]⟩

/-! ## 2. Evaluations -/

/-- Within the limits the dice are thrown and read. -/
theorem evaluate_value_of_le {e : Expression} {count sides : UInt64}
    (hcount : FilledIn 1 e.count count) (hsides : FilledIn 100 e.sides sides)
    (hthrows : count ≤ 100) (hfaces : sides ≤ 1000000) (source : DiceSource σ) (s : σ) :
    (e.evaluate source s).value =
      outcomeOf sides e.modifier (source.answers sides count.toNat s) := by
  have hshape : e.shape = .ok ⟨count, sides⟩ := by
    rw [← hcount.orDefault_eq] at hthrows ⊢
    rw [← hsides.orDefault_eq] at hfaces ⊢
    exact DiceSet.shape_of_le hthrows hfaces
  rw [DiceSet.evaluate_of_shape_eq_ok hshape]

/-- **When a subtraction is refused.**  Let a dice set within the limits take the magnitude `n` away,
and let its dice show faces. It is refused exactly when `n` is no signed word, and otherwise the total
is the exact difference. So it is refused exactly when the difference is no signed word, and exact
whenever the difference is one, unless `n` lies in the band from `2 ^ 63` up to `2 ^ 63` more than the
sum of the dice: there the difference is a signed word, and `n` is refused all the same. -/
theorem evaluate_subtract {source : DiceSource σ} {e : Expression} {s : σ} {count sides n : UInt64}
    (hcount : FilledIn 1 e.count count) (hsides : FilledIn 100 e.sides sides)
    (hthrows : count ≤ 100) (hfaces : sides ≤ 1000000) (hmodifier : e.modifier = .subtract n)
    (hanswers : ∀ r ∈ source.answers sides count.toNat s, IsFace sides r) :
    let sum := ((source.answers sides count.toNat s).map UInt64.toNat).sum
    let difference : Int := sum - n.toNat
    let result := (e.evaluate source s).value
    let isExact := ∃ o total, result = .ok o ∧ o.total = .sum total ∧ total.toInt = difference
    (result = .error (.overflow n) ↔ 2 ^ 63 ≤ n.toNat) ∧
    (n.toNat < 2 ^ 63 → isExact) ∧
    ((result = .error (.overflow n) ↔ difference < -(2 ^ 63)) ∧
      (-(2 ^ 63) ≤ difference → isExact) ↔ ¬ (2 ^ 63 ≤ n.toNat ∧ n.toNat ≤ 2 ^ 63 + sum)) := by
  intro sum difference result isExact
  have hlength : (source.answers sides count.toNat s).length ≤ 100 := by
    rw [DiceSource.length_answers]
    exact UInt64.le_iff_toNat_le.mp hthrows
  have hfits := fitsThroughout_of_faces hlength hfaces hanswers
  have hresult : result = outcomeOf sides (.subtract n) (source.answers sides count.toNat s) := by
    rw [← hmodifier]
    exact evaluate_value_of_le hcount hsides hthrows hfaces source s
  -- the magnitude alone decides: refused above the signed words, exact otherwise
  have hrefused : result = .error (.overflow n) ↔ 2 ^ 63 ≤ n.toNat := by
    rw [hresult, outcomeOf_subtract_eq_error_iff hfits]
    exact ⟨fun h => h.2, fun h => ⟨rfl, h⟩⟩
  have hexact : n.toNat < 2 ^ 63 → isExact := by
    intro hn
    obtain ⟨o, total, ho, htotal⟩ := exists_outcomeOf_subtract_eq_ok hfits hn sides
    exact ⟨o, total, hresult.trans ho, htotal⟩
  -- what remains is arithmetic on the sum and the magnitude
  refine ⟨hrefused, hexact, fun hclaim hband => ?_, fun hband => ⟨?_, fun hfit => hexact ?_⟩⟩
  · have hlow := hclaim.1.mp (hrefused.mpr hband.1)
    omega
  · rw [hrefused]
    omega
  · omega

/-- Two dice with six sides that show twelve, and the greatest magnitude that is refused without need:
the difference is the least signed word. -/
theorem evaluate_subtract_band_end :
    FilledIn 1 (some 2) 2 ∧ FilledIn 100 (some 6) 6 ∧
    (∀ r ∈ preparedDice.answers 6 2 (.ofList [6, 6]), IsFace 6 r) ∧
    (DiceSet.evaluate preparedDice ⟨some 2, some 6, .subtract 9223372036854775820⟩
      (.ofList [6, 6])).value = .error (.overflow 9223372036854775820) ∧
    (12 : Int) - (9223372036854775820 : UInt64).toNat = -(2 ^ 63) := by
  have hcount : FilledIn 1 (some 2) 2 := .written (by decide)
  have hsides : FilledIn 100 (some 6) 6 := .written (by decide)
  have hrolls : preparedDice.answers 6 2 (.ofList [6, 6]) = List.replicate 2 6 := rfl
  have hanswers : ∀ r ∈ preparedDice.answers 6 2 (.ofList [6, 6]), IsFace 6 r := by
    intro r hr
    rw [hrolls] at hr
    rw [List.eq_of_mem_replicate hr]
    exact ⟨by decide, UInt64.le_refl _⟩
  obtain ⟨hrefused, -⟩ :=
    evaluate_subtract (e := ⟨some 2, some 6, .subtract 9223372036854775820⟩) hcount hsides
      (by decide) (by decide) rfl hanswers
  exact ⟨hcount, hsides, hanswers, hrefused.mpr (by decide), by decide⟩

/-- One die that shows a one, and the least magnitude that is refused: the difference is a signed word,
but not even the least one. -/
theorem evaluate_subtract_refused_early :
    (DiceSet.evaluate preparedDice ⟨some 1, some 6, .subtract 9223372036854775808⟩
      (.ofList [1])).value = .error (.overflow 9223372036854775808) ∧
    -(2 ^ 63) < (1 : Int) - (9223372036854775808 : UInt64).toNat := ⟨rfl, by decide⟩

end DiceRoller
