/-
# What the line of an evaluation tells

Every outcome of dice is one whose line can be read back: there are dice, and they are read as a
percentage exactly where the total is one. So the line that a user sees leaves no question open.
Which of the readings it is follows from the dice set, without a look at the outcome.

`IsReading` is that rule: a percentage where one is asked for and two dice with ten sides or one
with a hundred are thrown, and otherwise a sum with the magnitude of the modifier. A percent sign
behind any other dice is not an error, and leaves a plain sum (section 4.2 of the specification).

* `coherent_of_outcomeOf_eq_ok`: the outcomes of dice are those that `Proofs/Evaluate/Line.lean`
  tells apart.
* `isReading_of_outcomeOf_eq_ok`: the dice are read as the modifier and their shape demand.
* `exists_of_evaluate_eq_ok`: both for one evaluation, which throws at least one die.
* `line_tells_outcome`: both for the outcomes of evaluations, and how a line ends.

Two evaluations that are shown alike may belong to different dice sets and different sources; only
what came out is the same. That the numbers are faces is not assumed.
-/
import DiceRoller.Proofs.Evaluate.Line
import DiceRoller.Proofs.Evaluate.Totals

namespace DiceRoller

variable {σ τ : Type} {rolls : List UInt64}

/-! ## 1. Every outcome can be read back -/

theorem coherent_of_percentage? {sides p : UInt64} (h : percentage? sides rolls = some p) :
    Outcome.Coherent ⟨rolls, .percentile, .percent p⟩ := by
  unfold percentage? at h
  split at h
  · exact ⟨by simp, by simp, by simp⟩
  · refine ⟨by simp, by simp, fun n _ hn => ?_⟩
    split at h
    · obtain rfl := Option.some.inj h
      obtain rfl := List.singleton_inj.mp hn
      rfl
    · exact absurd h (by simp)
  · exact absurd h (by simp)

theorem coherent_sum {reading : Reading} (hne : rolls ≠ []) (hreading : reading ≠ .percentile)
    (total : Int64) : Outcome.Coherent ⟨rolls, reading, .sum total⟩ where
  rolls_ne_nil := hne
  percentile_iff := by simp [hreading]
  die := fun n h => absurd h hreading

/-- **Every outcome of dice is coherent.** -/
theorem coherent_of_outcomeOf_eq_ok {sides : UInt64} {m : Modifier UInt64} {o : Outcome}
    (hne : rolls ≠ []) (h : outcomeOf sides m rolls = .ok o) : o.Coherent := by
  cases comesTo_of_outcomeOf_eq_ok h with
  | percentage hp => exact coherent_of_percentage? hp
  | percentSum _ => exact coherent_sum hne (by simp) _
  | sum => exact coherent_sum hne (by simp) _
  | plus _ => exact coherent_sum hne (by simp) _
  | minus _ => exact coherent_sum hne (by simp) _

/-! ## 2. How the dice are read -/

/-- How dice of this shape are read: as a percentage where the modifier asks for one and two dice with
ten sides or one with a hundred are thrown, and as a sum with the magnitude of the modifier in every
other case. -/
inductive IsReading (m : Modifier UInt64) (count sides : UInt64) : Reading → Prop
  | percentile (percent : m = .percent)
      (shape : count = 2 ∧ sides = 10 ∨ count = 1 ∧ sides = 100) : IsReading m count sides .percentile
  | plain (other : m = .plain ∨
      m = .percent ∧ ¬ (count = 2 ∧ sides = 10 ∨ count = 1 ∧ sides = 100)) :
      IsReading m count sides .plain
  | plus {n : UInt64} (add : m = .add n) : IsReading m count sides (.plus n)
  | minus {n : UInt64} (subtract : m = .subtract n) : IsReading m count sides (.minus n)

/-- A percentage is shown only by two dice with ten sides and by one with a hundred. -/
theorem shape_of_percentage?_eq_some {count sides p : UInt64} (hlength : rolls.length = count.toNat)
    (h : percentage? sides rolls = some p) :
    count = 2 ∧ sides = 10 ∨ count = 1 ∧ sides = 100 := by
  unfold percentage? at h
  split at h
  · split at h
    · rename_i hsides
      exact .inl ⟨UInt64.toNat_inj.mp hlength.symm, hsides⟩
    · exact absurd h (by simp)
  · split at h
    · rename_i hsides
      exact .inr ⟨UInt64.toNat_inj.mp hlength.symm, hsides⟩
    · exact absurd h (by simp)
  · exact absurd h (by simp)

/-- **The modifier and the shape of the dice decide how they are read.** -/
theorem isReading_of_outcomeOf_eq_ok {m : Modifier UInt64} {count sides : UInt64} {o : Outcome}
    (hlength : rolls.length = count.toNat) (h : outcomeOf sides m rolls = .ok o) :
    IsReading m count sides o.reading := by
  cases comesTo_of_outcomeOf_eq_ok h with
  | percentage hp => exact .percentile rfl (shape_of_percentage?_eq_some hlength hp)
  | percentSum hnone => exact .plain (.inr ⟨rfl, not_shape_of_percentage?_eq_none hlength hnone⟩)
  | sum => exact .plain (.inl rfl)
  | plus _ => exact .plus rfl
  | minus _ => exact .minus rfl

/-- A single die is read as a percentage exactly where one with a hundred sides is asked for one. -/
theorem IsReading.isLoneDie_iff {m : Modifier UInt64} {count sides : UInt64} {o : Outcome}
    (h : IsReading m count sides o.reading) (hlength : o.rolls.length = count.toNat) :
    o.IsLoneDie ↔ m = .percent ∧ count = 1 ∧ sides = 100 := by
  have hone : o.rolls.length = 1 ↔ count = 1 := by
    rw [hlength, ← UInt64.toNat_inj]
    rfl
  rw [Outcome.IsLoneDie, hone]
  generalize o.reading = reading at h
  cases h with
  | percentile hpercent hshape =>
    constructor
    · rintro ⟨-, rfl⟩
      rcases hshape with hshape | hshape
      · exact absurd hshape.1 (by decide)
      · exact ⟨hpercent, hshape⟩
    · rintro ⟨-, hcount, -⟩
      exact ⟨rfl, hcount⟩
  | plain hother =>
    constructor
    · rintro ⟨hreading, -⟩
      exact absurd hreading (by simp)
    · rintro ⟨rfl, hshape⟩
      rcases hother with hother | hother
      · exact absurd hother (by simp)
      · exact absurd (.inr hshape) hother.2
  | plus hadd => simp [hadd]
  | minus hsubtract => simp [hsubtract]

/-! ## 3. Evaluations -/

/-- An evaluation that succeeds reads as many dice as its shape says. -/
theorem exists_of_evaluate_eq_ok {source : DiceSource σ} {e : Expression} {s : σ} {o : Outcome}
    (h : (e.evaluate source s).value = .ok o) :
    ∃ count sides, FilledIn 1 e.count count ∧ FilledIn 100 e.sides sides ∧
      o.rolls.length = count.toNat ∧ IsReading e.modifier count sides o.reading ∧ o.Coherent := by
  cases hshape : e.shape with
  | error reason =>
    rw [DiceSet.evaluate_of_shape_eq_error hshape] at h
    exact absurd h (by simp)
  | ok shape =>
    obtain ⟨hpos, -⟩ := DiceSet.bounds_of_shape_eq_ok hshape
    rw [DiceSet.evaluate_of_shape_eq_ok hshape] at h
    have hlength := source.length_answers shape.sides shape.count.toNat s
    have hne : source.answers shape.sides shape.count.toNat s ≠ [] := by
      have : 1 ≤ shape.count.toNat := UInt64.le_iff_toNat_le.mp hpos
      rw [← List.length_pos_iff, hlength]
      omega
    obtain rfl := DiceSet.eq_of_shape_eq_ok hshape
    refine ⟨e.throws, e.faces, filledIn_orDefault 1 e.count, filledIn_orDefault 100 e.sides, ?_,
      isReading_of_outcomeOf_eq_ok hlength h, coherent_of_outcomeOf_eq_ok hne h⟩
    rw [rolls_of_outcomeOf_eq_ok h, hlength]

/-- **The line of an outcome tells the outcome.**  Where two evaluations succeed and are shown alike,
whatever dice sets they are of and whatever sources they throw their dice from, their dice, their totals
and their readings are the same. The reading is the one that the modifier and the shape of the dice
demand. A line ends with the total, behind the only equals sign and a blank, except where a single die
with a hundred sides is read as a percentage: then the line is the total. -/
theorem line_tells_outcome {source : DiceSource σ} {source' : DiceSource τ} {e e' : Expression}
    {s : σ} {s' : τ} {o o' : Outcome} (ho : (e.evaluate source s).value = .ok o)
    (ho' : (e'.evaluate source' s').value = .ok o') :
    (o.text = o'.text → o.rolls = o'.rolls ∧ o.total = o'.total ∧ o.reading = o'.reading) ∧
    ∃ count sides, FilledIn 1 e.count count ∧ FilledIn 100 e.sides sides ∧
      IsReading e.modifier count sides o.reading ∧
      (e.modifier = .percent ∧ count = 1 ∧ sides = 100 → o.text = o.total.text) ∧
      (¬ (e.modifier = .percent ∧ count = 1 ∧ sides = 100) →
        ∃ way : String, '=' ∉ way.toList ∧ o.text = way ++ "= " ++ o.total.text) := by
  obtain ⟨count, sides, hcount, hsides, hlength, hreading, hcoherent⟩ := exists_of_evaluate_eq_ok ho
  obtain ⟨-, -, -, -, -, -, hcoherent'⟩ := exists_of_evaluate_eq_ok ho'
  have hlone := hreading.isLoneDie_iff hlength
  refine ⟨fun h => ?_, count, sides, hcount, hsides, hreading, fun h => ?_, fun h => ?_⟩
  · have hsame := Outcome.text_inj hcoherent hcoherent' h
    exact ⟨congrArg _ hsame, congrArg _ hsame, congrArg _ hsame⟩
  · exact Outcome.text_of_isLoneDie (hlone.mpr h)
  · have htext := Outcome.toList_text_of_not_isLoneDie (mt hlone.mp h)
    refine ⟨String.ofList (o.reading.way o.rolls), ?_, ?_⟩
    · rw [String.toList_ofList]
      exact o.reading.equals_not_mem_way o.rolls
    · rw [← String.toList_inj, htext]
      simp

/-- A die with a hundred sides that is asked for in the shortest way and in the longest one. -/
theorem line_tells_outcome_hundred_sides :
    ∃ o o' : Outcome,
      (DiceSet.evaluate preparedDice ⟨none, none, .percent⟩ (.ofList [42])).value = .ok o ∧
      (DiceSet.evaluate preparedDice ⟨some 1, some 100, .percent⟩ (.ofList [42])).value = .ok o' ∧
      o.text = o'.text ∧ o.rolls = o'.rolls ∧ o.total = o'.total ∧ o.reading = o'.reading ∧
      o.text = o.total.text := by
  have ho : (DiceSet.evaluate preparedDice ⟨none, none, .percent⟩ (.ofList [42])).value =
      .ok ⟨[42], .percentile, .percent 42⟩ := rfl
  have ho' : (DiceSet.evaluate preparedDice ⟨some 1, some 100, .percent⟩ (.ofList [42])).value =
      .ok ⟨[42], .percentile, .percent 42⟩ := rfl
  obtain ⟨hsame, count, sides, hcount, hsides, -, hlone, -⟩ := line_tells_outcome ho ho'
  obtain ⟨hrolls, htotal, hreading⟩ := hsame rfl
  cases hcount
  cases hsides
  exact ⟨_, _, ho, ho', rfl, hrolls, htotal, hreading, hlone ⟨rfl, rfl, rfl⟩⟩

end DiceRoller
