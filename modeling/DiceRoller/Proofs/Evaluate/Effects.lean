/-
# What an evaluation does to its dice source

An evaluation checks the limits, logs that it rolls, throws its dice and reads them, in this order
(section 4.2 of the specification). So a dice set that is refused leaves no trace: not a die is
thrown for it and no event is logged. Any other dice set throws all its dice, also when the numbers
on them then lead to an error.

The source may answer anything. Its states are followed die by die (`DiceSource.after`), and the
dice that it is asked for are noted in front of it (`DiceSource.noting`). So the statements hold for
prepared dice, random dice and dice that show no faces.

* `FilledIn`: what a missing or zero number comes to, as a relation.
* `DiceSource.throwMany_eq`: several dice are so many single throws, each from the state that the
  one before it left. By induction on their number.
* `DiceSet.evaluate_of_shape_eq_error`, `DiceSet.evaluate_of_shape_eq_ok`: the two cases of an
  evaluation as equations. Later proofs use these.
* `evaluate_effects`: value, log, throws and source of every evaluation.

Which total an outcome has is not said here; that needs faces, and is in
`Proofs/Evaluate/Totals.lean`.
-/
import DiceRoller.Proofs.Evaluate.Signed
import DiceRoller.Proofs.Evaluate.Throws
import Mathlib.Logic.Function.Iterate

namespace DiceRoller

variable {σ : Type}

/-! ## 1. Missing numbers -/

/-- What a number that may be missing comes to: the number itself, or the default when it is missing
or zero. -/
inductive FilledIn (default : UInt64) : Option UInt64 → UInt64 → Prop
  | missing : FilledIn default none default
  | zero : FilledIn default (some 0) default
  | written {n : UInt64} (ne_zero : n ≠ 0) : FilledIn default (some n) n

theorem filledIn_orDefault (default : UInt64) (n : Option UInt64) :
    FilledIn default n (orDefault default n) := by
  cases n with
  | none => exact .missing
  | some n =>
    rw [orDefault]
    split
    · rename_i hn
      rw [hn]
      exact .zero
    · rename_i hn
      exact .written hn

theorem FilledIn.orDefault_eq {default v : UInt64} {n : Option UInt64} (h : FilledIn default n v) :
    orDefault default n = v := by
  cases h with
  | missing => rfl
  | zero => rfl
  | written hn => exact if_neg hn

/-! ## 2. One die after the other -/

/-- The state of a source after `n` dice with so many sides. -/
def DiceSource.after (source : DiceSource σ) (sides : UInt64) (n : Nat) (s : σ) : σ :=
  (fun s => (source.throw sides s).2)^[n] s

/-- The numbers that a source answers to `n` dice with so many sides, each in the state that the dice
before it left. -/
def DiceSource.answers (source : DiceSource σ) (sides : UInt64) (n : Nat) (s : σ) : List UInt64 :=
  (List.range n).map fun i => (source.throw sides (source.after sides i s)).1

theorem DiceSource.length_answers (source : DiceSource σ) (sides : UInt64) (n : Nat) (s : σ) :
    (source.answers sides n s).length = n := by
  rw [answers, List.length_map, List.length_range]

theorem DiceSource.after_succ (source : DiceSource σ) (sides : UInt64) (n : Nat) (s : σ) :
    source.after sides (n + 1) s = source.after sides n (source.throw sides s).2 :=
  Function.iterate_succ_apply _ n s

theorem DiceSource.answers_succ (source : DiceSource σ) (sides : UInt64) (n : Nat) (s : σ) :
    source.answers sides (n + 1) s =
      (source.throw sides s).1 :: source.answers sides n (source.throw sides s).2 := by
  rw [answers, List.range_succ_eq_map, List.map_cons, List.map_map]
  rfl

/-- **Several dice are so many single throws.**  By induction on the number of dice that are still to
be thrown. -/
theorem DiceSource.throwMany_eq (source : DiceSource σ) (sides : UInt64) (n : Nat) (s : σ) :
    source.throwMany sides n s = (source.answers sides n s, source.after sides n s) := by
  induction n generalizing s with
  | zero => rfl
  | succ n ih => rw [throwMany, ih, answers_succ, after_succ]

/-! ## 3. The limits -/

theorem DiceSet.shape_of_lt_throws {e : Expression} (h : 100 < e.throws) :
    e.shape = .error (.tooManyThrows e.throws) := if_pos h

theorem DiceSet.shape_of_lt_faces {e : Expression} (hthrows : e.throws ≤ 100)
    (hfaces : 1000000 < e.faces) : e.shape = .error (.tooManySides e.faces) := by
  have hnot : ¬ e.throws > maxThrows := UInt64.not_lt.mpr hthrows
  rw [shape, if_neg hnot]
  exact if_pos hfaces

theorem DiceSet.shape_of_le {e : Expression} (hthrows : e.throws ≤ 100)
    (hfaces : e.faces ≤ 1000000) : e.shape = .ok ⟨e.throws, e.faces⟩ := by
  have hthrows' : ¬ e.throws > maxThrows := UInt64.not_lt.mpr hthrows
  have hfaces' : ¬ e.faces > maxSides := UInt64.not_lt.mpr hfaces
  rw [shape, if_neg hthrows', if_neg hfaces']

/-- A shape holds the numbers of the dice set, filled in. -/
theorem DiceSet.filledIn_of_shape_eq_ok {e : Expression} {shape : Shape} (h : e.shape = .ok shape) :
    FilledIn 1 e.count shape.count ∧ FilledIn 100 e.sides shape.sides := by
  obtain rfl := eq_of_shape_eq_ok h
  exact ⟨filledIn_orDefault 1 e.count, filledIn_orDefault 100 e.sides⟩

/-- A dice set that is refused leaves no trace. -/
theorem DiceSet.evaluate_of_shape_eq_error {e : Expression} {reason : RollError}
    (h : e.shape = .error reason) (source : DiceSource σ) (s : σ) :
    e.evaluate source s = ⟨.error reason, s, []⟩ := by
  rw [evaluate, h]

/-- A dice set with a shape is logged, thrown and read. -/
theorem DiceSet.evaluate_of_shape_eq_ok {e : Expression} {shape : Shape} (h : e.shape = .ok shape)
    (source : DiceSource σ) (s : σ) :
    e.evaluate source s =
      ⟨outcomeOf shape.sides e.modifier (source.answers shape.sides shape.count.toNat s),
        source.after shape.sides shape.count.toNat s,
        [.rolling shape.count shape.sides e.modifier]⟩ := by
  rw [evaluate, h]
  simp only [DiceSource.throwMany_eq]

theorem DiceSet.dice_of_shape_eq_error {e : Expression} {reason : RollError}
    (h : e.shape = .error reason) : e.dice = [] := by
  rw [dice, h]

theorem DiceSet.dice_of_shape_eq_ok {e : Expression} {shape : Shape} (h : e.shape = .ok shape) :
    e.dice = List.replicate shape.count.toNat shape.sides := by
  rw [dice, h]

/-! ## 4. The whole evaluation -/

/-- **What an evaluation does, whatever the dice set and whatever the source answers.**  Let `count`
and `sides` be the numbers of the dice set, filled in with 1 and 100. More than 100 dice are refused,
whatever the sides and the modifier; otherwise more than 1000000 sides are refused; in both cases the
source is as it was and nothing is logged. In every other case one event is logged, the source is
asked for exactly `count` dice with `sides` sides each and moves on by so many throws, an outcome
shows its answers in order, and only the magnitude of a modifier can lead to an error. -/
theorem evaluate_effects (source : DiceSource σ) (e : Expression) (s : σ) :
    ∃ count sides, FilledIn 1 e.count count ∧ FilledIn 100 e.sides sides ∧
      (100 < count → e.evaluate source s = ⟨.error (.tooManyThrows count), s, []⟩) ∧
      (count ≤ 100 → 1000000 < sides →
        e.evaluate source s = ⟨.error (.tooManySides sides), s, []⟩) ∧
      (count ≤ 100 → sides ≤ 1000000 →
        1 ≤ count ∧ 1 ≤ sides ∧
        (e.evaluate source s).log = [.rolling count sides e.modifier] ∧
        (e.evaluate source s).source = source.after sides count.toNat s ∧
        (∀ noted, (e.evaluate source.noting (s, noted)).source =
          (source.after sides count.toNat s, noted ++ List.replicate count.toNat sides)) ∧
        (∀ o, (e.evaluate source s).value = .ok o → o.rolls = source.answers sides count.toNat s) ∧
        ∀ reason, (e.evaluate source s).value = .error reason →
          ∃ n, (e.modifier = .add n ∨ e.modifier = .subtract n) ∧ reason = .overflow n) := by
  refine ⟨e.throws, e.faces, filledIn_orDefault 1 e.count, filledIn_orDefault 100 e.sides,
    fun hcount => ?_, fun hcount hsides => ?_, fun hcount hsides => ?_⟩
  · exact DiceSet.evaluate_of_shape_eq_error (DiceSet.shape_of_lt_throws hcount) source s
  · exact DiceSet.evaluate_of_shape_eq_error (DiceSet.shape_of_lt_faces hcount hsides) source s
  -- within the limits all parts are read off one run
  · have hshape := DiceSet.shape_of_le hcount hsides
    have hrun := DiceSet.evaluate_of_shape_eq_ok hshape source s
    obtain ⟨hcount_pos, -, hsides_pos, -⟩ := DiceSet.bounds_of_shape_eq_ok hshape
    refine ⟨hcount_pos, hsides_pos, ?_, ?_, fun noted => ?_, fun o ho => ?_, fun reason hreason => ?_⟩
    · rw [hrun]
    · rw [hrun]
    · obtain ⟨-, hnoted⟩ := DiceSet.evaluate_noting source e s noted
      rw [hnoted, DiceSet.dice_of_shape_eq_ok hshape, hrun]
    · rw [hrun] at ho
      exact rolls_of_outcomeOf_eq_ok ho
    · rw [hrun] at hreason
      exact outcomeOf_eq_error hreason

end DiceRoller
