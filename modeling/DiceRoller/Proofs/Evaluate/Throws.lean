/-
# Throwing dice one after the other

A source may answer anything. What is proved about a roll assumes that its dice show faces, and only
those dice: what the source would answer to other throws, or in other states, does not matter
(`DiceSource.ShowsFaces`).

The throws of a roll are observed from outside, by putting a note of every die in front of the same
source (`DiceSource.noting`). The note changes no number, so whatever is noted is what the source
without the note was asked for. That makes throws visible for every source, also for one that keeps
no account of them.

* `IsFace`: a number from one up to the number of sides.
* `DiceSet.bounds_of_shape_eq_ok`: a shape is within the limits, and no number in it is zero, so
  every die of a roll has a face.
* `DiceSet.shape_eq_error`: a dice set without a shape is too large, and the error holds the number
  that is.
* `Query.showsFaces`: a source that always shows faces does so for the dice of every query. By
  induction on the number of dice.
* `DiceSet.evaluate_noting`: a note changes nothing.

How the numbers depend on the state of the source is the subject of `Proofs/Evaluate/Effects.lean`.
-/
import DiceRoller.Query

namespace DiceRoller

variable {σ : Type}

/-! ## 1. Dice that show faces -/

/-- The number is a face of a die with so many sides. -/
def IsFace (sides n : UInt64) : Prop := 1 ≤ n ∧ n ≤ sides

theorem isFace_iff {sides n : UInt64} : IsFace sides n ↔ 1 ≤ n.toNat ∧ n.toNat ≤ sides.toNat := by
  rw [IsFace, UInt64.le_iff_toNat_le, UInt64.le_iff_toNat_le]
  rfl

theorem IsFace.one_le_sides {sides n : UInt64} (h : IsFace sides n) : 1 ≤ sides :=
  UInt64.le_trans h.1 h.2

/-- The `n` dice that are thrown from this state show faces. -/
def DiceSource.ShowsFaces (source : DiceSource σ) (sides : UInt64) (n : Nat) (s : σ) : Prop :=
  ∀ answer ∈ (source.throwMany sides n s).1, IsFace sides answer

/-- Dice that show a face whenever they are thrown do so in every run of throws. By induction on the
number of dice. -/
theorem DiceSource.showsFaces {source : DiceSource σ} {sides : UInt64}
    (h : ∀ s, IsFace sides (source.throw sides s).1) (n : Nat) (s : σ) :
    source.ShowsFaces sides n s := by
  induction n generalizing s with
  | zero => exact fun answer hanswer => absurd hanswer List.not_mem_nil
  | succ n ih =>
    intro answer hanswer
    rw [throwMany, List.mem_cons] at hanswer
    rcases hanswer with rfl | hanswer
    · exact h s
    · exact ih _ answer hanswer

/-- The dice that a dice set throws, if it throws any, show faces. -/
def DiceSet.ShowsFaces (source : DiceSource σ) (e : Expression) (s : σ) : Prop :=
  ∀ shape, e.shape = .ok shape → source.ShowsFaces shape.sides shape.count.toNat s

/-- The dice that a query throws, if it throws any, show faces. -/
def Query.ShowsFaces (source : DiceSource σ) (q : Query) (s : σ) : Prop :=
  ∀ e, q.expression = .ok e → e.ShowsFaces source s

/-! ## 2. Shapes -/

theorem orDefault_pos {default : UInt64} (h : 1 ≤ default) (n : Option UInt64) :
    1 ≤ orDefault default n := by
  cases n with
  | none => exact h
  | some n =>
    rw [orDefault]
    split
    · exact h
    · rename_i hn
      have : n.toNat ≠ 0 := fun h0 => hn (UInt64.toNat_inj.mp h0)
      exact UInt64.le_iff_toNat_le.mpr (Nat.one_le_iff_ne_zero.mpr this)

/-- **A shape is within the limits**, and no number in it is zero. -/
theorem DiceSet.bounds_of_shape_eq_ok {e : Expression} {shape : Shape} (h : e.shape = .ok shape) :
    1 ≤ shape.count ∧ shape.count ≤ maxThrows ∧ 1 ≤ shape.sides ∧ shape.sides ≤ maxSides := by
  unfold DiceSet.shape at h
  split at h
  · exact absurd h (by simp)
  · rename_i hcount
    split at h
    · exact absurd h (by simp)
    · rename_i hsides
      obtain rfl := Except.ok.inj h
      exact ⟨orDefault_pos (by decide) _, UInt64.not_lt.mp hcount,
        orDefault_pos (by decide) _, UInt64.not_lt.mp hsides⟩

theorem DiceSet.eq_of_shape_eq_ok {e : Expression} {shape : Shape} (h : e.shape = .ok shape) :
    shape = ⟨e.throws, e.faces⟩ := by
  unfold DiceSet.shape at h
  split at h
  · exact absurd h (by simp)
  · split at h
    · exact absurd h (by simp)
    · exact (Except.ok.inj h).symm

/-- **A dice set without a shape is too large**, and the error holds the number that is. -/
theorem DiceSet.shape_eq_error {e : Expression} {reason : RollError} (h : e.shape = .error reason) :
    reason = .tooManyThrows e.throws ∨ reason = .tooManySides e.faces := by
  unfold DiceSet.shape at h
  split at h
  · exact .inl (Except.error.inj h).symm
  · split at h
    · exact .inr (Except.error.inj h).symm
    · exact absurd h (by simp)

/-- A source that shows a face of every die that has one does so for every query. -/
theorem Query.showsFaces {source : DiceSource σ}
    (h : ∀ sides s, 1 ≤ sides → IsFace sides (source.throw sides s).1) (q : Query) (s : σ) :
    q.ShowsFaces source s := by
  intro e he shape hshape
  obtain ⟨-, -, hsides, -⟩ := DiceSet.bounds_of_shape_eq_ok hshape
  exact DiceSource.showsFaces (fun s => h _ s hsides) _ s

/-! ## 3. Noting the dice -/

/-- The same dice, with a note of the sides of every die that is thrown, oldest first. -/
def DiceSource.noting (source : DiceSource σ) : DiceSource (σ × List UInt64) where
  throw sides s :=
    let thrown := source.throw sides s.1
    (thrown.1, thrown.2, s.2 ++ [sides])

theorem DiceSource.throwMany_noting (source : DiceSource σ) (sides : UInt64) (n : Nat) (s : σ)
    (noted : List UInt64) :
    source.noting.throwMany sides n (s, noted) =
      ((source.throwMany sides n s).1, (source.throwMany sides n s).2,
        noted ++ List.replicate n sides) := by
  induction n generalizing s noted with
  | zero => simp [throwMany]
  | succ n ih =>
    rw [throwMany, ih, throwMany, List.replicate_succ]
    simp [noting]

/-- The sides of the dice that a dice set throws, in order. A dice set that is refused throws none.
-/
def DiceSet.dice (e : Expression) : List UInt64 :=
  match e.shape with
  | .error _ => []
  | .ok shape => List.replicate shape.count.toNat shape.sides

/-- **A note changes nothing**: the value is the same, and so is the state of the source beside the
note. The note holds the dice of the dice set. -/
theorem DiceSet.evaluate_noting (source : DiceSource σ) (e : Expression) (s : σ)
    (noted : List UInt64) :
    (e.evaluate source.noting (s, noted)).value = (e.evaluate source s).value ∧
    (e.evaluate source.noting (s, noted)).source =
      ((e.evaluate source s).source, noted ++ e.dice) := by
  unfold DiceSet.evaluate DiceSet.dice
  cases e.shape with
  | error reason => simp
  | ok shape => simp [DiceSource.throwMany_noting]

end DiceRoller
