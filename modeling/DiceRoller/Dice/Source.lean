/-
# Dice sources

Whoever rolls does not know where the numbers come from. A dice source answers a throw of a die with
so many sides and moves on to its next state; several dice are thrown one after the other. This is
the `Source` of the specification (sections 4.2 and 4.3), with its state made a value: where the
specification hands a source on to be changed, the new state is part of the answer.

A source may answer anything, also a number that is no face of the die, and it need not be fair.
What a statement needs of it is said there: `DiceSource.ShowsFaces` in `Proofs/Evaluate/Throws.lean`
asks for faces, and only of the dice that are thrown.

`throwMany` recurs on the number of dice. Its length is the one simple fact that every proof needs;
that its numbers are those of single throws, each from the state before it, is
`DiceSource.throwMany_eq` in `Proofs/Evaluate/Effects.lean`.
-/
namespace DiceRoller

/-- A way to throw dice whose states are of type `σ`. -/
structure DiceSource (σ : Type) where
  /-- The number thrown with a die of so many sides, and the state after the throw. -/
  throw : (sides : UInt64) → σ → UInt64 × σ

variable {σ : Type}

/-- The numbers of `n` dice with the same sides, in the order in which they are thrown. -/
def DiceSource.throwMany (source : DiceSource σ) (sides : UInt64) : Nat → σ → List UInt64 × σ
  | 0, s => ([], s)
  | n + 1, s =>
    let first := source.throw sides s
    let rest := source.throwMany sides n first.2
    (first.1 :: rest.1, rest.2)

@[simp] theorem DiceSource.length_throwMany (source : DiceSource σ) (sides : UInt64) (n : Nat)
    (s : σ) : (source.throwMany sides n s).1.length = n := by
  induction n generalizing s with
  | zero => rfl
  | succ n ih => simp [throwMany, ih]

end DiceRoller
