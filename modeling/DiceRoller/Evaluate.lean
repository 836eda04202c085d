/-
# Evaluating a dice set

This is the Roll Evaluator of the specification (section 4.2). A dice set is evaluated in three
steps. Missing numbers are filled in and the limits are checked; then the dice are thrown; then the
numbers are read, as a percentage or as a sum with its modifier. The first step can refuse before
any die is thrown, the last only when a modifier leads out of the signed words.

The numbers are those of the machine: words for the dice and the percentage, signed words for the
sum. The sum of the dice is added up without a check, which is safe only because of the limits. A
magnitude is first made a signed word and then applied, each with a check, and either may fail. The
specification asks for an error where the magnitude cannot be applied within the signed words; for a
magnitude to take away, the first check is stronger than that (`Proofs/Evaluate/Subtraction.lean`).

* `Proofs/Evaluate/Effects.lean`: the value, the log, the throws and the source of every evaluation.
* `Proofs/Evaluate/Totals.lean`: totals are exact, and when a magnitude is refused.
* `Proofs/Evaluate/Reading.lean`: the line of an outcome tells the outcome.

The specification has the event logged before the throws; a run keeps its events apart from its
throws, so their order among each other is not described.
-/
import DiceRoller.DiceSet.Basic
import DiceRoller.Dice.Source
import DiceRoller.Event
import DiceRoller.Outcome
import DiceRoller.RollError

namespace DiceRoller

/-! ## 1. The shape of a throw -/

/-- How many dice are thrown and how many sides they have. -/
structure Shape where
  count : UInt64
  sides : UInt64
deriving Repr, DecidableEq

/-- A missing or zero number gives way to the default. -/
def orDefault (default : UInt64) : Option UInt64 → UInt64
  | none => default
  | some n => if n = 0 then default else n

/-- The number of dice that a dice set asks for, one unless it says more. -/
def DiceSet.throws (e : Expression) : UInt64 := orDefault 1 e.count

/-- The number of sides that a dice set asks for, a hundred unless it says otherwise. -/
def DiceSet.faces (e : Expression) : UInt64 := orDefault 100 e.sides

/-- The shape of a dice set within the limits. The number of dice is checked first. -/
def DiceSet.shape (e : Expression) : Except RollError Shape :=
  if e.throws > maxThrows then .error (.tooManyThrows e.throws)
  else if e.faces > maxSides then .error (.tooManySides e.faces)
  else .ok ⟨e.throws, e.faces⟩

/-! ## 2. Reading the dice -/

/-- The percentage that dice of this shape show: two dice with ten sides are its digits, one die with
a hundred sides is the percentage itself. -/
def percentage? (sides : UInt64) : List UInt64 → Option UInt64
  | [tens, ones] => if sides = 10 then some (tens * 10 + ones) else none
  | [value] => if sides = 100 then some value else none
  | _ => none

/-- The sum of the numbers thrown. -/
def sumOf (rolls : List UInt64) : Int64 :=
  rolls.foldl (fun sum n => sum + n.toInt64) 0

/-- The integer is the value of a signed word. -/
def fitsSigned (n : Int) : Bool := Int64.minValue.toInt ≤ n && n ≤ Int64.maxValue.toInt

/-- The magnitude as a signed word, unless it is too large. -/
def signed? (magnitude : UInt64) : Option Int64 :=
  if fitsSigned magnitude.toNat then some magnitude.toInt64 else none

/-- The sum of two signed words, unless it is none. -/
def addSigned? (a b : Int64) : Option Int64 :=
  if fitsSigned (a.toInt + b.toInt) then some (a + b) else none

/-- The difference of two signed words, unless it is none. -/
def subSigned? (a b : Int64) : Option Int64 :=
  if fitsSigned (a.toInt - b.toInt) then some (a - b) else none

/-- The outcome of the numbers thrown with dice of so many sides. -/
def outcomeOf (sides : UInt64) (modifier : Modifier UInt64) (rolls : List UInt64) :
    Except RollError Outcome :=
  match modifier with
  | .plain => .ok ⟨rolls, .plain, .sum (sumOf rolls)⟩
  | .percent =>
    match percentage? sides rolls with
    | some p => .ok ⟨rolls, .percentile, .percent p⟩
    | none => .ok ⟨rolls, .plain, .sum (sumOf rolls)⟩
  | .add n =>
    match (signed? n).bind (addSigned? (sumOf rolls)) with
    | some total => .ok ⟨rolls, .plus n, .sum total⟩
    | none => .error (.overflow n)
  | .subtract n =>
    match (signed? n).bind (subSigned? (sumOf rolls)) with
    | some total => .ok ⟨rolls, .minus n, .sum total⟩
    | none => .error (.overflow n)

/-! ## 3. Evaluation -/

/-- What an evaluation leaves behind: its value, the dice source after it, and its events in order. -/
structure Run (σ α : Type) where
  value : α
  source : σ
  log : List Event

/-- Evaluates a dice set with dice from a source. -/
def DiceSet.evaluate {σ : Type} (source : DiceSource σ) (e : Expression) (s : σ) :
    Run σ (Except RollError Outcome) :=
  match e.shape with
  | .error reason => ⟨.error reason, s, []⟩
  | .ok shape =>
    let thrown := source.throwMany shape.sides shape.count.toNat s
    ⟨outcomeOf shape.sides e.modifier thrown.1, thrown.2,
      [.rolling shape.count shape.sides e.modifier]⟩

end DiceRoller
