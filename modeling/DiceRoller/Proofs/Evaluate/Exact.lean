/-
# Rolling with unbounded numbers

The program reads numbers as words, so a long numeral is cut off at the greatest word, and it adds
in signed words. This file states the rules of the specification (section 4.2) over natural numbers
and integers, where nothing is cut off: every numeral has its own value, and only the limits and the
range of the result decide what fails.

The rules are written out a second time on purpose. They share the search for a dice set with the
program, and nothing that computes: defaults, limits, sums, percentages, the line that shows an
outcome and the throws are stated anew, with the throws kept beside the source. One condition is not
in the specification and belongs to the program: a magnitude has to be a signed word itself before
it is applied.

`Agrees` compares a result of the program with one of these rules. Outcomes have to be the same,
down to the line that shows them; errors have to be of the same kind, with the number as far as a
word can hold it. `Proofs/Evaluate/Saturation.lean` proves that they always agree, so nothing is
proved here.
-/
import DiceRoller.Query
import Mathlib.Algebra.Ring.Int.Defs
import Mathlib.Algebra.Ring.Nat

namespace DiceRoller.Exact

/-! ## 1. Results -/

/-- Why a roll fails. The numbers are those that were written. -/
inductive Failure where
  | malformed (text : String)
  | tooManyThrows (count : Nat)
  | tooManySides (sides : Nat)
  | overflow (magnitude : Nat)
deriving Repr, DecidableEq

/-- The result that a roll comes to. -/
inductive Total where
  | sum (value : Int)
  | percent (value : Nat)
deriving Repr, DecidableEq

/-- A total as it is shown. -/
def Total.text : Total → String
  | .sum n => n.repr
  | .percent n => n.repr ++ "%"

/-- A roll that succeeded, and the line that shows it. -/
structure Outcome where
  rolls : List Nat
  total : Total
  text : String
deriving Repr, DecidableEq

/-- What a roll leaves behind: its result, the dice source after it, and the sides of the dice
thrown, in order. -/
structure Run (σ : Type) where
  value : Except Failure Outcome
  source : σ
  throws : List Nat

/-! ## 2. The rules -/

/-- A missing or zero number gives way to the default. -/
def orDefault (default : Nat) : Option Nat → Nat
  | none | some 0 => default
  | some n => n

/-- The numbers thrown, with plus signs between them. -/
def joined (rolls : List Nat) : String := "+".intercalate (rolls.map Nat.repr)

/-- The outcome whose line leads to its total. -/
def shown (rolls : List Nat) (way : String) (total : Total) : Outcome :=
  ⟨rolls, total, way ++ "= " ++ total.text⟩

/-- The plain sum of the numbers thrown. -/
def summed (rolls : List Nat) : Outcome := shown rolls (joined rolls) (.sum rolls.sum)

/-- A sum to which a magnitude is applied. The magnitude and the result have to be signed words. -/
def applied (rolls : List Nat) (sign : String) (magnitude : Nat) (result : Int) :
    Except Failure Outcome :=
  if magnitude ≤ 2 ^ 63 - 1 ∧ -(2 ^ 63) ≤ result ∧ result ≤ 2 ^ 63 - 1 then
    .ok (shown rolls ("(" ++ joined rolls ++ ")" ++ sign ++ magnitude.repr) (.sum result))
  else .error (.overflow magnitude)

/-- The outcome of the numbers thrown with dice of so many sides. -/
def outcomeOf (sides : Nat) (modifier : Modifier Nat) (rolls : List Nat) : Except Failure Outcome :=
  match modifier, rolls with
  | .plain, _ => .ok (summed rolls)
  | .percent, [tens, ones] =>
    if sides = 10 then .ok (shown rolls (joined rolls) (.percent (10 * tens + ones)))
    else .ok (summed rolls)
  | .percent, [value] =>
    if sides = 100 then .ok ⟨rolls, .percent value, (Total.percent value).text⟩
    else .ok (summed rolls)
  | .percent, _ => .ok (summed rolls)
  | .add n, _ => applied rolls "+" n (rolls.sum + n)
  | .subtract n, _ => applied rolls "-" n (rolls.sum - n)

variable {σ : Type}

/-- Evaluates a dice set with dice from a source. -/
def evaluate (source : DiceSource σ) (e : DiceSet Nat) (s : σ) : Run σ :=
  let count := orDefault 1 e.count
  let sides := orDefault 100 e.sides
  if 100 < count then ⟨.error (.tooManyThrows count), s, []⟩
  else if 1000000 < sides then ⟨.error (.tooManySides sides), s, []⟩
  else
    let thrown := source.throwMany (.ofNat sides) count s
    ⟨outcomeOf sides e.modifier (thrown.1.map UInt64.toNat), thrown.2, List.replicate count sides⟩

/-- The leftmost dice set of a text, with every numeral at its value. -/
def read (text : String) : Option (DiceSet Nat) :=
  (search text.toList).map fun f => f.spelling.map Text.digitsValue

/-- Rolls the leftmost dice set of a text without the blanks around it. -/
def solve (source : DiceSource σ) (text : String) (s : σ) : Run σ :=
  match read (Text.trim text) with
  | none => ⟨.error (.malformed (Text.trim text)), s, []⟩
  | some e => evaluate source e s

/-! ## 3. Agreement -/

/-- The integer or natural number of a total. -/
def ofTotal : DiceRoller.Total → Total
  | .sum n => .sum n.toInt
  | .percent n => .percent n.toNat

/-- A word that holds a number as far as it can: the number, or the greatest word. -/
def Holds (w : UInt64) (n : Nat) : Prop := w.toNat = min n (2 ^ 64 - 1)

/-- A result of the program agrees with an exact one. Outcomes are the same, down to the line that
shows them; errors are of the same kind, and hold the exact number as far as a word can. -/
inductive Agrees : Except RollError DiceRoller.Outcome → Except Failure Outcome → Prop
  | ok {o : DiceRoller.Outcome} {x : Outcome} (rolls : o.rolls.map UInt64.toNat = x.rolls)
      (total : ofTotal o.total = x.total) (text : o.text = x.text) : Agrees (.ok o) (.ok x)
  | malformed (text : String) :
      Agrees (.error (.malformed text)) (.error (.malformed text))
  | tooManyThrows {w : UInt64} {n : Nat} (h : Holds w n) :
      Agrees (.error (.tooManyThrows w)) (.error (.tooManyThrows n))
  | tooManySides {w : UInt64} {n : Nat} (h : Holds w n) :
      Agrees (.error (.tooManySides w)) (.error (.tooManySides n))
  | overflow {w : UInt64} {n : Nat} (h : Holds w n) :
      Agrees (.error (.overflow w)) (.error (.overflow n))

end DiceRoller.Exact
