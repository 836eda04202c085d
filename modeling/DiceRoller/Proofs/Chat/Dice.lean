/-
# The dice of a step

Which dice a step of a conversation throws is settled before the first one falls: it depends on the
settings and the step, never on the numbers of the dice or on the steps before. So a step is known
by its dice (`Settings.dice`), and the source after it is the one that these dice leave.

`Throws` says this of one roll, from the evaluation up to the step. It says as well which numbers
the outcome shows, and that a roll without a result, or refused for another reason than its
magnitude, throws nothing. There is one lemma for each function on the way (`throws_evaluate`,
`throws_solve`, `throws_roll`, `throws_command`, `throws_respond`, `throws_perform`), and each uses
the one before it, so a change to one of these functions touches its own lemma.

The dice of a step may have different numbers of sides only in principle: a dice set throws dice of
one kind. `DiceSource.throwEach` takes a list of sides all the same, so that the dice of several
steps can be put one after the other, and `DiceSource.throwEach_replicate` ties it to the throws of
an evaluation.

* `throws_perform`: every step throws its dice, whatever the source and its state.

Whether the numbers are faces is not asked here, and no event is spoken of.
-/
import DiceRoller.Chat.Conversation
import DiceRoller.Proofs.Evaluate.Effects

namespace DiceRoller

variable {σ : Type}

/-! ## 1. Dice of different kinds -/

/-- The numbers of dice with these sides, thrown one after the other, and the state after them. -/
def DiceSource.throwEach (source : DiceSource σ) : List UInt64 → σ → List UInt64 × σ
  | [], s => ([], s)
  | sides :: rest, s =>
    let first := source.throw sides s
    let others := source.throwEach rest first.2
    (first.1 :: others.1, others.2)

/-- Dice of one kind are so many single throws. By induction on their number. -/
theorem DiceSource.throwEach_replicate (source : DiceSource σ) (sides : UInt64) (n : Nat) (s : σ) :
    source.throwEach (List.replicate n sides) s =
      (source.answers sides n s, source.after sides n s) := by
  induction n generalizing s with
  | zero => rfl
  | succ n ih => rw [List.replicate_succ, throwEach, ih, answers_succ, after_succ]

/-! ## 2. What a roll throws -/

/-- A roll that begins in the state `s` throws these dice: it leaves the source as they leave it, and
an outcome shows their numbers. There are none if there is no result, or if the error is not that of a
magnitude. -/
structure Throws (source : DiceSource σ) (s : σ) (dice : List UInt64)
    (result : Option (Except RollError Outcome)) (after : σ) : Prop where
  after_eq : after = (source.throwEach dice s).2
  rolls_eq : ∀ o, result = some (.ok o) → o.rolls = (source.throwEach dice s).1
  of_none : result = none → dice = []
  of_error : ∀ reason, result = some (.error reason) → (∀ n, reason ≠ .overflow n) → dice = []

/-- Where no die is thrown, the source stays as it is, and there is no outcome. -/
theorem throws_nil (source : DiceSource σ) (s : σ) {result : Option (Except RollError Outcome)}
    (h : ∀ o, result ≠ some (.ok o)) : Throws source s [] result s where
  after_eq := rfl
  rolls_eq := fun o ho => absurd ho (h o)
  of_none := fun _ => rfl
  of_error := fun _ _ _ => rfl

/-- **An evaluation throws the dice of its dice set.** -/
theorem throws_evaluate (source : DiceSource σ) (e : Expression) (s : σ) :
    Throws source s e.dice (some (e.evaluate source s).value) (e.evaluate source s).source := by
  cases hshape : e.shape with
  | error reason =>
    rw [DiceSet.evaluate_of_shape_eq_error hshape, DiceSet.dice_of_shape_eq_error hshape]
    exact throws_nil source s (by simp)
  | ok shape =>
    have hthrown := source.throwEach_replicate shape.sides shape.count.toNat s
    rw [DiceSet.evaluate_of_shape_eq_ok hshape, DiceSet.dice_of_shape_eq_ok hshape]
    refine ⟨?_, fun o ho => ?_, fun hnone => absurd hnone (by simp), fun reason hreason hn => ?_⟩
    · rw [hthrown]
    · rw [hthrown]
      exact rolls_of_outcomeOf_eq_ok (Option.some.inj ho)
    · obtain ⟨n, -, rfl⟩ := outcomeOf_eq_error (Option.some.inj hreason)
      exact absurd rfl (hn n)

/-- The dice of a query. A malformed one has none. -/
def Query.dice (q : Query) : List UInt64 :=
  match q.expression with
  | .error _ => []
  | .ok e => e.dice

theorem throws_solve (source : DiceSource σ) (q : Query) (s : σ) :
    Throws source s q.dice (some (q.solve source s).value) (q.solve source s).source := by
  unfold Query.solve Query.dice
  cases q.expression with
  | error reason => exact throws_nil source s (by simp)
  | ok e => exact throws_evaluate source e s

/-! ## 3. What a step throws -/

/-- The dice that are thrown for a text, or for the default die where it is blank. -/
def Settings.rollDice (settings : Settings) (args : String) : List UInt64 :=
  ((Query.ofText args).orDefault settings.die).dice

/-- The dice that a step throws. -/
def Settings.dice (settings : Settings) : ChatStep → List UInt64
  | .command args => if settings.enabled then settings.rollDice args else []
  | .respond m =>
    match settings.silence m with
    | some _ => []
    | none => settings.rollDice m.args
  | .silence _ => []

/-- The result in an answer, if there is one. -/
def ChatAnswer.result? : ChatAnswer → Option (Except RollError Outcome)
  | .reply r => r.map Reply.result
  | .silence _ => none

theorem throws_roll (settings : Settings) (source : DiceSource σ) (args : String) (s : σ) :
    Throws source s (settings.rollDice args) (some (settings.roll source args s).value.result)
      (settings.roll source args s).source :=
  throws_solve source _ s

theorem throws_command (settings : Settings) (source : DiceSource σ) (args : String) (s : σ) :
    Throws source s (settings.dice (.command args))
      ((settings.command source args s).value.map Reply.result)
      (settings.command source args s).source := by
  rw [Settings.dice, Settings.command]
  cases settings.enabled with
  | false => exact throws_nil source s (by simp)
  | true => exact throws_roll settings source args s

theorem throws_respond (settings : Settings) (source : DiceSource σ) (m : Message) (s : σ) :
    Throws source s (settings.dice (.respond m))
      ((settings.respond source m s).value.map Reply.result)
      (settings.respond source m s).source := by
  rw [Settings.dice, Settings.respond]
  cases settings.silence m with
  | some reason => exact throws_nil source s (by simp)
  | none => exact throws_roll settings source m.args s

/-- **Every step throws its dice**, and a question for a reason has none. -/
theorem throws_perform (settings : Settings) (source : DiceSource σ) (step : ChatStep) (s : σ) :
    Throws source s (settings.dice step) (settings.perform source step s).value.result?
      (settings.perform source step s).source := by
  cases step with
  | command args => exact throws_command settings source args s
  | respond m => exact throws_respond settings source m s
  | silence m => exact throws_nil source s (by simp [Settings.perform, ChatAnswer.result?])

end DiceRoller
