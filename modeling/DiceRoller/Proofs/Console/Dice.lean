/-
# The dice of a line

A line at the console throws the dice of the command or the message that it is (`Options.dice`). The
numbers on them are all that the source has to do with the answer: where two sources show the same
numbers on these dice, the same is answered and the same is logged, whatever the states of the
sources.

`Run.Alike` compares two runs by value and events, also between sources with different types of
states. As with the dice of a step, there is one lemma for each function on the way from the
evaluation to the line (`evaluate_alike` to `answer_alike`), each with the same hypothesis about its
own dice (`SameNumbers`).

* `throws_answer`: every line throws its dice.
* `answer_alike`: the answer to a line is a function of the numbers thrown for it.
* `sameNumbers_of_one_side`, `randomDice_showsOnlyFace`: dice with one side leave no choice, and
  random dice are no exception. So lines that throw only such dice are answered the same by all
  sources, which is what sessions are compared by.

What the sources look like afterwards is not compared: they may differ in every way.
-/
import DiceRoller.Console.Answer
import DiceRoller.Dice.Random
import DiceRoller.Proofs.Chat.Dice

namespace DiceRoller

variable {σ τ : Type}

/-! ## 1. What a line throws -/

/-- The dice that a line throws: those of a message, or of a command where it is none. -/
def Options.dice (o : Options) (line : String) : List UInt64 :=
  let text := Text.trim line
  if o.isMessage text then o.settings.dice (.respond (o.message text))
  else o.settings.dice (.command text)

/-- The result in the answer to a line, if there is one. -/
def resultOf? : Except Silence Reply → Option (Except RollError Outcome)
  | .error _ => none
  | .ok reply => some reply.result

theorem resultOf?_orSilence (reason : Silence) (reply : Option Reply) :
    resultOf? (orSilence reason reply) = reply.map Reply.result := by
  cases reply <;> rfl

/-- **Every line throws its dice.** -/
theorem throws_answer (o : Options) (source : DiceSource σ) (line : String) (s : σ) :
    Throws source s (o.dice line) (resultOf? (o.answer source line s).value)
      (o.answer source line s).source := by
  unfold Options.dice Options.answer
  dsimp only
  split
  · cases hsilence : o.settings.silence (o.message (Text.trim line)) with
    | some reason =>
      rw [Settings.dice, hsilence]
      exact throws_nil source s (by simp [resultOf?])
    | none =>
      rw [resultOf?_orSilence]
      exact throws_respond o.settings source (o.message (Text.trim line)) s
  · rw [resultOf?_orSilence]
    exact throws_command o.settings source (Text.trim line) s

/-! ## 2. The same numbers -/

/-- Two runs with the same value and the same events. What became of their sources may differ. -/
structure Run.Alike {α : Type} (a : Run σ α) (b : Run τ α) : Prop where
  value_eq : a.value = b.value
  log_eq : a.log = b.log

/-- The two sources, in these states, show the same numbers on these dice. -/
def SameNumbers (source : DiceSource σ) (s : σ) (source' : DiceSource τ) (s' : τ)
    (dice : List UInt64) : Prop :=
  (source.throwEach dice s).1 = (source'.throwEach dice s').1

section

variable {source : DiceSource σ} {s : σ} {source' : DiceSource τ} {s' : τ}

theorem evaluate_alike {e : Expression} (h : SameNumbers source s source' s' e.dice) :
    (e.evaluate source s).Alike (e.evaluate source' s') := by
  cases hshape : e.shape with
  | error reason =>
    rw [DiceSet.evaluate_of_shape_eq_error hshape, DiceSet.evaluate_of_shape_eq_error hshape]
    exact ⟨rfl, rfl⟩
  | ok shape =>
    rw [SameNumbers, DiceSet.dice_of_shape_eq_ok hshape, DiceSource.throwEach_replicate,
      DiceSource.throwEach_replicate] at h
    rw [DiceSet.evaluate_of_shape_eq_ok hshape, DiceSet.evaluate_of_shape_eq_ok hshape]
    exact ⟨congrArg (outcomeOf shape.sides e.modifier) h, rfl⟩

theorem solve_alike {q : Query} (h : SameNumbers source s source' s' q.dice) :
    (q.solve source s).Alike (q.solve source' s') := by
  unfold Query.dice at h
  unfold Query.solve
  cases hread : q.expression with
  | error reason => exact ⟨rfl, rfl⟩
  | ok e =>
    rw [hread] at h
    exact evaluate_alike h

variable (settings : Settings)

theorem roll_alike {args : String} (h : SameNumbers source s source' s' (settings.rollDice args)) :
    (settings.roll source args s).Alike (settings.roll source' args s') := by
  obtain ⟨hvalue, hlog⟩ := solve_alike h
  exact ⟨congrArg (Reply.mk _) hvalue, hlog⟩

theorem command_alike {args : String}
    (h : SameNumbers source s source' s' (settings.dice (.command args))) :
    (settings.command source args s).Alike (settings.command source' args s') := by
  rw [Settings.dice] at h
  unfold Settings.command
  cases henabled : settings.enabled with
  | false => exact ⟨rfl, rfl⟩
  | true =>
    rw [henabled, if_pos rfl] at h
    obtain ⟨hvalue, hlog⟩ := roll_alike settings h
    exact ⟨congrArg some hvalue, hlog⟩

theorem respond_alike {m : Message}
    (h : SameNumbers source s source' s' (settings.dice (.respond m))) :
    (settings.respond source m s).Alike (settings.respond source' m s') := by
  rw [Settings.dice] at h
  unfold Settings.respond
  cases hsilence : settings.silence m with
  | some reason => exact ⟨rfl, rfl⟩
  | none =>
    rw [hsilence] at h
    obtain ⟨hvalue, hlog⟩ := roll_alike settings h
    refine ⟨congrArg some hvalue, ?_⟩
    dsimp only
    rw [hvalue, hlog]

/-- **The answer to a line is a function of the numbers thrown for it.** -/
theorem answer_alike (o : Options) {line : String}
    (h : SameNumbers source s source' s' (o.dice line)) :
    (o.answer source line s).Alike (o.answer source' line s') := by
  unfold Options.dice at h
  unfold Options.answer
  dsimp only at h ⊢
  by_cases hmessage : o.isMessage (Text.trim line) = true
  · rw [if_pos hmessage] at h
    rw [if_pos hmessage, if_pos hmessage]
    cases o.settings.silence (o.message (Text.trim line)) with
    | some reason => exact ⟨rfl, rfl⟩
    | none =>
      obtain ⟨hvalue, hlog⟩ := respond_alike o.settings h
      exact ⟨congrArg (orSilence .disabled) hvalue, hlog⟩
  · rw [if_neg hmessage] at h
    rw [if_neg hmessage, if_neg hmessage]
    obtain ⟨hvalue, hlog⟩ := command_alike o.settings h
    exact ⟨congrArg (orSilence .disabled) hvalue, hlog⟩

end

/-! ## 3. Dice with one side -/

/-- A die with one side always shows it. -/
def DiceSource.ShowsOnlyFace (source : DiceSource σ) : Prop := ∀ s, (source.throw 1 s).1 = 1

/-- Dice with one side show their sides. By induction on the dice that are still to be thrown. -/
theorem throwEach_of_one_side {source : DiceSource σ} (hsource : source.ShowsOnlyFace)
    {dice : List UInt64} (hdice : ∀ sides ∈ dice, sides = 1) (s : σ) :
    (source.throwEach dice s).1 = dice := by
  induction dice generalizing s with
  | nil => rfl
  | cons sides rest ih =>
    obtain rfl := hdice sides List.mem_cons_self
    rw [DiceSource.throwEach]
    dsimp only
    rw [hsource, ih fun x hx => hdice x (List.mem_cons_of_mem _ hx)]

theorem sameNumbers_of_one_side {source : DiceSource σ} {source' : DiceSource τ}
    (hsource : source.ShowsOnlyFace) (hsource' : source'.ShowsOnlyFace) {dice : List UInt64}
    (hdice : ∀ sides ∈ dice, sides = 1) (s : σ) (s' : τ) :
    SameNumbers source s source' s' dice := by
  rw [SameNumbers, throwEach_of_one_side hsource hdice, throwEach_of_one_side hsource' hdice]

/-- Random dice have no choice with one side. -/
theorem randomDice_showsOnlyFace : randomDice.ShowsOnlyFace := by
  intro generator
  simp [randomDice, randNat, Nat.mod_one]

end DiceRoller
