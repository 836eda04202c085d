/-
# No die is lost in a conversation

All steps of a conversation share one source. With prepared dice it can be told what becomes of
every number: the numbers that a step leaves are those that the steps after it find, so every number
is thrown at most once, in order, and by the step that shows it.

What is seen of a step is its answer, its throws, how many prepared numbers are left, and its events
(`Seen`). The proof follows the state of the source, which depends on nothing but the dice thrown so
far (`Prepared.after`). Since the dice of a step are known beforehand (`Settings.dice`), the state
in front of every step is known without running the steps before it.

* `throwEach_preparedDice`: prepared dice show the prepared numbers in order, by induction on the
  dice.
* `perform_source`: what one step makes of the source.
* `getElem?_watch`: what is seen of every step of a conversation, by induction on the steps.
* `watch_eraseIdx`: a step without dice can be left out, by the same induction.
* `numbers_are_thrown_once`: the prepared numbers over a whole conversation, and steps that can be
  left out.

Where the numbers run out, the dice show their highest faces, and these count among the numbers of
the conversation too (`preparedAnswers`). A step whose magnitude is refused has thrown its dice, so
it is not among those that can be left out.
-/
import DiceRoller.Dice.Prepared
import DiceRoller.Proofs.Chat.Dice

namespace DiceRoller

/-! ## 1. Prepared dice -/

/-- The numbers that prepared dice with these sides show: one prepared number after the other, and the
highest face once there is none left. -/
def preparedAnswers (numbers dice : List UInt64) : List UInt64 :=
  dice.mapIdx fun i sides => numbers[i]?.getD sides

@[simp] theorem length_preparedAnswers (numbers dice : List UInt64) :
    (preparedAnswers numbers dice).length = dice.length := List.length_mapIdx

/-- Dice thrown later find the numbers that are left. -/
theorem preparedAnswers_append (numbers a b : List UInt64) :
    preparedAnswers numbers (a ++ b) =
      preparedAnswers numbers a ++ preparedAnswers (numbers.drop a.length) b := by
  unfold preparedAnswers
  rw [List.mapIdx_append]
  congr 2
  funext i sides
  rw [List.getElem?_drop, Nat.add_comm]

/-- The state of prepared dice after dice with these sides. -/
def Prepared.after (p : Prepared) (dice : List UInt64) : Prepared :=
  ⟨p.left.drop dice.length, p.asked ++ dice⟩

@[simp] theorem Prepared.after_nil (p : Prepared) : p.after [] = p := by
  rw [after, List.length_nil, List.drop_zero, List.append_nil]

@[simp] theorem Prepared.after_after (p : Prepared) (a b : List UInt64) :
    (p.after a).after b = p.after (a ++ b) := by
  rw [after, after, after, List.drop_drop, List.length_append, List.append_assoc]

/-- One die shows the first number that is left. -/
theorem preparedDice_throw (sides : UInt64) (p : Prepared) :
    preparedDice.throw sides p = (p.left[0]?.getD sides, p.after [sides]) := by
  obtain ⟨left, asked⟩ := p
  cases left <;> rfl

/-- **Prepared dice show the prepared numbers in order.**  By induction on the dice that are still to
be thrown. -/
theorem throwEach_preparedDice (dice : List UInt64) (p : Prepared) :
    preparedDice.throwEach dice p = (preparedAnswers p.left dice, p.after dice) := by
  induction dice generalizing p with
  | nil => rw [DiceSource.throwEach, Prepared.after_nil]; rfl
  | cons sides rest ih =>
    have hanswers := preparedAnswers_append p.left [sides] rest
    rw [List.singleton_append] at hanswers
    rw [DiceSource.throwEach, preparedDice_throw, ih, Prepared.after_after, hanswers]
    rfl

example : (preparedDice.throwEach [6, 6, 10] (.ofList [4, 9])).1 = [4, 9, 10] := rfl

/-! ## 2. What is seen of a conversation -/

/-- What is seen of a step. -/
structure Seen where
  answer : ChatAnswer
  /-- The sides of the dice that the step throws, in order. -/
  throws : List UInt64
  /-- How many prepared numbers are left after the step. -/
  left : Nat
  log : List Event

/-- What is seen of a run of a step that finds the source in the state `p`. -/
def Prepared.seen (p : Prepared) (run : Run Prepared ChatAnswer) : Seen where
  answer := run.value
  throws := run.source.asked.drop p.asked.length
  left := run.source.left.length
  log := run.log

/-- What is seen of runs of which each one finds the source as the one before it left it. -/
def Prepared.seenAll : Prepared → List (Run Prepared ChatAnswer) → List Seen
  | _, [] => []
  | p, run :: rest => p.seen run :: run.source.seenAll rest

/-- What is seen of a conversation that finds the source in the state `p`. -/
def Settings.watch (settings : Settings) (steps : List ChatStep) (p : Prepared) : List Seen :=
  p.seenAll (settings.performAll preparedDice steps p)

variable (settings : Settings)

theorem perform_source (step : ChatStep) (p : Prepared) :
    (settings.perform preparedDice step p).source = p.after (settings.dice step) := by
  rw [(throws_perform settings preparedDice step p).after_eq, throwEach_preparedDice]

theorem watch_cons (step : ChatStep) (steps : List ChatStep) (p : Prepared) :
    settings.watch (step :: steps) p =
      p.seen (settings.perform preparedDice step p) ::
        settings.watch steps (p.after (settings.dice step)) := by
  rw [← perform_source]
  rfl

/-- The throws that are seen are the dice of the step. -/
theorem throws_seen (step : ChatStep) (p : Prepared) :
    (p.seen (settings.perform preparedDice step p)).throws = settings.dice step := by
  rw [Prepared.seen, perform_source, Prepared.after, List.drop_left]

/-- The numbers left that are seen are those that the dice of the step leave. -/
theorem left_seen (step : ChatStep) (p : Prepared) :
    (p.seen (settings.perform preparedDice step p)).left =
      p.left.length - (settings.dice step).length := by
  rw [Prepared.seen, perform_source, Prepared.after, List.length_drop]

/-- An outcome that is seen shows the numbers that the dice of the step find. -/
theorem rolls_seen {step : ChatStep} {p : Prepared} {reply : Reply} {o : Outcome}
    (hanswer : (p.seen (settings.perform preparedDice step p)).answer = .reply (some reply))
    (ho : reply.result = .ok o) : o.rolls = preparedAnswers p.left (settings.dice step) := by
  have hresult : (settings.perform preparedDice step p).value.result? = some (.ok o) := by
    rw [show (settings.perform preparedDice step p).value = .reply (some reply) from hanswer, ← ho]
    rfl
  rw [(throws_perform settings preparedDice step p).rolls_eq o hresult, throwEach_preparedDice]

/-- **What is seen of every step.**  By induction on the steps in front of it, which leave the source
as their dice leave it. -/
theorem getElem?_watch (steps : List ChatStep) (p : Prepared) (i : Nat) :
    (settings.watch steps p)[i]? = steps[i]?.map fun step =>
      let q := p.after ((steps.take i).flatMap settings.dice)
      q.seen (settings.perform preparedDice step q) := by
  induction steps generalizing p i with
  | nil => rfl
  | cons step steps ih =>
    rw [watch_cons]
    cases i with
    | zero => simp
    | succ i => simp [ih]

theorem exists_step_of_getElem?_watch {steps : List ChatStep} {p : Prepared} {i : Nat} {x : Seen}
    (hx : (settings.watch steps p)[i]? = some x) : ∃ step, steps[i]? = some step := by
  rw [getElem?_watch] at hx
  obtain ⟨step, hstep, -⟩ := Option.map_eq_some_iff.mp hx
  exact ⟨step, hstep⟩

theorem eq_of_getElem?_watch {steps : List ChatStep} {p : Prepared} {i : Nat} {step : ChatStep}
    {x : Seen} (hstep : steps[i]? = some step) (hx : (settings.watch steps p)[i]? = some x) :
    x = (p.after ((steps.take i).flatMap settings.dice)).seen
      (settings.perform preparedDice step (p.after ((steps.take i).flatMap settings.dice))) := by
  rw [getElem?_watch, hstep, Option.map_some, Option.some.injEq] at hx
  exact hx.symm

theorem map_throws_watch (steps : List ChatStep) (p : Prepared) :
    (settings.watch steps p).map Seen.throws = steps.map settings.dice := by
  induction steps generalizing p with
  | nil => rfl
  | cons step steps ih => rw [watch_cons, List.map_cons, throws_seen, ih, List.map_cons]

theorem length_watch (steps : List ChatStep) (p : Prepared) :
    (settings.watch steps p).length = steps.length := by
  have hlength := congrArg List.length (map_throws_watch settings steps p)
  rwa [List.length_map, List.length_map] at hlength

/-- A step without dice can be left out. By induction on the steps in front of it. -/
theorem watch_eraseIdx {steps : List ChatStep} {p : Prepared} {i : Nat} {step : ChatStep}
    (hstep : steps[i]? = some step) (hdice : settings.dice step = []) :
    settings.watch (steps.eraseIdx i) p = (settings.watch steps p).eraseIdx i := by
  induction steps generalizing p i with
  | nil => exact absurd hstep (by simp)
  | cons first steps ih =>
    rw [watch_cons]
    cases i with
    | zero =>
      obtain rfl := Option.some.inj hstep
      rw [List.eraseIdx_cons_zero, List.eraseIdx_cons_zero, hdice, Prepared.after_nil]
    | succ i =>
      rw [List.eraseIdx_cons_succ, List.eraseIdx_cons_succ, watch_cons, ih hstep]

/-! ## 3. Steps that throw nothing -/

/-- Steps and answers that come without a throw: a question for a reason, no reply, and a reply that
the text or a limit refuses. -/
inductive Idle : ChatStep → ChatAnswer → Prop
  | silence (m : Message) (answer : ChatAnswer) : Idle (.silence m) answer
  | noReply (step : ChatStep) : Idle step (.reply none)
  | malformed {step : ChatStep} {reply : Reply} {text : String}
      (result : reply.result = .error (.malformed text)) : Idle step (.reply (some reply))
  | tooManyThrows {step : ChatStep} {reply : Reply} {count : UInt64}
      (result : reply.result = .error (.tooManyThrows count)) : Idle step (.reply (some reply))
  | tooManySides {step : ChatStep} {reply : Reply} {sides : UInt64}
      (result : reply.result = .error (.tooManySides sides)) : Idle step (.reply (some reply))

theorem dice_eq_nil_of_idle {step : ChatStep} {p : Prepared}
    (h : Idle step (settings.perform preparedDice step p).value) : settings.dice step = [] := by
  have hthrows := throws_perform settings preparedDice step p
  generalize (settings.perform preparedDice step p).value = answer at h hthrows
  cases h with
  | silence m => rfl
  | noReply => exact hthrows.of_none rfl
  | malformed hresult => exact hthrows.of_error _ (congrArg some hresult) (by simp)
  | tooManyThrows hresult => exact hthrows.of_error _ (congrArg some hresult) (by simp)
  | tooManySides hresult => exact hthrows.of_error _ (congrArg some hresult) (by simp)

/-! ## 4. The numbers of a whole conversation -/

theorem flatMap_throws_take_watch (steps : List ChatStep) (p : Prepared) (i : Nat) :
    ((settings.watch steps p).take i).flatMap Seen.throws =
      (steps.take i).flatMap settings.dice := by
  rw [List.flatMap_def, List.map_take, map_throws_watch, ← List.map_take, ← List.flatMap_def]

theorem flatMap_throws_watch (steps : List ChatStep) (p : Prepared) :
    (settings.watch steps p).flatMap Seen.throws = steps.flatMap settings.dice := by
  rw [List.flatMap_def, map_throws_watch, ← List.flatMap_def]

/-- One step more throws its dice behind those of the steps before it. -/
theorem flatMap_dice_take_add_one {steps : List ChatStep} {i : Nat} {step : ChatStep}
    (hstep : steps[i]? = some step) :
    (steps.take (i + 1)).flatMap settings.dice =
      (steps.take i).flatMap settings.dice ++ settings.dice step := by
  rw [List.take_add_one, hstep, List.flatMap_append, Option.toList_some, List.flatMap_singleton]

/-- The numbers that a step finds are a piece of the numbers of the whole conversation: those behind
the ones that the steps before it have thrown. -/
theorem take_drop_preparedAnswers (numbers : List UInt64) {steps : List ChatStep} {i : Nat}
    {step : ChatStep} (hstep : steps[i]? = some step) :
    ((preparedAnswers numbers (steps.flatMap settings.dice)).drop
      ((steps.take i).flatMap settings.dice).length).take (settings.dice step).length =
      preparedAnswers (numbers.drop ((steps.take i).flatMap settings.dice).length)
        (settings.dice step) := by
  have hsplit : steps.flatMap settings.dice =
      (steps.take i).flatMap settings.dice ++
        (settings.dice step ++ (steps.drop (i + 1)).flatMap settings.dice) := by
    rw [← List.append_assoc, ← flatMap_dice_take_add_one settings hstep, ← List.flatMap_append,
      List.take_append_drop]
  rw [hsplit, preparedAnswers_append, List.drop_left' (length_preparedAnswers _ _),
    preparedAnswers_append, List.take_left' (length_preparedAnswers _ _)]

/-- **Every number is thrown once.**  Whatever the settings, the prepared numbers and the steps, the
numbers left after a step are as many as there were at the start less all dice thrown so far; an
outcome shows exactly the next numbers of the source, in order; and no number is thrown by a question
for a reason, by a step without a reply, or for a text that is malformed or beyond the limits. So any
step that throws nothing can be left out, and all that is seen of the other steps stays the same. -/
theorem numbers_are_thrown_once (numbers : List UInt64) (steps : List ChatStep) :
    let seen := settings.watch steps (.ofList numbers)
    let thrown (i : Nat) := ((seen.take i).map (·.throws.length)).sum
    let stream := preparedAnswers numbers (seen.flatMap Seen.throws)
    seen.length = steps.length ∧
    (∀ i step x, steps[i]? = some step → seen[i]? = some x →
      x.left = numbers.length - thrown (i + 1) ∧
      (∀ reply o, x.answer = .reply (some reply) → reply.result = .ok o →
        o.rolls = (stream.drop (thrown i)).take x.throws.length ∧
        o.rolls.length = x.throws.length) ∧
      (Idle step x.answer → x.throws = [])) ∧
    ∀ i x, seen[i]? = some x → x.throws = [] →
      settings.watch (steps.eraseIdx i) (.ofList numbers) = seen.eraseIdx i := by
  intro seen thrown stream
  -- `thrown` counts what is seen; what is proved of a step speaks of the dice of the steps before it
  have hthrown (i : Nat) : thrown i = ((steps.take i).flatMap settings.dice).length := by
    rw [← flatMap_throws_take_watch settings steps (.ofList numbers), List.length_flatMap]
  refine ⟨length_watch settings steps _, fun i step x hstep hx => ?_, fun i x hx hthrows => ?_⟩
  · obtain rfl := eq_of_getElem?_watch settings hstep hx
    refine ⟨?_, fun reply o hanswer ho => ?_, fun hidle => ?_⟩
    · rw [left_seen, hthrown, flatMap_dice_take_add_one settings hstep, List.length_append]
      simp only [Prepared.after, Prepared.ofList, List.length_drop]
      omega
    -- an outcome shows the answers to its own dice, and these are the next piece of the stream
    · have hrolls := rolls_seen settings hanswer ho
      have hpiece := take_drop_preparedAnswers settings numbers hstep
      rw [← flatMap_throws_watch settings steps (.ofList numbers), ← hthrown] at hpiece
      rw [throws_seen]
      constructor
      · rw [hpiece, hrolls, hthrown]
        rfl
      · rw [hrolls, length_preparedAnswers]
    · rw [throws_seen]
      exact dice_eq_nil_of_idle settings hidle
  -- a step without throws leaves the source as it is, so the steps behind it see no difference
  · obtain ⟨step, hstep⟩ := exists_step_of_getElem?_watch settings hx
    obtain rfl := eq_of_getElem?_watch settings hstep hx
    rw [throws_seen] at hthrows
    exact watch_eraseIdx settings hstep hthrows

end DiceRoller
