/-
# Answering

This is the Responder of the specification (section 4.5). A roll is asked for by a command of the
host or by a message that begins with the trigger word. Both lead to the same reply; a message must
first pass the reasons for silence, and its dice set is its second word.

Every answer is a `Run`: a value, the dice source after it, and the events on the way. Nothing else
is changed, so the two entries are functions of the settings, the source and the text.
`Settings.roll` is what they have in common: the query of a text with the default die, and what it
comes to. A command is refused only while rolling is disabled. A message is refused for the reason
of `Chat/Silence.lean`, and then one event tells the reason; where it is answered, an event behind
those of the roll names the dice, whether the roll succeeded or not.

`Proofs/Chat/Agreement.lean` says that commands, messages and reasons fit together, and
`Proofs/Chat/Argument.lean` which word of a message is rolled. The specification asks for the first
word behind the trigger, and the second word of the text is that word only for a trigger of one
word.
-/
import DiceRoller.Query

namespace DiceRoller

variable {σ : Type}

/-- A dice set as it was rolled and what came of it. -/
structure Reply where
  dice : String
  result : Except RollError Outcome

/-- The reply as it is shown. -/
def Reply.text (r : Reply) : String :=
  match r.result with
  | .ok outcome => outcome.text
  | .error reason => reason.message

/-- Rolls what is asked for, the default die when nothing is. -/
def Settings.roll (settings : Settings) (source : DiceSource σ) (args : String) (s : σ) :
    Run σ Reply :=
  let query := (Query.ofText args).orDefault settings.die
  let run := query.solve source s
  ⟨⟨query.text, run.value⟩, run.source, run.log⟩

/-- The answer to a command of the host, which is refused only while rolling is disabled. -/
def Settings.command (settings : Settings) (source : DiceSource σ) (args : String) (s : σ) :
    Run σ (Option Reply) :=
  if settings.enabled then
    let run := settings.roll source args s
    ⟨some run.value, run.source, run.log⟩
  else ⟨none, s, [.refused args]⟩

/-- The event of a message that is left unanswered. -/
def Silence.event (reason : Silence) (m : Message) : Event :=
  match reason with
  | .ignoredNick _ | .ignoredChannel _ => .ignored reason m.nick m.channel
  | _ => .unanswered reason m.text

/-- The part of a message that says what to roll: the second word of its text, if there is one. -/
def Message.args (m : Message) : String := (Text.words m.text)[1]?.getD ""

/-- The answer to a message. -/
def Settings.respond (settings : Settings) (source : DiceSource σ) (m : Message) (s : σ) :
    Run σ (Option Reply) :=
  match settings.silence m with
  | some reason => ⟨none, s, [reason.event m]⟩
  | none =>
    let run := settings.roll source m.args s
    ⟨some run.value, run.source, run.log ++ [.answered run.value.dice m.nick]⟩

end DiceRoller
