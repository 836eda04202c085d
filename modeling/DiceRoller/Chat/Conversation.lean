/-
# Conversations

What happens in a chat is a sequence of steps: the host gives a command, a message is answered, or
somebody only asks whether it would be. All steps share the settings and the dice source.

The specification (section 4.5) speaks of single calls of the Responder, which are
`Settings.command`, `Settings.respond` and `Settings.silence` here. A conversation is a history of
such calls. Each of them finds the dice source as the one before it left it, and nothing else passes
from one to the next, for the Responder keeps nothing but its settings. So `performAll` goes through
the steps with the source alone, and what is left behind is a list of runs, one for each step.

Which dice a step throws is proved in `Proofs/Chat/Dice.lean`, and what becomes of the numbers of a
prepared source over a whole conversation in `Proofs/Chat/Conservation.lean`. Settings that change
on the way are not described, and neither are two conversations that share a source.
-/
import DiceRoller.Chat.Responder

namespace DiceRoller

variable {σ : Type}

/-- One thing that happens in a chat. -/
inductive ChatStep where
  | command (args : String)
  | respond (message : Message)
  /-- Asks for the reason why a message would be left unanswered. -/
  | silence (message : Message)
deriving Repr, DecidableEq

/-- What a step comes to. -/
inductive ChatAnswer where
  | reply (reply : Option Reply)
  | silence (reason : Option Silence)

/-- Carries out a step. Asking for a reason throws no die and leaves no event. -/
def Settings.perform (settings : Settings) (source : DiceSource σ) (step : ChatStep) (s : σ) :
    Run σ ChatAnswer :=
  match step with
  | .command args =>
    let run := settings.command source args s
    ⟨.reply run.value, run.source, run.log⟩
  | .respond message =>
    let run := settings.respond source message s
    ⟨.reply run.value, run.source, run.log⟩
  | .silence message => ⟨.silence (settings.silence message), s, []⟩

/-- Carries out the steps one after the other and keeps what each one leaves behind. -/
def Settings.performAll (settings : Settings) (source : DiceSource σ) :
    List ChatStep → σ → List (Run σ ChatAnswer)
  | [], _ => []
  | step :: rest, s =>
    let run := settings.perform source step s
    run :: settings.performAll source rest run.source

end DiceRoller
