/-
# Answering a line

The specification ships a host for the terminal beside the rules (section 1), which feeds lines to
them. This is what it does with one line. A line at the console that begins with the trigger word is
a message of the user to the channel and is answered like one; any other line is a command. Whatever
a line leads to is shown in lines of two kinds: results on the standard output, all else on the
standard error output.

For a message the console asks twice: first for the reason for silence, which it shows as a note,
and only where there is none for the reply. A command has no reason of its own, so where it is
refused the console says that rolling is disabled, and it would say the same of a message whose
reply did not come (`orSilence`). `Proofs/Console/Reason.lean` proves that what is told is always
true.

That a line begins with the trigger is looked at without the word boundary here
(`Options.isMessage`), so there are lines that are messages for the console and have no trigger for
the Responder. Colours are left out: of the marks around a result only the text between them is
described.
-/
import DiceRoller.Chat.Responder
import DiceRoller.Console.Log
import DiceRoller.Console.Markup
import DiceRoller.Console.Screen

namespace DiceRoller

variable {σ : Type}

/-! ## 1. The answer -/

/-- The trimmed text of a line is a message. An empty trigger makes none. -/
def Options.isMessage (o : Options) (text : String) : Bool :=
  !o.settings.trigger.isEmpty && o.settings.trigger.toList.isPrefixOf text.toList

/-- The message that a text at the console is. -/
def Options.message (o : Options) (text : String) : Message where
  nick := o.nick
  channel := o.channel
  text := text
  away := o.away

/-- A missing reply with the reason for it. -/
def orSilence (reason : Silence) : Option Reply → Except Silence Reply
  | some reply => .ok reply
  | none => .error reason

/-- The reply to a line, or the reason why there is none. -/
def Options.answer (o : Options) (source : DiceSource σ) (line : String) (s : σ) :
    Run σ (Except Silence Reply) :=
  let text := Text.trim line
  if o.isMessage text then
    match o.settings.silence (o.message text) with
    | some reason => ⟨.error reason, s, []⟩
    | none =>
      let run := o.settings.respond source (o.message text) s
      ⟨orSilence .disabled run.value, run.source, run.log⟩
  else
    let run := o.settings.command source text s
    ⟨orSilence .disabled run.value, run.source, run.log⟩

/-! ## 2. What is shown -/

/-- The events of a log on the standard error output. -/
def Screen.ofLog (o : Options) (log : List Event) : Screen := ⟨[], o.loggedLines log⟩

/-- The note that tells why nothing was rolled. -/
def Silence.note (reason : Silence) : String :=
  "repl: note: nothing rolled, " ++ reason.text

/-- What a reply or a reason for silence looks like. -/
def showAnswer : Except Silence Reply → Screen
  | .error reason => .ofErr reason.note
  | .ok reply =>
    match reply.result with
    | .error reason => .ofErr reason.message
    | .ok outcome =>
      .ofOut (shownMarkup ("*rolling* `" ++ reply.dice ++ "` **" ++ outcome.text ++ "**"))

/-- What a line of input leads to on the screen. -/
def Options.showRun (o : Options) (run : Run σ (Except Silence Reply)) : Screen :=
  (Screen.ofLog o run.log).append (showAnswer run.value)

end DiceRoller
