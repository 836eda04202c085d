/-
# Events

What is worth a line in the log, and how that line reads. The specification (section 8) has resolved
rolls logged on demand and ignored requests always; the rules log an answer and a refusal too, and
the console warns of lines in its history file that it cannot read.

An event is data, and its words are a function of it (`Event.message`). So a log can be compared
event by event, and what an event says about a message or a roll is proved of the data.
`Event.level` decides whether it is shown without being asked for.

One event of the rules is left out. Where a text holds no dice set, the parser tells on demand why
it stopped, with the text and with an account that its parsing library makes. These are the
library's own words, and no other part of the program reads them. So every log here is the log
without that event: a malformed text leaves no event of its own. All other events of the rules are
here; what the libraries of the console log by themselves is not.
-/
import DiceRoller.Chat.Silence
import DiceRoller.DiceSet.Basic

namespace DiceRoller

/-- How much an event matters. -/
inductive Level where
  | debug
  | info
  | warning
deriving Repr, DecidableEq

/-- The name of a level in the log. -/
def Level.text : Level → String
  | .debug => "DEBUG"
  | .info => "INFO"
  | .warning => "WARN"

/-- Something that is worth a line in the log. The parser's account of a text without a dice set is
not among these. -/
inductive Event where
  /-- Dice are about to be thrown. -/
  | rolling (count sides : UInt64) (modifier : Modifier UInt64)
  /-- A command came while rolling was disabled. -/
  | refused (args : String)
  /-- A message was left unanswered for a reason that lies with the host or the text. -/
  | unanswered (reason : Silence) (text : String)
  /-- A message was left unanswered because of a filter. -/
  | ignored (reason : Silence) (nick channel : String)
  /-- A message was answered. -/
  | answered (dice nick : String)
  /-- A remembered line is not written the way such lines are. -/
  | badlyEscaped (line : String)
deriving Repr, DecidableEq

/-- An answer and a filter that did its work are told to everybody, and so is what went wrong. The
rest is told only on demand. -/
def Event.level : Event → Level
  | .rolling .. | .refused _ | .unanswered .. => .debug
  | .ignored .. | .answered .. => .info
  | .badlyEscaped _ => .warning

/-- The event in words. -/
def Event.message : Event → String
  | .rolling count sides modifier =>
    "rolling " ++ Text.numeral count ++ " of d" ++ Text.numeral sides ++ " " ++ modifier.text
  | .refused args => "disabled, not rolling `" ++ args ++ "`"
  | .unanswered reason text => reason.text ++ " in `" ++ text ++ "`"
  | .ignored reason nick channel => reason.text ++ " from " ++ nick ++ " in " ++ channel
  | .answered dice nick => "auto-rolling " ++ dice ++ " for " ++ nick
  | .badlyEscaped line => "bad escaped line: " ++ line

/-- The event as a line of the log. -/
def Event.line (e : Event) : String := e.level.text ++ " " ++ e.message

end DiceRoller
