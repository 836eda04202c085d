/-
# Silence

A line of chat is answered only if nothing speaks against it. There are six reasons for silence, and
the first one that applies is the one that is given. This is the part of the Responder (section 4.5
of the specification) that decides without rolling: it reads the settings and the message, and it
has no dice source.

The order of the reasons is that of `Settings.silence`: disabled, no answers at all, away, no
trigger, a filter for the nick, a filter for the channel. Of several filters that match, the first
one in its list is named, as it is written there.

Two of the guards look at texts. The trigger must stand at the start of the text with a word
boundary behind it (`startsWithTrigger`), which is told by the last character of the trigger, so an
empty trigger is never found. A filter matches a name when its lower case occurs in the lower case
of the name (`filterMatches`), each taken on its own.

* `Proofs/Chat/FirstReason.lean`: the reason is the first one that holds, each stated without a
  search.
* `Proofs/Chat/Permission.lean`: looser settings give no new reason.
* `Proofs/Chat/Filters.lean`: a name that contains a filter, and the filters that miss it all the
  same.
-/
import DiceRoller.Chat.Settings
import DiceRoller.Text.Alphanumeric
import DiceRoller.Text.Substring

namespace DiceRoller

/-! ## 1. Messages and reasons -/

/-- A line of chat as the host sees it. -/
structure Message where
  nick : String
  channel : String
  text : String
  /-- The host is marked away. -/
  away : Bool
deriving Repr, DecidableEq

/-- Why a line is left unanswered. -/
inductive Silence where
  | disabled
  | autoRespondOff
  /-- The host is away and answers only when present. -/
  | away
  /-- The line does not begin with the trigger word. -/
  | noTrigger
  | ignoredNick (filter : String)
  | ignoredChannel (filter : String)
deriving Repr, DecidableEq

/-- The reason as it is shown. -/
def Silence.text : Silence → String
  | .disabled => "rolling is disabled"
  | .autoRespondOff => "auto respond is off"
  | .away => "not answering while away"
  | .noTrigger => "no trigger word found"
  | .ignoredNick filter => "ignoring autoroll request (nick matches " ++ filter ++ ")"
  | .ignoredChannel filter => "ignoring autoroll request (channel matches " ++ filter ++ ")"

/-- The filter that a reason names. -/
def Silence.filter? : Silence → Option String
  | .ignoredNick filter => some filter
  | .ignoredChannel filter => some filter
  | _ => none

/-! ## 2. The trigger word -/

/-- The text begins with the trigger, and a word ends or begins where the trigger ends: of the
characters on the two sides of that place exactly one is a word character. The end of the text counts
as none. An empty trigger is never found. -/
def startsWithTrigger (trigger text : String) : Bool :=
  match trigger.toList.getLast?, trigger.toList.isPrefixOf? text.toList with
  | some last, some rest => Text.isWord last != rest.head?.any Text.isWord
  | _, _ => false

/-! ## 3. Filters -/

/-- The lower case of the filter occurs in the lower case of the name. A blank filter matches
nothing. -/
def filterMatches (filter name : String) : Bool :=
  !(Text.trimChars filter.toList).isEmpty
    && Text.occursIn (Text.lowerChars filter.toList) (Text.lowerChars name.toList)

/-- The first filter that matches, as it is written in the settings. -/
def matchingFilter? (filters : List String) (name : String) : Option String :=
  filters.find? (filterMatches · name)

/-! ## 4. The reason -/

/-- Why a message is left unanswered, `none` when it is answered. -/
def Settings.silence (s : Settings) (m : Message) : Option Silence :=
  if !s.enabled then some .disabled
  else if s.autoRespond = .off then some .autoRespondOff
  else if s.autoRespond = .whenPresent ∧ m.away then some .away
  else if !startsWithTrigger s.trigger m.text then some .noTrigger
  else match matchingFilter? s.ignoreNicks m.nick with
    | some filter => some (.ignoredNick filter)
    | none => (matchingFilter? s.ignoreChannels m.channel).map .ignoredChannel

end DiceRoller
