/-
# Options

The options of a session at the console (section 9 of the specification). Each one is taken from the
command line, else from its environment variable, else it keeps its default. The debugging switch
and the away switch have no variable, and the one that disables rolling has a variable that must be
exactly `true` or `false` where it is looked at.

The text of the mode and the two lists of filters are read here, too: a mode that is not one is an
error, and a list is cut at its commas with blank entries dropped. A variable that is not used is
not checked, since the value on the command line goes first.

`Proofs/Options/Layers.lean` proves for all options at once that each comes from its layers and that
nothing else matters. The file of assignments is a layer of the environment
(`Options/Environment.lean`). Help and the version are errors here, since the program does not start
(`Options/Usage.lean`).
-/
import DiceRoller.Options.CommandLine
import DiceRoller.Options.Environment

namespace DiceRoller

/-- How a session at the console is set up. -/
structure Options where
  /-- Show the events that are told only on demand. -/
  debug : Bool
  settings : Settings
  /-- Who sends the lines that begin with the trigger word. -/
  nick : String
  /-- Where they are sent. -/
  channel : String
  /-- The host is marked away. -/
  away : Bool
deriving Repr, DecidableEq

/-- The environment variable of an option. -/
def ValueOption.environmentName : ValueOption → String
  | .die => "ROLLEM_DIE"
  | .trigger => "ROLLEM_TRIGGER"
  | .autoRespond => "ROLLEM_AUTO_RESPOND"
  | .ignoreNicks => "ROLLEM_IGNORE_NICKS"
  | .ignoreChannels => "ROLLEM_IGNORE_CHANNELS"
  | .nick => "ROLLEM_NICK"
  | .channel => "ROLLEM_CHANNEL"

/-- The environment variable that disables rolling. -/
def disabledVariable : String := "ROLLEM_DISABLED"

/-- The value of an option that nobody gives. -/
def ValueOption.default : ValueOption → String
  | .die => Settings.standard.die
  | .trigger => Settings.standard.trigger
  | .autoRespond => Settings.standard.autoRespond.text
  | .ignoreNicks => ""
  | .ignoreChannels => ""
  | .nick => "me"
  | .channel => "#local"

/-- The value of an option: as given, else from the environment, else the default. -/
def optionValue (l : CommandLine) (env : Environment) (option : ValueOption) : String :=
  match l.value? option with
  | some value => value
  | none => (env.get? option.environmentName).getD option.default

/-- Whether rolling is disabled, by the switch or by its variable. -/
def isDisabled (l : CommandLine) (env : Environment) : Except UsageError Bool :=
  if .disabled ∈ l.switches then .ok true
  else match env.get? disabledVariable with
    | none => .ok false
    | some text =>
      if text = "true" then .ok true
      else if text = "false" then .ok false
      else .error (.notBoolean text)

/-- The options that a command line and an environment make together. -/
def Options.ofCommandLine (l : CommandLine) (env : Environment) : Except UsageError Options :=
  match AutoRespond.parse (optionValue l env .autoRespond), isDisabled l env with
  | .error reason, _ => .error (.unknownMode reason)
  | _, .error reason => .error reason
  | .ok mode, .ok disabled => .ok {
      debug := .debug ∈ l.switches
      settings := {
        enabled := !disabled
        die := optionValue l env .die
        autoRespond := mode
        trigger := optionValue l env .trigger
        ignoreNicks := Text.entries (optionValue l env .ignoreNicks)
        ignoreChannels := Text.entries (optionValue l env .ignoreChannels) }
      nick := optionValue l env .nick
      channel := optionValue l env .channel
      away := .away ∈ l.switches }

/-- The options of a session started with these words in this environment. -/
def Options.read (words : List String) (env : Environment) : Except UsageError Options :=
  match CommandLine.read words with
  | .error reason => .error reason
  | .ok l => Options.ofCommandLine l env

end DiceRoller
