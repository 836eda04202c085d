/-
# The command line

Seven options take a value, three switches take none, and help or the version may be asked for
(section 9 of the specification). The words of the command line are read from left to right. An
option that is given as a word of its own waits for its value; whether that value will do is settled
when the next option, switch or request comes, or at the end of the line. A word that means nothing
is an error at once.

The rules are those of the library that reads the arguments: names are written out in full, a value
stands behind the first equals sign or in the next word, that word must not begin with a dash unless
it is a dash alone, nothing is given twice, and two dashes alone end the options. Letters behind one
dash may stand together. The order of the errors follows from the order of the words, and where an
option waits, from when it is settled.

The reader is a fold over the words with a state (`ArgumentReader`), one definition for each way of
giving an argument. `Proofs/Options/Arguments.lean` proves that a command line on which nothing is
given twice is read as what its arguments give. Of command lines with errors nothing is proved.
-/
import DiceRoller.Chat.Settings

namespace DiceRoller

/-! ## 1. Names -/

/-- An option that takes a value. -/
inductive ValueOption where
  | die
  | trigger
  | autoRespond
  | ignoreNicks
  | ignoreChannels
  | nick
  | channel
deriving Repr, DecidableEq

/-- A switch, which takes none. -/
inductive Switch where
  | debug
  | disabled
  | away
deriving Repr, DecidableEq

/-- What a name on the command line stands for. -/
inductive ArgumentName where
  | value (option : ValueOption)
  | switch (switch : Switch)
  | help
  | version
deriving Repr, DecidableEq

/-- The name of an option without the dashes. -/
def ValueOption.name : ValueOption → String
  | .die => "die"
  | .trigger => "trigger"
  | .autoRespond => "auto-respond"
  | .ignoreNicks => "ignore-nicks"
  | .ignoreChannels => "ignore-channels"
  | .nick => "nick"
  | .channel => "channel"

/-- Every option that takes a value. -/
def ValueOption.all : List ValueOption :=
  [.die, .trigger, .autoRespond, .ignoreNicks, .ignoreChannels, .nick, .channel]

/-- The name of a switch without the dashes. -/
def Switch.name : Switch → String
  | .debug => "debug"
  | .disabled => "disabled"
  | .away => "away"

/-- Every switch. -/
def Switch.all : List Switch := [.debug, .disabled, .away]

/-- What a name after two dashes stands for. It must be written out in full. -/
def ArgumentName.ofLong? (name : String) : Option ArgumentName :=
  if name = "help" then some .help
  else if name = "version" then some .version
  else match ValueOption.all.find? (·.name = name) with
    | some option => some (.value option)
    | none => (Switch.all.find? (·.name = name)).map .switch

/-- What a letter after one dash stands for. -/
def ArgumentName.ofShort? : Char → Option ArgumentName
  | 'd' => some (.switch .debug)
  | 'h' => some .help
  | 'V' => some .version
  | _ => none

/-! ## 2. Errors -/

/-- Why the program does not start. -/
inductive UsageError where
  | unknownArgument (word : String)
  | missingValue (option : ValueOption)
  /-- A value is given to a switch or to a request. -/
  | unexpectedValue (name : String)
  | repeatedOption (option : ValueOption)
  | repeatedSwitch (switch : Switch)
  | unknownMode (reason : UnknownMode)
  /-- A switch is set by a variable that is neither `true` nor `false`. -/
  | notBoolean (text : String)
  | helpWanted
  | versionWanted
deriving Repr, DecidableEq

/-! ## 3. What was given -/

/-- The options and switches of a command line, in the order in which they were settled. -/
structure CommandLine where
  values : List (ValueOption × String)
  switches : List Switch
deriving Repr, DecidableEq

/-- The value of an option, if it was given. -/
def CommandLine.value? (l : CommandLine) (option : ValueOption) : Option String :=
  (l.values.find? (·.1 = option)).map (·.2)

/-- Adds the value of an option, which must be new and, for the mode, name one. -/
def CommandLine.addValue (l : CommandLine) (option : ValueOption) (value : String) :
    Except UsageError CommandLine :=
  if (l.value? option).isSome then .error (.repeatedOption option)
  else
    let added : CommandLine := ⟨l.values ++ [(option, value)], l.switches⟩
    match option, AutoRespond.parse value with
    | .autoRespond, .error reason => .error (.unknownMode reason)
    | _, _ => .ok added

/-- Adds a switch, which must be new. -/
def CommandLine.addSwitch (l : CommandLine) (switch : Switch) : Except UsageError CommandLine :=
  if switch ∈ l.switches then .error (.repeatedSwitch switch)
  else .ok ⟨l.values, l.switches ++ [switch]⟩

/-! ## 4. Reading -/

/-- What is settled so far, and the last option if it is not: with its value once that has come. -/
structure ArgumentReader where
  settled : CommandLine
  waiting : Option (ValueOption × Option String)
deriving Repr, DecidableEq

/-- Settles the option that is waiting. -/
def ArgumentReader.settle (r : ArgumentReader) : Except UsageError CommandLine :=
  match r.waiting with
  | none => .ok r.settled
  | some (option, none) => .error (.missingValue option)
  | some (option, some value) => r.settled.addValue option value

/-- Takes a name without a value. -/
def ArgumentReader.takeName (r : ArgumentReader) (name : ArgumentName) :
    Except UsageError ArgumentReader :=
  match r.settle with
  | .error reason => .error reason
  | .ok l =>
    match name with
    | .value option => .ok ⟨l, some (option, none)⟩
    | .switch switch => (l.addSwitch switch).map (⟨·, none⟩)
    | .help => .error .helpWanted
    | .version => .error .versionWanted

/-- Takes a long name and the value that is attached to it. -/
def ArgumentReader.takeLong (r : ArgumentReader) (name : String) (value : Option String) :
    Except UsageError ArgumentReader :=
  match ArgumentName.ofLong? name, value with
  | none, _ => .error (.unknownArgument ("--" ++ name))
  | some found, none => r.takeName found
  | some (.value option), some v =>
    match r.settle with
    | .error reason => .error reason
    | .ok l => (l.addValue option v).map (⟨·, none⟩)
  | some _, some _ => .error (.unexpectedValue name)

/-- Takes a row of letters after one dash. -/
def ArgumentReader.takeShort (r : ArgumentReader) : List Char → Except UsageError ArgumentReader
  | [] => .ok r
  | c :: rest =>
    match ArgumentName.ofShort? c with
    | none => .error (.unknownArgument (String.ofList ['-', c]))
    | some found =>
      match r.takeName found with
      | .error reason => .error reason
      | .ok r => r.takeShort rest

/-- Takes a word that is no option. It can only be the value that an option waits for. -/
def ArgumentReader.takeWord (r : ArgumentReader) (word : String) :
    Except UsageError ArgumentReader :=
  match r.waiting with
  | some (option, none) => .ok ⟨r.settled, some (option, some word)⟩
  | _ => .error (.unknownArgument word)

/-- Takes one word of the command line other than `--`. A lone dash is no option. -/
def ArgumentReader.take (r : ArgumentReader) (word : String) : Except UsageError ArgumentReader :=
  match word.toList with
  | '-' :: '-' :: s =>
    let name := String.ofList (s.takeWhile (· != '='))
    match s.dropWhile (· != '=') with
    | [] => r.takeLong name none
    | _ :: value => r.takeLong name (some (String.ofList value))
  | '-' :: c :: s => r.takeShort (c :: s)
  | _ => r.takeWord word

/-- Takes all words. After two dashes alone no word has a meaning. -/
def ArgumentReader.takeAll (r : ArgumentReader) : List String → Except UsageError CommandLine
  | [] => r.settle
  | word :: rest =>
    if word = "--" then
      match rest with
      | [] => r.settle
      | stray :: _ => .error (.unknownArgument stray)
    else
      match r.take word with
      | .error reason => .error reason
      | .ok r => r.takeAll rest

/-- Reads a command line, given without the name of the program. -/
def CommandLine.read (words : List String) : Except UsageError CommandLine :=
  ArgumentReader.takeAll ⟨⟨[], []⟩, none⟩ words

end DiceRoller
