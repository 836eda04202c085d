/-
# Usage

What the program says when it does not start, and the exit code it then leaves behind. The code is
that of the library that reads the arguments: two for a command line that cannot be read, and zero
where help or the version was asked for, since then the program did what it was asked for.

The words are not the library's. It prints a whole page with a description of every option, and for
an error a hint how to mend it. Here every error has one line that says what is wrong, and help is
the options in one line. Only the text for a mode that is not one is the same, since it is made by
the settings (`UnknownMode.message`). `UsageError` tells the kinds of errors apart, so what a
command line is refused for can be said without these words.
-/
import DiceRoller.Options.Basic

namespace DiceRoller

/-- The options and switches in one line. -/
def usageLine : String :=
  "options: " ++ " ".intercalate
    (ValueOption.all.map (fun o => "[--" ++ o.name ++ " VALUE]")
      ++ Switch.all.map (fun s => "[--" ++ s.name ++ "]"))

/-- The version of the program. -/
def versionLine : String := "0.1.0"

/-- The reason in words, or what was asked for. -/
def UsageError.message : UsageError → String
  | .unknownArgument word => "unknown argument " ++ word
  | .missingValue option => "--" ++ option.name ++ " needs a value"
  | .unexpectedValue name => "--" ++ name ++ " takes no value"
  | .repeatedOption option => "--" ++ option.name ++ " is given twice"
  | .repeatedSwitch switch => "--" ++ switch.name ++ " is given twice"
  | .unknownMode reason => reason.message
  | .notBoolean text => disabledVariable ++ " is neither true nor false: " ++ text
  | .helpWanted => usageLine
  | .versionWanted => versionLine

/-- The exit code of a program that does not start: zero when it did what it was asked for. -/
def UsageError.exitCode : UsageError → Nat
  | .helpWanted | .versionWanted => 0
  | _ => 2

end DiceRoller
