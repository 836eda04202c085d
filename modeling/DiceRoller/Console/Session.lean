/-
# Sessions

A session at the console greets the user, answers every line of the input in turn and remembers it,
and says how it ended. What one line leads to does not stop the lines after it.

This is the whole run of the host that the specification ships (sections 1 and 6), as a function:
`Options.session` maps the options, the input, the history file and the state of the dice source to
all that is seen, the file afterwards and the exit code. What changes from line to line is in
`SessionState`, and the loop (`Options.steps`) goes by structural recursion on the lines. A line is
remembered as it was typed, before it is trimmed, and also where it is refused.

`Proofs/Console/Session.lean` proves that a session over piped input is put together from its lines.
`Main.lean` runs the same steps on the real standard input, one line as it comes after the other.
The time of a log line and the colours are left out, and of a line that is drawn anew while it is
typed only the last drawing is described.
-/
import DiceRoller.Console.Answer
import DiceRoller.Console.Input
import DiceRoller.Console.Prompt

namespace DiceRoller

variable {σ : Type}

/-! ## 1. Fixed lines -/

/-- The first line of every session. -/
def banner : String := Level.info.text ++ " The die is cast, we're ready to roll!"

/-- The warning that there is nothing to remember yet. -/
def noHistoryWarning : String := "repl: warn: no previous history"

/-- The last line of a session. -/
def Ending.text : Ending → String
  | .finished => "repl: signal: CTRL-D"
  | .interrupted => "repl: signal: CTRL-C"
  | .undecodable => "repl: error: `Io(Error \x7b kind: InvalidData, message: "
      ++ "\"stream did not contain valid UTF-8\" \x7d)`"

/-- The exit code of a session. However its input ends, the session ends in order. -/
def Ending.exitCode : Ending → Nat
  | .finished | .interrupted | .undecodable => 0

/-- The prompt of the line with this number. -/
def promptFor (number : Nat) : String := "roll: " ++ number.repr ++ "> "

/-- A line of the terminal, on which blanks at the end are not seen. -/
def terminalLine (text : String) : String := String.ofList (Text.trimEnd text.toList)

/-! ## 2. The loop -/

/-- What changes from line to line. -/
structure SessionState (σ : Type) where
  source : σ
  history : History
  /-- The number of the next line. -/
  number : Nat

/-- The prompt with the text that is typed behind it, if prompts are shown. -/
def showPrompt (terminal : Bool) (number : Nat) (typed : String) : Screen :=
  if terminal then ⟨[terminalLine (promptFor number ++ typed)], []⟩ else .empty

/-- Answers one line and remembers it as it was typed. -/
def Options.step (o : Options) (source : DiceSource σ) (terminal : Bool) (line : String)
    (state : SessionState σ) : Screen × SessionState σ :=
  let run := o.answer source line state.source
  ((showPrompt terminal state.number line).append (o.showRun run),
    ⟨run.source, state.history.add line, state.number + 1⟩)

/-- Answers lines one after the other. -/
def Options.steps (o : Options) (source : DiceSource σ) (terminal : Bool) :
    List String → SessionState σ → Screen × SessionState σ
  | [], state => (.empty, state)
  | line :: rest, state =>
    let first := o.step source terminal line state
    let others := o.steps source terminal rest first.2
    (first.1.append others.1, others.2)

/-! ## 3. The whole session -/

/-- What is seen before the first line. -/
def Options.showStart (o : Options) (file : Option (List String)) : Screen :=
  (Screen.ofErr banner).append <|
    match file with
    | none => .ofErr noHistoryWarning
    | some lines => .ofLog o (fileWarnings lines)

/-- What is seen after the last line: the prompt it ended at, with the text typed there and the hint
to it, how it ended, and what was found when the history was saved. -/
def Options.showEnd (o : Options) (terminal : Bool) (input : Input) (file : Option (List String))
    (state : SessionState σ) : Screen :=
  let hint := (state.history.hint input.unfinished).getD ""
  ((showPrompt terminal state.number (input.unfinished ++ hint)).append
    (.ofErr input.ending.text)).append (.ofLog o (state.history.saveWarnings file))

/-- What a session leaves behind: all that was seen, the history file and the exit code. -/
structure Transcript where
  screen : Screen
  history : Option (List String)
  exitCode : Nat
deriving Repr, DecidableEq

/-- The history that a session begins with. -/
def startHistory (file : Option (List String)) : History := .ofFile (file.getD [])

/-- A whole session. The file holds the history of the sessions before, if there were any. -/
def Options.session (o : Options) (source : DiceSource σ) (terminal : Bool) (input : Input)
    (file : Option (List String)) (s : σ) : Transcript :=
  let answered := o.steps source terminal input.lines ⟨s, startHistory file, 1⟩
  let shown := ((o.showStart file).append answered.1).append
    (o.showEnd terminal input file answered.2)
  ⟨shown.seen, answered.2.history.save file, input.ending.exitCode⟩

end DiceRoller
