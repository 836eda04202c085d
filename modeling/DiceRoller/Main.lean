/-
# The program

Reads the options, the environment and the history, answers the lines of the standard input as they
come, and writes the history back. Everything that is decided is decided elsewhere: the options in
`Options.read`, a line in `Options.step`, the frame of a session in `Options.showStart` and
`Options.showEnd`, and the file in `History.save`, with `fileLines` and `fileText` for its content.

This is the only module with effects, and nothing is proved of it. A session that is given as a
whole is `Options.session`, of which the theorems in `Proofs/Console/Session.lean` speak. `converse`
runs the same steps on lines that are not yet there, so it ends only where the input does, and no
measure bounds it.

Only what the options or the file of assignments may ask for is taken from the environment
(`askedVariables`). Two things differ from a session at the terminal that the specification
describes: the terminal's own line editing is used, without completion, hints and colours, and the
dice are thrown with a generator that is seeded from the system.
-/
import DiceRoller.Console.Session
import DiceRoller.Dice.Random
import DiceRoller.Options.Usage

namespace DiceRoller

/-- Where the history is kept. -/
def historyPath : String := "history"

/-- Where more environment variables may be found. -/
def environmentPath : String := ".env"

/-- The content of a file, if there is one. -/
def readIfPresent (path : String) : IO (Option String) := do
  try return some (← IO.FS.readFile path) catch _ => return none

/-- The variables that the options or the file of assignments may ask for. -/
def askedVariables (file : String) : List String :=
  disabledVariable :: ValueOption.all.map (·.environmentName)
    ++ (file.toList.splitOnP (!Text.isAlphanumeric ·)).map String.ofList

/-- The environment of the program and of the file of assignments. -/
def readEnvironment : IO Environment := do
  let file := (← readIfPresent environmentPath).getD ""
  let found ← (askedVariables file).filterMapM fun name => do
    return (← IO.getEnv name).map (name, ·)
  return Environment.provideFile ⟨found⟩ file

/-- The lines of the history file, if there is one. -/
def readHistory : IO (Option (List String)) := do
  return (← readIfPresent historyPath).map fileLines

/-- Writes the lines of the history file. -/
def writeHistory (lines : List String) : IO Unit :=
  IO.FS.writeFile historyPath (fileText lines)

/-- Shows a screen on the two outputs. -/
def Screen.print (screen : Screen) : IO Unit := do
  for line in screen.err do IO.eprintln line
  for line in screen.out do IO.println line

/-- The bytes of the standard input up to the end of a line. -/
partial def readLineBytes (input : IO.FS.Stream) (bytes : ByteArray) : IO ByteArray := do
  let next ← input.read 1
  if next.isEmpty then return bytes
  else if next.toList == [10] then return bytes ++ next
  else readLineBytes input (bytes ++ next)

/-- Answers the lines of the standard input until it ends. -/
partial def converse (o : Options) (terminal : Bool) (state : SessionState StdGen) :
    IO (SessionState StdGen × Ending) := do
  if terminal then
    IO.print (promptFor state.number)
    (← IO.getStdout).flush
  let bytes ← readLineBytes (← IO.getStdin) .empty
  let input := Input.ofBytes bytes.toList
  match input.lines with
  | line :: _ =>
    let (screen, state) := o.step randomDice false line state
    screen.print
    converse o terminal state
  | [] => return (state, input.ending)

/-- Runs a session with the given words of the command line. -/
def run (words : List String) : IO UInt32 := do
  match Options.read words (← readEnvironment) with
  | .error reason =>
    IO.eprintln reason.message
    return .ofNat reason.exitCode
  | .ok o =>
    let file ← readHistory
    (o.showStart file).print
    let seed := (← IO.getRandomBytes 8).foldl (fun n byte => 256 * n + byte.toNat) 0
    let terminal ← (← IO.getStdin).isTty
    let (state, ending) ← converse o terminal ⟨mkStdGen seed, startHistory file, 1⟩
    (o.showEnd false ⟨[], "", ending⟩ file state).print
    match state.history.save file with
    | some lines => if state.history.fileChange file != .kept then writeHistory lines
    | none => pure ()
    return .ofNat ending.exitCode

end DiceRoller

/-- Runs the program. -/
def main (words : List String) : IO UInt32 := DiceRoller.run words
