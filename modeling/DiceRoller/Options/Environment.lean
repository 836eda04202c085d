/-
# Environment variables

Variables come from the environment in which the program runs and, where that says nothing, from a
file of assignments (section 9 of the specification). The first value that is given to a variable
stays.

A line of the file is blank, a comment, or a name, an equals sign and a value; `export` may stand
before the name. The value may be quoted, hold escaped characters, and name other variables after a
dollar sign. A line that cannot be read ends the file, and what was read before it stands.

These are the rules of the library that reads such files. The value is read by a machine with six
modes and a note whether a double quote is open (`readValue`), by recursion on its characters.
Inside a value, a variable stands for what the environment or an earlier line of the file has given
it, and for nothing where neither has.

The theorems about options take the environment as it comes and never look into the file, so nothing
is proved of this reader.
-/
import DiceRoller.Text.Alphanumeric
import DiceRoller.Text.Blank
import DiceRoller.Text.Lines

namespace DiceRoller

/-! ## 1. Variables -/

/-- Names and values. Of two values for a name the first counts. -/
structure Environment where
  bindings : List (String × String)
deriving Repr, DecidableEq

/-- The value of a variable. -/
def Environment.get? (env : Environment) (name : String) : Option String :=
  (env.bindings.find? (·.1 == name)).map (·.2)

/-- Gives a variable a value unless it has one. -/
def Environment.provide (env : Environment) (name value : String) : Environment :=
  ⟨env.bindings ++ [(name, value)]⟩

/-- The characters that stand for a variable inside a value, none when it has no value. -/
def Environment.expand (env : Environment) (name : List Char) : List Char :=
  ((env.get? (String.ofList name)).getD "").toList

/-! ## 2. The value of an assignment -/

/-- Where in a value the reader stands. -/
inductive ValueMode where
  | bare
  /-- After a backslash. -/
  | escaped
  /-- Between single quotes, where every character stands for itself. -/
  | single
  /-- In the name of a variable. -/
  | reference (name : List Char)
  /-- In the name of a variable, between braces. -/
  | braced (name : List Char)
  /-- After the value, where only a comment may follow. -/
  | ended
deriving Repr, DecidableEq

/-- What an escaped character stands for. -/
def unescaped? : Char → Option Char
  | 'n' => some '\n'
  | c => if c = '\\' ∨ c = '\'' ∨ c = '"' ∨ c = '$' ∨ c = ' ' then some c else none

/-- Reads a value from a mode on; `quoted` says whether a double quote is open. The character that
ends the name of a variable stands for itself. -/
def readValue (env : Environment) : ValueMode → (quoted : Bool) → List Char → Option (List Char)
  | .single, _, [] => none
  | .braced _, _, [] => none
  | .reference name, quoted, [] => if quoted then none else some (env.expand name)
  | _, quoted, [] => if quoted then none else some []
  | .ended, quoted, c :: rest =>
    if c = ' ' ∨ c = '\t' then readValue env .ended quoted rest
    else if c = '#' then some []
    else none
  | .escaped, quoted, c :: rest =>
    (unescaped? c).bind fun d => (readValue env .bare quoted rest).map (d :: ·)
  | .single, quoted, c :: rest =>
    if c = '\'' then readValue env .bare quoted rest
    else (readValue env .single quoted rest).map (c :: ·)
  | .reference name, quoted, c :: rest =>
    if Text.isAlphanumeric c then readValue env (.reference (name ++ [c])) quoted rest
    else if c = '\x7b' ∧ name = [] then readValue env (.braced []) quoted rest
    else if c = '$' then (readValue env (.reference []) quoted rest).map (env.expand name ++ ·)
    else (readValue env .bare quoted rest).map fun s => env.expand name ++ c :: s
  | .braced name, quoted, c :: rest =>
    if c = '\x7d' then (readValue env .bare quoted rest).map (env.expand name ++ ·)
    else readValue env (.braced (name ++ [c])) quoted rest
  | .bare, quoted, c :: rest =>
    if c = '$' then readValue env (.reference []) quoted rest
    else if c = '\\' then readValue env .escaped quoted rest
    else if c = '"' then readValue env .bare (!quoted) rest
    else if quoted then (readValue env .bare quoted rest).map (c :: ·)
    else if c = '\'' then readValue env .single quoted rest
    else if c = ' ' ∨ c = '\t' then readValue env .ended quoted rest
    else (readValue env .bare quoted rest).map (c :: ·)

/-! ## 3. Lines and files -/

/-- What a line of the file says. -/
inductive Assignment where
  | nothing
  | assign (name value : String)
  | unreadable
deriving Repr, DecidableEq

/-- A character that the name of a variable may begin with. -/
def isNameStart (c : Char) : Bool := c.isAlpha || c == '_'

/-- A character that the name of a variable may go on with. -/
def isNameRest (c : Char) : Bool := c.isAlphanum || c == '_' || c == '.'

/-- The name at the start of a text and what follows it and the blanks after it. -/
def readName? (s : List Char) : Option (List Char × List Char) :=
  if s.head?.any isNameStart then
    some (s.takeWhile isNameRest, Text.trimStart (s.dropWhile isNameRest))
  else none

/-- The name before an equals sign and what follows the sign and the blanks after it. -/
def readTarget? (s : List Char) : Option (List Char × List Char) :=
  match readName? s with
  | some (name, '=' :: rest) => some (name, Text.trimStart rest)
  | _ => none

/-- The assignment on a line, with or without `export` in front of it. A variable may itself be
called `export`. -/
def readAssignment? (s : List Char) : Option (List Char × List Char) :=
  match readTarget? s, readName? s with
  | some found, _ => some found
  | none, some (name, rest) => if name = "export".toList then readTarget? rest else none
  | none, none => none

/-- The text is empty or a comment. -/
def holdsNothing (s : List Char) : Bool := s.head?.all (· == '#')

/-- Reads a line of the file. -/
def Environment.readLine (env : Environment) (line : String) : Assignment :=
  let s := Text.trimChars line.toList
  if holdsNothing s then .nothing
  else match readAssignment? s with
    | none => .unreadable
    | some (name, value) =>
      if holdsNothing value then .assign (String.ofList name) ""
      else match readValue env .bare false value with
        | some v => .assign (String.ofList name) (String.ofList v)
        | none => .unreadable

/-- Provides the variables of the lines, up to the first one that cannot be read. -/
def Environment.provideLines (env : Environment) : List String → Environment
  | [] => env
  | line :: rest =>
    match env.readLine line with
    | .nothing => env.provideLines rest
    | .assign name value => (env.provide name value).provideLines rest
    | .unreadable => env

/-- Provides the variables of a file. -/
def Environment.provideFile (env : Environment) (file : String) : Environment :=
  env.provideLines (Text.lines file)

end DiceRoller
