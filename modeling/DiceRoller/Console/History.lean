/-
# History

The lines typed at the console are remembered, the last hundred of them. A line that is empty, that
begins with a blank or that repeats the line before it is not worth remembering. Nothing else is
kept from one session to the next (section 9 of the specification).

The history is kept in a file, one entry a line behind a header, with the backslash and the line
feed escaped. At the end of a session the new entries are added to the file; where the file cannot
simply grow, it is read once more and written again. `History.fresh` counts the entries that are
new, which is all that the decision needs (`History.fileChange`). When the file is merged with the
new entries, it is the file as it was found at the start: that another session writes it in between
is not described.

A line that is not escaped as entries are is taken as it stands and warned of, each time the file is
read. Only the first line of a file is its header, so an entry that reads like the header is an
entry. A file without a header is read as if it had one; that such files, of an older kind, hold
entries that are not escaped is left out.

* `unescapeText?_escapeText`: an entry is read back from its line.
* `Proofs/Console/History.lean`: what a session leaves in the file is what the next one finds there.
-/
import DiceRoller.Event
import DiceRoller.Text.Blank
import DiceRoller.Text.Lines

namespace DiceRoller

/-! ## 1. Entries -/

/-- The most entries that are remembered. -/
def historyCapacity : Nat := 100

/-- The lines remembered, oldest first, and how many of them are new since the file was read. -/
structure History where
  entries : List String
  fresh : Nat
deriving Repr, DecidableEq

/-- A line worth remembering after these entries. -/
def isMemorable (entries : List String) (line : String) : Bool :=
  match line.toList with
  | [] => false
  | c :: _ => !Text.isBlank c && entries.getLast? != some line

/-- The last entries that there is room for. -/
def lastEntries (entries : List String) : List String :=
  entries.drop (entries.length - historyCapacity)

/-- Remembers a line that is worth it. -/
def History.add (h : History) (line : String) : History :=
  if isMemorable h.entries line then
    let entries := lastEntries (h.entries ++ [line])
    ⟨entries, min (h.fresh + 1) entries.length⟩
  else h

/-- The lines of a list that are remembered. -/
def History.ofLines (lines : List String) : History :=
  ⟨(lines.foldl History.add ⟨[], 0⟩).entries, 0⟩

/-! ## 2. Hints -/

/-- What is missing from the start of an entry to the whole entry. -/
def missingPart (typed entry : String) : Option String :=
  (typed.toList.isPrefixOf? entry.toList).bind fun rest =>
    if rest.isEmpty then none else some (String.ofList rest)

/-- How the latest entry that begins with the typed text goes on. -/
def History.hint (h : History) (typed : String) : Option String :=
  if typed.isEmpty then none
  else (h.entries.reverse.find? fun entry => typed.toList.isPrefixOf entry.toList).bind
    (missingPart typed)

/-! ## 3. The file -/

/-- An entry as it stands in the file. -/
def escapeText : List Char → List Char
  | [] => []
  | '\\' :: rest => '\\' :: '\\' :: escapeText rest
  | '\n' :: rest => '\\' :: 'n' :: escapeText rest
  | c :: rest => c :: escapeText rest

/-- Reads an entry back, if nothing else in it is escaped. -/
def unescapeText? : List Char → Option (List Char)
  | [] => some []
  | '\\' :: '\\' :: rest => (unescapeText? rest).map ('\\' :: ·)
  | '\\' :: 'n' :: rest => (unescapeText? rest).map ('\n' :: ·)
  | '\\' :: _ => none
  | c :: rest => (unescapeText? rest).map (c :: ·)

theorem unescapeText?_escapeText (s : List Char) : unescapeText? (escapeText s) = some s := by
  fun_induction escapeText s with
  | case1 => rfl
  | case2 rest ih => simp [unescapeText?, ih]
  | case3 rest ih => simp [unescapeText?, ih]
  | case4 c rest hb hn ih =>
    rw [unescapeText?]
    · simp [ih]
    all_goals simp_all

/-- The first line of every history file, in front of the entries. -/
def historyHeader : String := "#V2"

/-- The content of a file with these lines behind its header. -/
def fileText (lines : List String) : String := "\n".intercalate (historyHeader :: lines) ++ "\n"

/-- The lines behind the header. Only the first line is one: an entry may read like it. -/
def withoutHeader (lines : List String) : List String :=
  if lines.head?.map Text.withoutReturn = some historyHeader then lines.tail else lines

/-- The lines that a file with this content holds. -/
def fileLines (content : String) : List String :=
  withoutHeader (Text.dropLastIf "" (Text.printedLines content))

/-- The line of the file that holds an entry. -/
def writeEntry (entry : String) : String := String.ofList (escapeText entry.toList)

/-- The lines of the file that hold an entry. A carriage return at the end of a line belongs to the
line break, and empty lines hold none. -/
def entryLines (lines : List String) : List String :=
  (lines.map Text.withoutReturn).filter (!·.isEmpty)

/-- The entry that such a line holds. A line that was never written so is taken as it is. -/
def readEntry (line : String) : String :=
  match unescapeText? line.toList with
  | some s => String.ofList s
  | none => line

/-- The entries that the lines of the file hold. -/
def fileEntries (lines : List String) : List String := (entryLines lines).map readEntry

/-- What is told about the lines of the file when they are read. -/
def fileWarnings (lines : List String) : List Event :=
  ((entryLines lines).filter fun line => (unescapeText? line.toList).isNone).map .badlyEscaped

/-- The history that the file holds. -/
def History.ofFile (lines : List String) : History := .ofLines (fileEntries lines)

/-- The entries that are new. -/
def History.freshEntries (h : History) : List String :=
  h.entries.drop (h.entries.length - h.fresh)

/-- The file can grow: every entry in it is remembered, and there is room for the new ones. -/
def History.fits (h : History) (lines : List String) : Bool :=
  (History.ofFile lines).entries == fileEntries lines
    && (fileEntries lines).length + h.fresh ≤ historyCapacity

/-- What becomes of the file at the end of a session. -/
inductive FileChange where
  | kept
  /-- The new entries are written behind the others. -/
  | extended
  /-- The file holds what is remembered. -/
  | replaced
  /-- The new entries are added to what the file is found to hold. -/
  | merged
deriving Repr, DecidableEq

/-- Without new entries nothing is written. When everything is new, nothing in the file is of use. -/
def History.fileChange (h : History) (file : Option (List String)) : FileChange :=
  if h.fresh = 0 then .kept
  else match file with
    | none => .replaced
    | some lines =>
      if h.fresh = historyCapacity then .replaced
      else if h.fits lines then .extended
      else .merged

/-- The file after the session, given the file before it. -/
def History.save (h : History) (file : Option (List String)) : Option (List String) :=
  let lines := file.getD []
  match h.fileChange file with
  | .kept => file
  | .extended => some (lines ++ h.freshEntries.map writeEntry)
  | .replaced => some (h.entries.map writeEntry)
  | .merged => some ((h.freshEntries.foldl History.add (.ofFile lines)).entries.map writeEntry)

/-- What is told about the file when the history is saved. -/
def History.saveWarnings (h : History) (file : Option (List String)) : List Event :=
  if h.fileChange file = .merged then fileWarnings (file.getD []) else []

end DiceRoller
