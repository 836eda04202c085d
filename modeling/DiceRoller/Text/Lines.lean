/-
# Lines

A text is a sequence of lines, each ended by a line feed or by a carriage return and a line feed.
The last line may end with the text instead. The same rule serves characters and bytes: the standard
input is cut into lines before it is decoded, and the file of assignments after it.

`splitLines` is written over any type of elements for that reason. It gives no line for what is left
empty behind the last line feed, and it takes one carriage return off in front of a line feed, not
more. `printedLines` is the other way to cut a text, at every line feed and nowhere else, as one
sees it when a text is printed: there an empty rest is a line, and carriage returns stay.

That the bytes and the characters of a text are cut into the same lines is proved in
`Proofs/Text/Encoding.lean`.
-/
namespace DiceRoller.Text

variable {α : Type} [BEq α]

/-- The sequence without one last element equal to `x`. -/
def dropLastIf (x : α) (s : List α) : List α :=
  if s.getLast? == some x then s.dropLast else s

/-- The lines of a sequence whose line feeds are `feed` and whose carriage returns are `ret`. -/
def splitLines (feed ret : α) (s : List α) : List (List α) :=
  let pieces := s.splitOn feed
  let last := pieces.getLast?.getD []
  pieces.dropLast.map (dropLastIf ret) ++ (if last.isEmpty then [] else [last])

/-- The lines of a text. -/
def lines (s : String) : List String :=
  (splitLines '\n' '\r' s.toList).map String.ofList

/-- A line without the carriage return it ends with. -/
def withoutReturn (line : String) : String := String.ofList (dropLastIf '\r' line.toList)

/-- The texts between the line feeds, as a printer sees them. -/
def printedLines (s : String) : List String := (s.toList.splitOn '\n').map String.ofList

end DiceRoller.Text
