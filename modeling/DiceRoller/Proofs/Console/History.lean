/-
# The history file

The history goes through a file between two sessions (section 9 of the specification keeps nothing
else). A file is text, and an entry may hold anything that can be typed, so two things could go
wrong: an entry could break into several lines, or a line could be taken for something else. This
file says that neither happens.

An entry is escaped before it is written, and an escaped entry holds no line feed. So a list of
lines that a session saves is one of which no line holds a line feed (`AreLines`), provided that the
lines it found in the file are, and these are pieces of a text that was cut at its line feeds. Only
the first line is taken for the header, so an entry that reads like the header comes back as well.

* `fileLines_fileText`: lines that are written are read again.
* `areLines_of_save_eq_some`: the lines that are saved hold no line feeds, whatever becomes of the
  file. One case for each `FileChange`.
* `fileLines_fileText_save`: what a session leaves in the file is what the next one finds there.

The lines are what is compared. A carriage return at the end of an entry is lost when the line is
read as an entry, since it then belongs to the line break; so nothing is claimed of the entries
themselves, beyond `unescapeText?_escapeText`.
-/
import DiceRoller.Console.History
import DiceRoller.Proofs.Text.Encoding

namespace DiceRoller

variable {lines : List String}

/-! ## 1. Lines of a file -/

/-- No line of the list holds a line feed. -/
def AreLines (lines : List String) : Prop := ∀ line ∈ lines, '\n' ∉ line.toList

/-- The line feeds of a text cut it into lines. -/
theorem areLines_printedLines (content : String) : AreLines (Text.printedLines content) := by
  intro line hline
  obtain ⟨piece, hpiece, rfl⟩ := List.mem_map.mp hline
  rw [String.toList_ofList]
  exact (Text.not_mem_and_subset_of_mem_splitOn hpiece).1

theorem withoutHeader_cons_header (lines : List String) :
    withoutHeader (historyHeader :: lines) = lines := by
  have hheader : Text.withoutReturn historyHeader = historyHeader := by decide
  rw [withoutHeader, List.head?_cons, Option.map_some, hheader, if_pos rfl, List.tail_cons]

theorem withoutHeader_subset (lines : List String) : withoutHeader lines ⊆ lines := by
  rw [withoutHeader]
  split
  · exact (List.tail_sublist lines).subset
  · exact List.Subset.refl lines

theorem areLines_fileLines (content : String) : AreLines (fileLines content) := by
  intro line hline
  have hmem := withoutHeader_subset _ hline
  have hcut : line ∈ Text.printedLines content := by
    rcases Text.dropLastIf_eq_or "" (Text.printedLines content) with hsame | hdropped
    · rwa [hsame] at hmem
    · rw [hdropped]
      exact List.mem_append_left _ hmem
  exact areLines_printedLines content line hcut

/-- **Lines that are written are read again**, also if one of them reads like the header. -/
theorem fileLines_fileText (h : AreLines lines) : fileLines (fileText lines) = lines := by
  have hheader : AreLines (historyHeader :: lines) := by
    intro line hline
    rcases List.mem_cons.mp hline with rfl | hline
    · decide
    · exact h line hline
  -- the line feed at the end opens one more line, which is empty
  have hcut : Text.printedLines (fileText lines) = (historyHeader :: lines) ++ [""] := by
    have hpieces : ∀ piece ∈ (historyHeader :: lines).map String.toList, '\n' ∉ piece := by
      intro piece hpiece
      obtain ⟨line, hline, rfl⟩ := List.mem_map.mp hpiece
      exact hheader line hline
    have hid : String.ofList ∘ String.toList = id := funext fun _ => String.ofList_toList
    have hfeed : "\n".toList = ['\n'] := rfl
    rw [Text.printedLines, fileText, String.toList_append, String.toList_intercalate, hfeed,
      List.splitOn_append_cons_self, List.splitOn_intercalate '\n' hpieces (by simp), List.map_append,
      List.map_map, hid, List.map_id]
    rfl
  rw [fileLines, hcut, Text.dropLastIf_concat_self, withoutHeader_cons_header]

/-! ## 2. Entries of a file -/

theorem lineFeed_not_mem_escapeText (s : List Char) : '\n' ∉ escapeText s := by
  fun_induction escapeText s with
  | case1 => exact List.not_mem_nil
  | case2 rest ih => simp [ih]
  | case3 rest ih => simp [ih]
  | case4 c rest _ hfeed ih => simp [Ne.symm hfeed, ih]

/-- The lines of entries hold no line feeds, since those are written out. -/
theorem areLines_map_writeEntry (entries : List String) : AreLines (entries.map writeEntry) := by
  intro line hline
  obtain ⟨entry, -, rfl⟩ := List.mem_map.mp hline
  rw [writeEntry, String.toList_ofList]
  exact lineFeed_not_mem_escapeText entry.toList

theorem areLines_of_save_eq_some {h : History} {file : Option (List String)} {saved : List String}
    (hfile : ∀ lines ∈ file, AreLines lines) (hsave : h.save file = some saved) : AreLines saved := by
  rw [History.save] at hsave
  cases hchange : h.fileChange file with
  | kept =>
    rw [hchange] at hsave
    exact hfile saved hsave
  | extended =>
    rw [hchange] at hsave
    obtain rfl := Option.some.inj hsave
    intro line hline
    rcases List.mem_append.mp hline with hline | hline
    · cases file with
      | none => exact absurd hline List.not_mem_nil
      | some lines => exact hfile lines rfl line hline
    · exact areLines_map_writeEntry _ line hline
  | replaced =>
    rw [hchange] at hsave
    obtain rfl := Option.some.inj hsave
    exact areLines_map_writeEntry _
  | merged =>
    rw [hchange] at hsave
    obtain rfl := Option.some.inj hsave
    exact areLines_map_writeEntry _

/-- **What a session leaves in the file is what the next one finds there.** -/
theorem fileLines_fileText_save {h : History} {content : Option String} {saved : List String}
    (hsave : h.save (content.map fileLines) = some saved) : fileLines (fileText saved) = saved := by
  refine fileLines_fileText (areLines_of_save_eq_some ?_ hsave)
  intro lines hlines
  obtain ⟨text, -, rfl⟩ := Option.map_eq_some_iff.mp hlines
  exact areLines_fileLines text

end DiceRoller
