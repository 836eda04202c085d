/-
# What is seen of a screen

A terminal hides nothing of a line without the escape character. No line of the log holds one: it is
written out there like every other character that a terminal obeys, so the log is seen as it is
printed, whatever a message or a remembered line holds.

Results are different, since they hold what the user typed. What is seen of them is left as
`Screen.seen` says, and the theorems about sessions speak of that. They need only that screens can
be put one after the other, for lines are seen one by one.

* `seenAfter_of_not_mem`: a text without the escape character is seen as it is, by induction on its
  characters.
* `Screen.seen_append`: what is seen of screens shown one after the other.
* `escape_not_mem_loggedChar`: no character is written out with an escape character. The characters
  that are written out lie below U+00A0, and for these it is decided (`escape_not_mem_hexNumeral`).
* `map_seenLine_loggedLines`: the log is seen as it is printed.
-/
import DiceRoller.Console.Log
import DiceRoller.Console.Screen
import DiceRoller.Proofs.Text.Encoding

namespace DiceRoller

/-! ## 1. Lines without the escape character -/

theorem sequenceLength?_of_ne {c : Char} (hc : c ≠ '\x1b') (rest : List Char) :
    sequenceLength? (c :: rest) = none := by
  rw [sequenceLength?]
  intro r h
  exact hc (List.cons.inj h).1

/-- By induction on the characters. -/
theorem seenAfter_of_not_mem {s : List Char} (h : '\x1b' ∉ s) : seenAfter 0 s = s := by
  induction s with
  | nil => rfl
  | cons c rest ih =>
    obtain ⟨hc, hrest⟩ := List.ne_and_not_mem_of_not_mem_cons h
    rw [seenAfter, sequenceLength?_of_ne hc.symm, ih hrest]

theorem seenLine_of_not_mem {line : String} (h : '\x1b' ∉ line.toList) : seenLine line = line := by
  rw [seenLine, seenAfter_of_not_mem h, String.ofList_toList]

/-! ## 2. Screens one after the other -/

/-- What is seen of screens shown one after the other is what is seen of each of them. -/
theorem Screen.seen_append (a b : Screen) : (a.append b).seen = a.seen.append b.seen := by
  simp [seen, append]

/-- Several screens one after the other. -/
def Screen.concat : List Screen → Screen
  | [] => .empty
  | a :: rest => a.append (concat rest)

theorem Screen.concat_singleton (a : Screen) : concat [a] = a := by
  simp [concat, append, empty]

/-! ## 3. The log -/

/-- No digit is the escape character. -/
theorem escape_not_mem_hexNumeral : ∀ n < 0xA0, '\x1b' ∉ hexNumeral n := by decide +kernel

theorem toNat_lt_of_isTerminalControl {c : Char} (h : isTerminalControl c = true) :
    c.toNat < 0xA0 := by
  simp only [isTerminalControl, Bool.or_eq_true, beq_iff_eq] at h
  rcases h with (((rfl | rfl) | rfl) | rfl) | rfl <;> decide

/-- The escape character is written out. -/
theorem escape_not_mem_loggedChar (c : Char) : '\x1b' ∉ loggedChar c := by
  rw [loggedChar]
  split
  · rename_i hcontrol
    have hdigits := escape_not_mem_hexNumeral c.toNat (toNat_lt_of_isTerminalControl hcontrol)
    simpa using hdigits
  · rename_i hcontrol
    split
    · rename_i hhigh
      simp only [isHighControl, Bool.and_eq_true, decide_eq_true_eq] at hhigh
      have hdigits := escape_not_mem_hexNumeral c.toNat (by omega)
      simpa using hdigits
    · rw [List.mem_singleton]
      rintro rfl
      exact hcontrol rfl

theorem escape_not_mem_loggedText (text : String) : '\x1b' ∉ (loggedText text).toList := by
  rw [loggedText, String.toList_ofList, List.mem_flatMap]
  rintro ⟨c, -, hc⟩
  exact escape_not_mem_loggedChar c hc

theorem escape_not_mem_of_mem_loggedLines {e : Event} {line : String} (h : line ∈ e.loggedLines) :
    '\x1b' ∉ line.toList := by
  obtain ⟨piece, hpiece, rfl⟩ := List.mem_map.mp h
  rw [String.toList_ofList]
  intro hmem
  have htext := (Text.not_mem_and_subset_of_mem_splitOn hpiece).2 hmem
  rw [String.toList_append, String.toList_append, List.mem_append, List.mem_append] at htext
  rcases htext with (hlevel | hblank) | htext
  · have hname : ∀ level : Level, '\x1b' ∉ level.text.toList := by
      intro level
      cases level <;> decide
    exact hname e.level hlevel
  · exact absurd hblank (by decide)
  · exact escape_not_mem_loggedText e.message htext

/-- **The log is seen as it is printed.** -/
theorem map_seenLine_loggedLines (o : Options) (log : List Event) :
    (o.loggedLines log).map seenLine = o.loggedLines log := by
  have hsame : ∀ line ∈ o.loggedLines log, seenLine line = id line := by
    intro line hline
    obtain ⟨e, -, he⟩ := List.mem_flatMap.mp hline
    exact seenLine_of_not_mem (escape_not_mem_of_mem_loggedLines he)
  rw [List.map_congr_left hsame, List.map_id]

end DiceRoller
