/-
# The words of a text

A text is split into words at its blanks. `SplitsInto` says this without splitting: a text is a run
of blanks, or a run of blanks, a word and a text that begins with a blank or is at its end.
Statements about words use this relation, so that they can be read without knowing how words are
found.

The program cuts a text at every blank and drops the empty pieces. A piece that is not empty is a
longest run of characters that are not blank, and this is proved from the front: blanks at the start
belong to no word, and a word ends at the first blank behind it or with the text. The induction for
existence is on the length of the text, since what stands behind the first word is shorter.

* `wordChars_append_blank`: a blank keeps the words on its two sides apart.
* `wordChars_word_append`: a word, and the words behind it.
* `splitsInto_iff`: a text splits into exactly one list of words, and `wordChars` finds it.

Blank means white space of any kind (`isBlank`), line breaks among it. Where in the text the words
stand is the subject of `Proofs/Text/WordPlaces.lean`.
-/
import DiceRoller.Text.Blank
import Mathlib.Data.List.TakeWhile

namespace DiceRoller.Text

/-! ## 1. Splitting at a blank -/

theorem wordChars_append_blank {c : Char} (hc : isBlank c = true) (s t : List Char) :
    wordChars (s ++ c :: t) = wordChars s ++ wordChars t := by
  rw [wordChars, List.splitOnP_append_cons s t hc, List.filter_append]
  rfl

theorem wordChars_cons_blank {c : Char} (hc : isBlank c = true) (s : List Char) :
    wordChars (c :: s) = wordChars s := wordChars_append_blank hc [] s

/-- Blanks in front of a text belong to no word. By induction on the blanks. -/
theorem wordChars_blanks_append {b : List Char} (hb : ∀ c ∈ b, isBlank c = true) (s : List Char) :
    wordChars (b ++ s) = wordChars s := by
  induction b with
  | nil => rfl
  | cons c b ih =>
    rw [List.cons_append, wordChars_cons_blank (hb c List.mem_cons_self)]
    exact ih fun x hx => hb x (List.mem_cons_of_mem c hx)

/-- Characters of which none is blank are one word. -/
theorem wordChars_of_not_blank {w : List Char} (hne : w ≠ []) (hw : ∀ c ∈ w, isBlank c = false) :
    wordChars w = [w] := by
  rw [wordChars, List.splitOnP_eq_singleton hw, List.filter_cons_of_pos (by simpa using hne)]
  rfl

/-- A word ends at the first blank behind it, or with the text. -/
theorem wordChars_word_append {w s : List Char} (hne : w ≠ []) (hw : ∀ c ∈ w, isBlank c = false)
    (hs : ∀ c ∈ s.head?, isBlank c = true) : wordChars (w ++ s) = w :: wordChars s := by
  cases s with
  | nil =>
    rw [List.append_nil, wordChars_of_not_blank hne hw]
    rfl
  | cons c s =>
    have hc : isBlank c = true := hs c rfl
    rw [wordChars_append_blank hc, wordChars_of_not_blank hne hw, wordChars_cons_blank hc]
    rfl

/-! ## 2. What words are -/

/-- The text consists of these words, with blanks before, between and behind them. -/
inductive SplitsInto : List Char → List (List Char) → Prop
  | blank {s : List Char} (blank : ∀ c ∈ s, isBlank c = true) : SplitsInto s []
  | word {b w s : List Char} {ws : List (List Char)} (blank : ∀ c ∈ b, isBlank c = true)
      (ne_nil : w ≠ []) (word : ∀ c ∈ w, isBlank c = false)
      (stop : ∀ c ∈ s.head?, isBlank c = true) (rest : SplitsInto s ws) :
      SplitsInto (b ++ (w ++ s)) (w :: ws)

theorem SplitsInto.wordChars_eq {s : List Char} {ws : List (List Char)} (h : SplitsInto s ws) :
    wordChars s = ws := by
  induction h with
  | @blank s hs =>
    have hnil := wordChars_blanks_append hs []
    rw [List.append_nil] at hnil
    exact hnil
  | word hb hne hw hstop _ ih =>
    rw [wordChars_blanks_append hb, wordChars_word_append hne hw hstop, ih]

/-- A text without words is blank. -/
theorem SplitsInto.isBlank_of_nil {s : List Char} (h : SplitsInto s []) :
    ∀ c ∈ s, isBlank c = true := by
  cases h with
  | blank hs => exact hs

/-- Between two words stands a blank. -/
theorem SplitsInto.exists_blank {s v w : List Char} {ws : List (List Char)}
    (h : SplitsInto s (v :: w :: ws)) : ∃ c ∈ s, isBlank c = true := by
  cases h with
  | @word b v s _ _ _ _ hstop hrest =>
    have hne : s ≠ [] := by
      rintro rfl
      exact absurd hrest.wordChars_eq (by simp [wordChars])
    obtain ⟨c, s, rfl⟩ := List.exists_cons_of_ne_nil hne
    exact ⟨c, by simp, hstop c rfl⟩

theorem head?_dropWhile_eq_false {p : Char → Bool} {s : List Char} :
    ∀ c ∈ (s.dropWhile p).head?, p c = false := by
  intro c hc
  have hnot := List.head?_dropWhile_not p s
  rw [Option.mem_def.mp hc] at hnot
  exact hnot

/-- Every text splits into words. By induction on its length: what stands behind the first word is
shorter than the text. -/
theorem exists_splitsInto (s : List Char) : ∃ ws, SplitsInto s ws := by
  generalize hn : s.length = n
  induction n using Nat.strongRecOn generalizing s with
  | ind n ih =>
    have hblank : ∀ c ∈ s.takeWhile isBlank, isBlank c = true := fun c hc =>
      List.mem_takeWhile_imp hc
    have hs : s.takeWhile isBlank ++ s.dropWhile isBlank = s := List.takeWhile_append_dropWhile
    cases ht : s.dropWhile isBlank with
    | nil =>
      rw [ht, List.append_nil] at hs
      rw [hs] at hblank
      exact ⟨[], .blank hblank⟩
    | cons c t =>
      have hc : isBlank c = false := head?_dropWhile_eq_false c (by rw [ht]; rfl)
      have hlt : (t.dropWhile (!isBlank ·)).length < n := by
        have hsuffix := (List.dropWhile_suffix (l := t) (!isBlank ·)).length_le
        have hlength := congrArg List.length hs
        rw [ht, List.length_append, List.length_cons] at hlength
        omega
      obtain ⟨ws, hws⟩ := ih _ hlt _ rfl
      -- the text is the blanks, the word up to the next blank, and the rest
      have hsplit : s.takeWhile isBlank ++
          ((c :: t.takeWhile (!isBlank ·)) ++ t.dropWhile (!isBlank ·)) = s := by
        rw [List.cons_append, List.takeWhile_append_dropWhile, ← ht, hs]
      have hword : ∀ x ∈ c :: t.takeWhile (!isBlank ·), isBlank x = false := by
        intro x hx
        rcases List.mem_cons.mp hx with rfl | hx
        · exact hc
        · simpa using List.mem_takeWhile_imp hx
      have hstop : ∀ x ∈ (t.dropWhile (!isBlank ·)).head?, isBlank x = true := fun x hx => by
        simpa using head?_dropWhile_eq_false x hx
      rw [← hsplit]
      exact ⟨_, .word hblank (List.cons_ne_nil _ _) hword hstop hws⟩

/-- **A text splits into exactly one list of words**, the one that is found by splitting it. -/
theorem splitsInto_iff {s : List Char} {ws : List (List Char)} :
    SplitsInto s ws ↔ wordChars s = ws := by
  refine ⟨SplitsInto.wordChars_eq, ?_⟩
  rintro rfl
  obtain ⟨ws, h⟩ := exists_splitsInto s
  rw [h.wordChars_eq]
  exact h

end DiceRoller.Text
