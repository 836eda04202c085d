/-
# Where words stand

`SplitsInto` says which words a text consists of. This file says where they stand: `WordAt s n w`
when the word `w` begins after `n` characters of `s`. What ties the two together is the number of
words in front of a place. It never goes down from left to right, and it goes up where a word
begins.

A place may cut a word in two, and then its front half counts as a word in front of the place. So
the number of words in front of a place tells which word is the first to begin there or later, also
where the place is inside a word, and no distinction has to be made.

* `length_wordChars_le_append`: a longer text has no fewer words, by induction on what is put behind
  the shorter one.
* `WordAt.getElem?_wordChars`, `exists_wordAt`: the words of a text in order are the words at its
  places, and each is found by the number of words in front of it.
* `WordAt.le_iff`: of two places the one with fewer words in front of it comes first, if a word
  begins at the other.
* `firstWordFrom_iff`: which word is the first that begins at a place or behind it.

The use of this is the word behind a trigger, which is found by counting words from the start of the
text (`Proofs/Chat/Argument.lean`).
-/
import DiceRoller.Proofs.Text.Words
import Mathlib.Data.List.DropRight

namespace DiceRoller.Text

variable {s w : List Char} {n : Nat}

/-! ## 1. The number of words -/

/-- No word goes on behind a text that is empty or ends in a blank. -/
theorem wordChars_append_of_getLast? (hs : ∀ c ∈ s.getLast?, isBlank c = true) (t : List Char) :
    wordChars (s ++ t) = wordChars s ++ wordChars t := by
  rcases List.eq_nil_or_concat' s with rfl | ⟨init, c, rfl⟩
  · rfl
  · have hc : isBlank c = true := hs c List.getLast?_concat
    have hinit : wordChars (init ++ [c]) = wordChars init :=
      (wordChars_append_blank hc init []).trans (List.append_nil _)
    rw [← List.append_cons, wordChars_append_blank hc, hinit]

/-- One more character begins a new word, or goes on with the last one, or ends it. -/
theorem length_wordChars_le_concat (s : List Char) (c : Char) :
    (wordChars s).length ≤ (wordChars (s ++ [c])).length := by
  cases hc : isBlank c with
  | true =>
    rw [wordChars_append_blank hc, List.length_append]
    exact Nat.le_add_right _ _
  | false =>
    -- the character goes on with the last word, if there is one
    have hsplit : s.rdropWhile (!isBlank ·) ++ s.rtakeWhile (!isBlank ·) = s :=
      List.rdropWhile_append_rtakeWhile
    have hlast : ∀ x ∈ (s.rdropWhile (!isBlank ·)).getLast?, isBlank x = true := by
      intro x hx
      obtain ⟨hne, rfl⟩ := List.mem_getLast?_eq_getLast hx
      simpa using List.rdropWhile_last_not (!isBlank ·) s hne
    have hword : ∀ x ∈ s.rtakeWhile (!isBlank ·), isBlank x = false := fun x hx => by
      simpa using List.mem_rtakeWhile_imp hx
    have hlonger : ∀ x ∈ s.rtakeWhile (!isBlank ·) ++ [c], isBlank x = false := by
      intro x hx
      rcases List.mem_append.mp hx with hx | hx
      · exact hword x hx
      · rwa [List.mem_singleton.mp hx]
    have hone : (wordChars (s.rtakeWhile (!isBlank ·))).length ≤ 1 := by
      by_cases hne : s.rtakeWhile (!isBlank ·) = []
      · rw [hne]
        exact Nat.zero_le 1
      · rw [wordChars_of_not_blank hne hword]
        exact Nat.le_refl 1
    rw [← hsplit, List.append_assoc, wordChars_append_of_getLast? hlast,
      wordChars_append_of_getLast? hlast, wordChars_of_not_blank (by simp) hlonger,
      List.length_append, List.length_append]
    exact Nat.add_le_add_left hone _

/-- **A longer text has no fewer words.**  By induction on what is put behind the shorter one. -/
theorem length_wordChars_le_append (s t : List Char) :
    (wordChars s).length ≤ (wordChars (s ++ t)).length := by
  induction t generalizing s with
  | nil => rw [List.append_nil]
  | cons c t ih =>
    calc (wordChars s).length
        ≤ (wordChars (s ++ [c])).length := length_wordChars_le_concat s c
      _ ≤ (wordChars ((s ++ [c]) ++ t)).length := ih (s ++ [c])
      _ = (wordChars (s ++ c :: t)).length := by rw [← List.append_cons]

theorem length_wordChars_take_le (s : List Char) {i j : Nat} (h : i ≤ j) :
    (wordChars (s.take i)).length ≤ (wordChars (s.take j)).length := by
  obtain ⟨t, ht⟩ := List.take_prefix_take_left (l := s) h
  rw [← ht]
  exact length_wordChars_le_append _ t

/-- A character that begins a word is one word more. -/
theorem length_wordChars_take_start {before rest : List Char} {c : Char}
    (hstart : ∀ x ∈ before.getLast?, isBlank x = true) (hc : isBlank c = false) :
    (wordChars ((before ++ c :: rest).take (before.length + 1))).length =
      (wordChars before).length + 1 := by
  have htake : (before ++ c :: rest).take (before.length + 1) = before ++ [c] := by
    rw [List.take_length_add_append]
    rfl
  rw [htake, wordChars_append_of_getLast? hstart,
    wordChars_of_not_blank (List.cons_ne_nil c []) (by simpa using hc), List.length_append]
  rfl

/-! ## 2. Words at a place -/

/-- The word begins after so many characters of the text, at its start or behind a blank, and it goes
on to a blank or to the end of the text. -/
inductive WordAt : List Char → Nat → List Char → Prop
  | intro {before w after : List Char} (ne_nil : w ≠ []) (word : ∀ c ∈ w, isBlank c = false)
      (start : ∀ c ∈ before.getLast?, isBlank c = true)
      (stop : ∀ c ∈ after.head?, isBlank c = true) :
      WordAt (before ++ (w ++ after)) before.length w

theorem WordAt.ne_nil (h : WordAt s n w) : w ≠ [] := by
  cases h with
  | intro hne _ _ _ => exact hne

theorem WordAt.isBlank_eq_false (h : WordAt s n w) : ∀ c ∈ w, isBlank c = false := by
  cases h with
  | intro _ hw _ _ => exact hw

/-- **A word is found by the number of words in front of it.** -/
theorem WordAt.getElem?_wordChars (h : WordAt s n w) :
    (wordChars s)[(wordChars (s.take n)).length]? = some w := by
  cases h with
  | intro hne hw hstart hstop =>
    rw [List.take_left, wordChars_append_of_getLast? hstart, wordChars_word_append hne hw hstop,
      List.getElem?_append_right (Nat.le_refl _), Nat.sub_self, List.getElem?_cons_zero]

/-- Where a word begins, the number of words goes up. -/
theorem WordAt.length_wordChars_take_lt (h : WordAt s n w) {i : Nat} (hi : n < i) :
    (wordChars (s.take n)).length < (wordChars (s.take i)).length := by
  refine Nat.lt_of_lt_of_le ?_ (length_wordChars_take_le s (Nat.succ_le_of_lt hi))
  cases h with
  | @intro before w after hne hw hstart hstop =>
    obtain ⟨c, w, rfl⟩ := List.exists_cons_of_ne_nil hne
    rw [List.take_left, Nat.succ_eq_add_one, List.cons_append,
      length_wordChars_take_start hstart (hw c List.mem_cons_self)]
    exact Nat.lt_succ_self _

/-- So a word begins at a place or behind it exactly if no fewer words stand in front of it. -/
theorem WordAt.le_iff (h : WordAt s n w) {i : Nat} :
    i ≤ n ↔ (wordChars (s.take i)).length ≤ (wordChars (s.take n)).length := by
  refine ⟨length_wordChars_take_le s, fun hle => ?_⟩
  by_contra hlt
  have := h.length_wordChars_take_lt (Nat.lt_of_not_le hlt)
  omega

/-- A word begins at every character that is not blank and has no such character in front of it. -/
theorem exists_wordAt_of_start {before rest : List Char} {c : Char}
    (hstart : ∀ x ∈ before.getLast?, isBlank x = true) (hc : isBlank c = false) :
    ∃ w, WordAt (before ++ c :: rest) before.length w := by
  have hsplit : c :: rest =
      (c :: rest.takeWhile (!isBlank ·)) ++ rest.dropWhile (!isBlank ·) := by
    rw [List.cons_append, List.takeWhile_append_dropWhile]
  have hword : ∀ x ∈ c :: rest.takeWhile (!isBlank ·), isBlank x = false := by
    intro x hx
    rcases List.mem_cons.mp hx with rfl | hx
    · exact hc
    · simpa using List.mem_takeWhile_imp hx
  have hstop : ∀ x ∈ (rest.dropWhile (!isBlank ·)).head?, isBlank x = true := fun x hx => by
    simpa using head?_dropWhile_eq_false x hx
  rw [hsplit]
  exact ⟨_, .intro (List.cons_ne_nil _ _) hword hstart hstop⟩

/-- Every word of a list that the text splits into stands at some place of it. By induction on the way
the text splits. -/
theorem SplitsInto.exists_wordAt {ws : List (List Char)} {k : Nat} (h : SplitsInto s ws)
    (hk : ws[k]? = some w) : ∃ n, WordAt s n w ∧ (wordChars (s.take n)).length = k := by
  induction h generalizing k with
  | blank _ => exact absurd hk (by simp)
  | @word b v s ws hb hne hv hstop _ ih =>
    cases k with
    | zero =>
      obtain rfl := Option.some.inj hk
      refine ⟨b.length, .intro hne hv (fun c hc => hb c (List.mem_of_getLast? hc)) hstop, ?_⟩
      rw [List.take_left, (SplitsInto.blank hb).wordChars_eq, List.length_nil]
    -- a later one stands in the rest, with the first word as one more in front of it
    | succ k =>
      obtain ⟨n, hat, hn⟩ := ih hk
      cases hat with
      | @intro before w after hne' hw hstart hstop' =>
        rw [List.take_left] at hn
        -- a blank ends the first word, so the later one does not begin right behind it
        have hbefore : before ≠ [] := by
          rintro rfl
          obtain ⟨c, w, rfl⟩ := List.exists_cons_of_ne_nil hne'
          have hblank := hstop c rfl
          rw [hw c List.mem_cons_self] at hblank
          exact absurd hblank (by simp)
        have hplace : b ++ (v ++ (before ++ (w ++ after))) = (b ++ (v ++ before)) ++ (w ++ after) := by
          simp only [List.append_assoc]
        have hlast : ∀ c ∈ (b ++ (v ++ before)).getLast?, isBlank c = true := by
          rw [← List.append_assoc, List.getLast?_append_of_ne_nil _ hbefore]
          exact hstart
        have hhead : ∀ c ∈ before.head?, isBlank c = true := by
          intro c hc
          refine hstop c ?_
          rw [List.head?_append_of_ne_nil _ hbefore]
          exact hc
        refine ⟨(b ++ (v ++ before)).length, hplace ▸ .intro hne' hw hlast hstop', ?_⟩
        rw [hplace, List.take_left, wordChars_blanks_append hb, wordChars_word_append hne hv hhead,
          List.length_cons, hn]

/-- **Every word of a text stands at some place of it**, with the words in front of it that come before
it in the list. -/
theorem exists_wordAt {k : Nat} (h : (wordChars s)[k]? = some w) :
    ∃ n, WordAt s n w ∧ (wordChars (s.take n)).length = k :=
  (splitsInto_iff.mpr rfl).exists_wordAt h

/-- A word that is counted among the words in front of a place begins in front of it. -/
theorem exists_wordAt_lt {k : Nat} (h : k < (wordChars (s.take n)).length) :
    ∃ i w, i < n ∧ WordAt s i w ∧ (wordChars s)[k]? = some w := by
  have hlength : (wordChars (s.take n)).length ≤ (wordChars s).length := by
    conv_rhs => rw [← List.take_append_drop n s]
    exact length_wordChars_le_append _ _
  have hget := List.getElem?_eq_getElem (Nat.lt_of_lt_of_le h hlength)
  obtain ⟨i, hat, hi⟩ := exists_wordAt hget
  refine ⟨i, _, Nat.lt_of_not_le fun hle => ?_, hat, hget⟩
  have hge := length_wordChars_take_le s hle
  omega

/-! ## 3. The first word from a place on -/

/-- The word is the first one of the text that begins after so many characters or later. -/
def FirstWordFrom (s : List Char) (n : Nat) (w : List Char) : Prop :=
  ∃ i, n ≤ i ∧ WordAt s i w ∧ ∀ j v, n ≤ j → WordAt s j v → i ≤ j

/-- **The first word from a place on** has as many words in front of it as stand in front of the
place, a word that the place cuts in two counted among them. -/
theorem firstWordFrom_iff :
    FirstWordFrom s n w ↔ (wordChars s)[(wordChars (s.take n)).length]? = some w := by
  constructor
  · rintro ⟨i, hi, hat, hleast⟩
    have hget := hat.getElem?_wordChars
    obtain ⟨hlength, -⟩ := List.getElem?_eq_some_iff.mp hget
    have hle := length_wordChars_take_le s hi
    obtain ⟨j, hat', hj⟩ := exists_wordAt (List.getElem?_eq_getElem (Nat.lt_of_le_of_lt hle hlength))
    have hij : i ≤ j := hleast j _ (hat'.le_iff.mpr hj.ge) hat'
    have hge := length_wordChars_take_le s hij
    rwa [Nat.le_antisymm hle (hge.trans hj.le)]
  · intro h
    obtain ⟨i, hat, hi⟩ := exists_wordAt h
    refine ⟨i, hat.le_iff.mpr hi.ge, hat, fun j v hj hat' => ?_⟩
    rw [hat'.le_iff, hi]
    exact length_wordChars_take_le s hj

end DiceRoller.Text
