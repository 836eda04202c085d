/-
# The entries of a comma separated list

The filters of the settings are given as lists with commas (section 4.4 of the specification). A
list is cut at its commas, each part is trimmed, and parts of which nothing is left are dropped. So
the entries of two lists with a comma between them are those of the first and then those of the
second, and everything else follows from this and from what a single part holds.

`IsEntry` says which texts can be entries, and `ListsEntries` which parts are a list of which
entries: each entry in a part of its own with blanks around it, and blank parts anywhere. Neither
mentions cutting or trimming. For one direction the induction is on how the list is written; for the
other it is on the parts between the commas, each of which is blank or an entry with blanks around
it.

* `entries_append_comma`, `entries_intercalate`: the entries of a list are those of its parts, in
  order.
* `entries_eq_iff`: a list has just these entries exactly if it is written with them.
* `entries_are_what_is_listed`: this, which lists of entries there are, and that writing them with
  bare commas and reading them again changes nothing.

An entry may hold blanks inside and may stand in the list twice. Empty entries cannot be written, so
no filter that comes from such a list is blank.
-/
import DiceRoller.Proofs.Text.Blank
import DiceRoller.Proofs.Text.Encoding
import DiceRoller.Proofs.Text.Words

namespace DiceRoller.Text

/-! ## 1. Trimming a padded text -/

/-- The text neither begins nor ends with a blank. -/
def HasNoBlankEnd (s : List Char) : Prop :=
  (∀ c ∈ s.head?, isBlank c = false) ∧ ∀ c ∈ s.getLast?, isBlank c = false

theorem trimStart_of_head? {s : List Char} (h : ∀ c ∈ s.head?, isBlank c = false) :
    trimStart s = s := by
  cases s with
  | nil => rfl
  | cons c s => simp [trimStart, h c rfl]

theorem trimEnd_of_getLast? {s : List Char} (h : ∀ c ∈ s.getLast?, isBlank c = false) :
    trimEnd s = s := by
  have hreverse := trimStart_of_head? (s := s.reverse) (by rwa [List.head?_reverse])
  rw [trimStart] at hreverse
  rw [trimEnd, hreverse, List.reverse_reverse]

theorem trimStart_blanks_append {b : List Char} (hb : ∀ c ∈ b, isBlank c = true) (s : List Char) :
    trimStart (b ++ s) = trimStart s := List.dropWhile_append_of_pos hb

theorem trimEnd_append_blanks {b : List Char} (hb : ∀ c ∈ b, isBlank c = true) (s : List Char) :
    trimEnd (s ++ b) = trimEnd s := by
  rw [trimEnd, List.reverse_append,
    List.dropWhile_append_of_pos fun c hc => hb c (List.mem_reverse.mp hc), ← trimEnd]

/-- **Blanks around a text are what trimming takes away.** -/
theorem trimChars_padded {a s b : List Char} (ha : ∀ c ∈ a, isBlank c = true)
    (hb : ∀ c ∈ b, isBlank c = true) (hs : HasNoBlankEnd s) : trimChars (a ++ s ++ b) = s := by
  rw [trimChars, ← trimStart_trimEnd, trimEnd_append_blanks hb, trimStart_trimEnd,
    trimStart_blanks_append ha, trimStart_of_head? hs.1, trimEnd_of_getLast? hs.2]

/-- A trimmed text has no blank end: either end may be trimmed last. -/
theorem hasNoBlankEnd_trimChars (s : List Char) : HasNoBlankEnd (trimChars s) := by
  constructor
  · rw [trimChars, ← trimStart_trimEnd]
    exact head?_dropWhile_eq_false
  · rw [trimChars, trimEnd, List.getLast?_reverse]
    exact head?_dropWhile_eq_false

/-! ## 2. Lists and their parts -/

theorem entryChars_append_comma (s t : List Char) :
    entryChars (s ++ ',' :: t) = entryChars s ++ entryChars t := by
  rw [entryChars, List.splitOn_append_cons_self, List.map_append, List.filter_append]
  rfl

/-- **A comma between two lists keeps their entries apart.** -/
theorem entries_append_comma (a b : String) : entries (a ++ "," ++ b) = entries a ++ entries b := by
  have hlist : (a ++ "," ++ b).toList = a.toList ++ ',' :: b.toList := by simp
  rw [entries, hlist, entryChars_append_comma, List.map_append]
  rfl

/-- A part without commas holds one entry, or none if it is blank. -/
theorem entries_of_comma_not_mem {t : String} (ht : ',' ∉ t.toList) :
    entries t = if trim t = "" then [] else [trim t] := by
  rw [entries, entryChars, List.splitOn_eq_singleton ht, List.map_singleton, List.filter_singleton]
  by_cases hblank : trim t = ""
  · have hnil : trimChars t.toList = [] := by rw [← toList_trim, hblank, String.toList_empty]
    rw [if_pos hblank, hnil]
    rfl
  · have hne : (trimChars t.toList).isEmpty = false := by
      rwa [← toList_trim, List.isEmpty_eq_false_iff, ne_eq, String.toList_eq_nil_iff]
    rw [if_neg hblank, hne, Bool.not_false, cond_true, List.map_singleton, trim]

/-- **The entries of a list are those of its parts.**  By induction on the parts. -/
theorem entries_intercalate (parts : List String) :
    entries (",".intercalate parts) = parts.flatMap entries := by
  induction parts with
  | nil =>
    rw [String.intercalate_nil, entries_of_comma_not_mem (by simp)]
    rfl
  | cons part parts ih =>
    by_cases hparts : parts = []
    · rw [hparts, String.intercalate_singleton, List.flatMap_singleton]
    · rw [String.intercalate_cons_of_ne_nil hparts, entries_append_comma, ih, List.flatMap_cons]

/-! ## 3. What is an entry, and how entries are written -/

/-- An entry is not empty, holds no comma, and has no blank at either end. -/
structure IsEntry (e : String) : Prop where
  ne_empty : e ≠ ""
  comma_not_mem : ',' ∉ e.toList
  noBlankEnd : HasNoBlankEnd e.toList

/-- A list with these parts between its commas is a list of these entries: each entry is a part of its
own, with blanks before and behind it, and there may be blank parts anywhere. -/
inductive ListsEntries : (parts entries : List String) → Prop
  | nil : ListsEntries [] []
  | entry {before e after : String} {parts es : List String} (isEntry : IsEntry e)
      (before_blank : ∀ c ∈ before.toList, isBlank c = true)
      (after_blank : ∀ c ∈ after.toList, isBlank c = true) (rest : ListsEntries parts es) :
      ListsEntries ((before ++ e ++ after) :: parts) (e :: es)
  | blank {part : String} {parts es : List String} (blank : ∀ c ∈ part.toList, isBlank c = true)
      (rest : ListsEntries parts es) : ListsEntries (part :: parts) es

theorem comma_not_mem_of_blank {t : String} (ht : ∀ c ∈ t.toList, isBlank c = true) :
    ',' ∉ t.toList := by
  intro h
  exact absurd (ht ',' h) (by decide)

theorem entries_of_blank {t : String} (ht : ∀ c ∈ t.toList, isBlank c = true) : entries t = [] := by
  rw [entries_of_comma_not_mem (comma_not_mem_of_blank ht), if_pos (trim_eq_empty_iff.mpr ht)]

/-- An entry with blanks around it is read as the entry. -/
theorem entries_padded {before e after : String} (he : IsEntry e)
    (hbefore : ∀ c ∈ before.toList, isBlank c = true)
    (hafter : ∀ c ∈ after.toList, isBlank c = true) : entries (before ++ e ++ after) = [e] := by
  have hcomma : ',' ∉ (before ++ e ++ after).toList := by
    rw [String.toList_append, String.toList_append, List.mem_append, List.mem_append]
    rintro ((h | h) | h)
    · exact comma_not_mem_of_blank hbefore h
    · exact he.comma_not_mem h
    · exact comma_not_mem_of_blank hafter h
  have htrim : trim (before ++ e ++ after) = e := by
    rw [trim, String.toList_append, String.toList_append,
      trimChars_padded hbefore hafter he.noBlankEnd, String.ofList_toList]
  rw [entries_of_comma_not_mem hcomma, htrim, if_neg he.ne_empty]

/-- What is left of a part without commas is an entry. -/
theorem isEntry_trim {t : String} (hcomma : ',' ∉ t.toList) (hne : trim t ≠ "") :
    IsEntry (trim t) where
  ne_empty := hne
  comma_not_mem := by rwa [mem_trim_iff (by decide)]
  noBlankEnd := by
    rw [toList_trim]
    exact hasNoBlankEnd_trimChars _

theorem ListsEntries.flatMap_entries {parts es : List String} (h : ListsEntries parts es) :
    parts.flatMap entries = es := by
  induction h with
  | nil => rfl
  | entry he hbefore hafter _ ih =>
    rw [List.flatMap_cons, entries_padded he hbefore hafter, ih, List.singleton_append]
  | blank hblank _ ih => rw [List.flatMap_cons, entries_of_blank hblank, ih, List.nil_append]

/-- Parts without commas list what is read from them. By induction on the parts: each one is blank, or
it is what is left of it with blanks around. -/
theorem listsEntries_flatMap {parts : List String} (h : ∀ part ∈ parts, ',' ∉ part.toList) :
    ListsEntries parts (parts.flatMap entries) := by
  induction parts with
  | nil => exact .nil
  | cons part parts ih =>
    have hpart : ',' ∉ part.toList := h part List.mem_cons_self
    have hrest := ih fun p hp => h p (List.mem_cons_of_mem _ hp)
    rw [List.flatMap_cons, entries_of_comma_not_mem hpart]
    by_cases hblank : trim part = ""
    · rw [if_pos hblank, List.nil_append]
      exact .blank (trim_eq_empty_iff.mp hblank) hrest
    · obtain ⟨a, b, ha, hb, hsplit⟩ := exists_trimChars_append part.toList
      have hpadded : part = String.ofList a ++ trim part ++ String.ofList b := by
        rw [← String.toList_inj]
        simp only [String.toList_append, String.toList_ofList, toList_trim, List.append_assoc]
        exact hsplit
      rw [if_neg hblank, List.singleton_append]
      nth_rewrite 1 [hpadded]
      exact .entry (isEntry_trim hpart hblank) (by rwa [String.toList_ofList])
        (by rwa [String.toList_ofList]) hrest

/-! ## 4. Reading and writing -/

/-- Every text is its parts without commas, with commas between them. -/
theorem exists_eq_intercalate (t : String) :
    ∃ parts, (∀ part ∈ parts, ',' ∉ part.toList) ∧ t = ",".intercalate parts := by
  refine ⟨(t.toList.splitOn ',').map String.ofList, ?_, ?_⟩
  · intro part hpart
    obtain ⟨piece, hpiece, rfl⟩ := List.mem_map.mp hpart
    rw [String.toList_ofList]
    exact (not_mem_and_subset_of_mem_splitOn hpiece).1
  · have hid : String.toList ∘ String.ofList = id := funext fun _ => String.toList_ofList
    rw [← String.toList_inj, String.toList_intercalate, List.map_map, hid, List.map_id]
    exact (List.intercalate_splitOn ',').symm

/-- **Which texts have these entries**: the ones that are written with them. -/
theorem entries_eq_iff {t : String} {es : List String} :
    entries t = es ↔ ∃ parts, ListsEntries parts es ∧ t = ",".intercalate parts := by
  constructor
  · rintro rfl
    obtain ⟨parts, hparts, rfl⟩ := exists_eq_intercalate t
    rw [entries_intercalate]
    exact ⟨parts, listsEntries_flatMap hparts, rfl⟩
  · rintro ⟨parts, hlists, rfl⟩
    rw [entries_intercalate, hlists.flatMap_entries]

theorem ListsEntries.isEntry {parts es : List String} (h : ListsEntries parts es) :
    ∀ e ∈ es, IsEntry e := by
  induction h with
  | nil => exact fun e he => absurd he List.not_mem_nil
  | entry hentry _ _ _ ih =>
    intro e he
    rcases List.mem_cons.mp he with rfl | he
    · exact hentry
    · exact ih e he
  | blank _ _ ih => exact ih

theorem isEntry_of_mem_entries {t e : String} (h : e ∈ entries t) : IsEntry e := by
  obtain ⟨parts, hlists, -⟩ := entries_eq_iff.mp (rfl : entries t = entries t)
  exact hlists.isEntry e h

/-- Entries are the parts of a list of their own, with nothing around them. -/
theorem listsEntries_self {es : List String} (h : ∀ e ∈ es, IsEntry e) : ListsEntries es es := by
  induction es with
  | nil => exact .nil
  | cons e es ih =>
    have hrest := ih fun x hx => h x (List.mem_cons_of_mem _ hx)
    have hlists : ListsEntries (("" ++ e ++ "") :: es) (e :: es) :=
      .entry (h e List.mem_cons_self) (by simp) (by simp) hrest
    rwa [String.empty_append, String.append_empty] at hlists

/-- **Entries that are written with bare commas are read again.** -/
theorem entries_intercalate_of_isEntry {es : List String} (h : ∀ e ∈ es, IsEntry e) :
    entries (",".intercalate es) = es :=
  entries_eq_iff.mpr ⟨es, listsEntries_self h, rfl⟩

/-- **The entries of a list are what is listed there.**  A comma between two lists keeps their entries
apart, and puts those of the first before those of the second. The lists of entries that can be read
are exactly the lists of texts that are not empty, hold no comma, and have no blank at either end. They
are read from the texts that are written with them and from no others: each entry between commas with
any blanks around it, and blank parts anywhere. So writing the entries of a text with commas alone
keeps them. -/
theorem entries_are_what_is_listed :
    (∀ a b, entries (a ++ "," ++ b) = entries a ++ entries b) ∧
    (∀ es, (∃ t, entries t = es) ↔ ∀ e ∈ es, IsEntry e) ∧
    (∀ t es, entries t = es ↔ ∃ parts, ListsEntries parts es ∧ t = ",".intercalate parts) ∧
    ∀ t, entries (",".intercalate (entries t)) = entries t := by
  refine ⟨entries_append_comma, fun es => ⟨?_, fun h => ?_⟩, fun t es => entries_eq_iff, fun t => ?_⟩
  · rintro ⟨t, rfl⟩ e he
    exact isEntry_of_mem_entries he
  · exact ⟨_, entries_intercalate_of_isEntry h⟩
  · exact entries_intercalate_of_isEntry fun e he => isEntry_of_mem_entries he

example : entries "alice, ,bob," = ["alice", "bob"] := by decide +kernel

end DiceRoller.Text
