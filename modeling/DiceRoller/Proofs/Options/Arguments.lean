/-
# Reading the arguments of a command line

An option is written with its value behind an equals sign or as the next word, a switch as one word,
and the reader settles an option that is a word of its own only when the next argument comes. So
what the reader holds between two arguments depends on how the last one is written. What it holds
once that is settled does not, and this is what each argument adds to.

`Argument` is one thing that is given together with the way in which it is written, and
`Argument.words` writes it. The proof goes by one argument at a time: from a reader that settles to
some command line, the words of an argument lead to one that settles to this command line with the
argument added. The induction over the arguments then needs nothing of how the last one was written.

* `takeAll_words_append`: one argument, in either way of writing it, adds its value or its switch.
  One case for each way.
* `takeAll_words`: any number of them, for every reader to start from.
* `read_words`: a command line on which nothing is given twice is read as what its arguments give,
  in their order.

A value that is a word of its own must not begin with a dash (`Argument.WellWritten`); behind an
equals sign it may be anything. The switch for debugging has a letter of its own, and letters that
stand together are not covered. Command lines that are refused are not described.
-/
import DiceRoller.Options.CommandLine
import Mathlib.Data.List.Nodup
import Mathlib.Data.List.TakeWhile

namespace DiceRoller

/-! ## 1. Arguments -/

/-- One argument and the way in which it is written. -/
inductive Argument where
  /-- An option and, behind an equals sign, its value. -/
  | attached (option : ValueOption) (value : String)
  /-- An option, and its value as the next word. -/
  | separate (option : ValueOption) (value : String)
  | switch (switch : Switch)
  /-- The switch for debugging as one letter. -/
  | letter
deriving Repr, DecidableEq

/-- The words of an argument. -/
def Argument.words : Argument → List String
  | .attached option value => ["--" ++ option.name ++ "=" ++ value]
  | .separate option value => ["--" ++ option.name, value]
  | .switch s => ["--" ++ s.name]
  | .letter => ["-d"]

/-- The option that an argument gives, with its value. -/
def Argument.value? : Argument → Option (ValueOption × String)
  | .attached option value | .separate option value => some (option, value)
  | _ => none

/-- The switch that an argument sets. -/
def Argument.switch? : Argument → Option Switch
  | .switch s => some s
  | .letter => some .debug
  | _ => none

/-- What the arguments give, in their order. -/
def CommandLine.ofArguments (args : List Argument) : CommandLine :=
  ⟨args.filterMap Argument.value?, args.filterMap Argument.switch?⟩

/-- What is given on the one command line and then on the other. -/
def CommandLine.append (l l' : CommandLine) : CommandLine :=
  ⟨l.values ++ l'.values, l.switches ++ l'.switches⟩

/-- No option and no switch is given twice, and a value that is given for the mode names one. -/
structure CommandLine.Proper (l : CommandLine) : Prop where
  options_nodup : (l.values.map Prod.fst).Nodup
  switches_nodup : l.switches.Nodup
  mode : ∀ text, (.autoRespond, text) ∈ l.values → ∃ mode, AutoRespond.parse text = .ok mode

/-- A value that is a word of its own does not begin with a dash. -/
def Argument.WellWritten : Argument → Prop
  | .separate _ value => value.toList.head? ≠ some '-'
  | .attached .. | .switch _ | .letter => True

instance : DecidablePred Argument.WellWritten
  | .separate _ value => inferInstanceAs (Decidable (value.toList.head? ≠ some '-'))
  | .attached .. | .switch _ | .letter => inferInstanceAs (Decidable True)

/-! ## 2. Names and words -/

@[simp] theorem ofLong?_name_option (option : ValueOption) :
    ArgumentName.ofLong? option.name = some (.value option) := by
  cases option <;> decide +kernel

@[simp] theorem ofLong?_name_switch (switch : Switch) :
    ArgumentName.ofLong? switch.name = some (.switch switch) := by
  cases switch <;> decide +kernel

/-- A text that can stand behind two dashes: it is not empty, and no equals sign cuts it short. -/
structure IsName (name : String) : Prop where
  ne_empty : name ≠ ""
  bne_equals : ∀ c ∈ name.toList, (c != '=') = true

theorem isName_option (option : ValueOption) : IsName option.name where
  ne_empty := by cases option <;> decide +kernel
  bne_equals := by
    refine List.all_eq_true.mp ?_
    cases option <;> decide +kernel

theorem isName_switch (switch : Switch) : IsName switch.name where
  ne_empty := by cases switch <;> decide +kernel
  bne_equals := by
    refine List.all_eq_true.mp ?_
    cases switch <;> decide +kernel

section

variable {r r' : ArgumentReader} {l : CommandLine} {name : String}

/-- A name is taken up to the first equals sign. -/
theorem take_long (hname : IsName name) :
    r.take ("--" ++ name) = r.takeLong name none := by
  have hword : ("--" ++ name).toList = '-' :: '-' :: name.toList := by simp
  rw [ArgumentReader.take, hword]
  simp only [List.takeWhile_eq_self_iff.mpr hname.bne_equals,
    List.dropWhile_eq_nil_iff.mpr hname.bne_equals, String.ofList_toList]

/-- Everything behind the first equals sign is the value, whatever it holds. -/
theorem take_long_value (hname : IsName name) (value : String) :
    r.take ("--" ++ name ++ "=" ++ value) = r.takeLong name (some value) := by
  have hword : ("--" ++ name ++ "=" ++ value).toList =
      '-' :: '-' :: (name.toList ++ '=' :: value.toList) := by simp
  rw [ArgumentReader.take, hword]
  simp only [List.takeWhile_append_of_pos hname.bne_equals,
    List.dropWhile_append_of_pos hname.bne_equals]
  simp

/-- A word that does not begin with a dash is no option. -/
theorem take_word {word : String} (hword : word.toList.head? ≠ some '-') :
    r.take word = r.takeWord word := by
  rw [ArgumentReader.take]
  split
  · rename_i h
    exact absurd (congrArg List.head? h) hword
  · rename_i h
    exact absurd (congrArg List.head? h) hword
  · rfl

theorem takeAll_cons_of_take {word : String} (hword : word ≠ "--") (h : r.take word = .ok r')
    (rest : List String) : r.takeAll (word :: rest) = r'.takeAll rest := by
  conv_lhs => unfold ArgumentReader.takeAll
  rw [if_neg hword, h]

/-- More than two dashes alone. -/
theorem dashes_append_ne (hname : name ≠ "") : "--" ++ name ≠ "--" := by
  intro h
  have hempty : name = "" := by simpa using congrArg String.toList h
  exact hname hempty

/-! ## 3. One argument -/

theorem addValue_eq_ok {option : ValueOption} {value : String}
    (hnew : option ∉ l.values.map Prod.fst)
    (hmode : option = .autoRespond → ∃ mode, AutoRespond.parse value = .ok mode) :
    l.addValue option value = .ok ⟨l.values ++ [(option, value)], l.switches⟩ := by
  have hnone : l.value? option = none := by
    rw [CommandLine.value?, Option.map_eq_none_iff, List.find?_eq_none]
    intro given hgiven hsame
    exact hnew (List.mem_map.mpr ⟨given, hgiven, of_decide_eq_true hsame⟩)
  rw [CommandLine.addValue, hnone, if_neg (by simp)]
  cases option with
  | autoRespond =>
    obtain ⟨mode, hparse⟩ := hmode rfl
    simp only [hparse]
  | _ => rfl

theorem addSwitch_eq_ok {switch : Switch} (hnew : switch ∉ l.switches) :
    l.addSwitch switch = .ok ⟨l.values, l.switches ++ [switch]⟩ := by
  rw [CommandLine.addSwitch, if_neg hnew]

/-- The first part of a proper command line is proper. -/
theorem CommandLine.Proper.left {l' : CommandLine} (h : (l.append l').Proper) : l.Proper where
  options_nodup := by
    have hnodup := h.options_nodup
    rw [CommandLine.append, List.map_append] at hnodup
    exact hnodup.of_append_left
  switches_nodup := h.switches_nodup.of_append_left
  mode text htext := h.mode text (List.mem_append_left _ htext)

/-- A value can be added where the command line stays proper. -/
theorem CommandLine.Proper.addValue {option : ValueOption} {value : String}
    (h : (l.append ⟨[(option, value)], []⟩).Proper) :
    l.addValue option value = .ok (l.append ⟨[(option, value)], []⟩) := by
  have hnew : option ∉ l.values.map Prod.fst := by
    have hnodup := h.options_nodup
    rw [CommandLine.append, List.map_append, List.nodup_append'] at hnodup
    obtain ⟨-, -, hdisjoint⟩ := hnodup
    exact fun hmem => hdisjoint hmem (by simp)
  have hmode : option = .autoRespond → ∃ mode, AutoRespond.parse value = .ok mode := by
    rintro rfl
    exact h.mode value (List.mem_append_right _ List.mem_cons_self)
  rw [addValue_eq_ok hnew hmode, CommandLine.append, List.append_nil]

/-- A switch can be added where the command line stays proper. -/
theorem CommandLine.Proper.addSwitch {switch : Switch} (h : (l.append ⟨[], [switch]⟩).Proper) :
    l.addSwitch switch = .ok (l.append ⟨[], [switch]⟩) := by
  have hnew : switch ∉ l.switches := by
    have hnodup := h.switches_nodup
    rw [CommandLine.append, List.nodup_append'] at hnodup
    obtain ⟨-, -, hdisjoint⟩ := hnodup
    exact fun hmem => hdisjoint hmem List.mem_cons_self
  rw [addSwitch_eq_ok hnew, CommandLine.append, List.append_nil]

theorem takeName_switch {switch : Switch} (hr : r.settle = .ok l)
    (h : (l.append ⟨[], [switch]⟩).Proper) :
    r.takeName (.switch switch) = .ok ⟨l.append ⟨[], [switch]⟩, none⟩ := by
  simp only [ArgumentReader.takeName, hr, h.addSwitch]
  rfl

/-- **One argument adds what it gives**, in either way of writing it. The reader may be left with an
option that waits to be settled; once it is, the two ways come to the same. -/
theorem takeAll_words_append {a : Argument} (hr : r.settle = .ok l) (ha : a.WellWritten)
    (h : (l.append (.ofArguments [a])).Proper) :
    ∃ r' : ArgumentReader, r'.settle = .ok (l.append (.ofArguments [a])) ∧
      ∀ rest, r.takeAll (a.words ++ rest) = r'.takeAll rest := by
  -- for each way of writing: the reader that its words lead to, and that it settles to what they give
  cases a with
  | attached option value =>
    have htake : r.take ("--" ++ option.name ++ "=" ++ value) =
        .ok ⟨l.append ⟨[(option, value)], []⟩, none⟩ := by
      rw [take_long_value (isName_option option)]
      simp only [ArgumentReader.takeLong, ofLong?_name_option, hr, CommandLine.Proper.addValue h]
      rfl
    have hne : "--" ++ option.name ++ "=" ++ value ≠ "--" := by
      rw [String.append_assoc, String.append_assoc]
      refine dashes_append_ne fun hempty => (isName_option option).ne_empty ?_
      exact (String.append_eq_empty_iff.mp hempty).1
    exact ⟨_, rfl, fun rest => takeAll_cons_of_take hne htake rest⟩
  | separate option value =>
    -- two words: first the option waits for a value, then the value waits to be settled
    have hname : r.take ("--" ++ option.name) = .ok ⟨l, some (option, none)⟩ := by
      rw [take_long (isName_option option)]
      simp only [ArgumentReader.takeLong, ofLong?_name_option, ArgumentReader.takeName, hr]
    have hvalue : ArgumentReader.take ⟨l, some (option, none)⟩ value =
        .ok ⟨l, some (option, some value)⟩ := take_word ha
    have hne : value ≠ "--" := by
      rintro rfl
      exact ha rfl
    refine ⟨⟨l, some (option, some value)⟩, CommandLine.Proper.addValue h, fun rest => ?_⟩
    rw [← takeAll_cons_of_take hne hvalue rest]
    exact takeAll_cons_of_take (dashes_append_ne (isName_option option).ne_empty) hname _
  | switch switch =>
    -- a switch has no value to wait for, under either of its names
    have htake : r.take ("--" ++ switch.name) = .ok ⟨l.append ⟨[], [switch]⟩, none⟩ := by
      rw [take_long (isName_switch switch)]
      simp only [ArgumentReader.takeLong, ofLong?_name_switch]
      exact takeName_switch hr h
    have hne := dashes_append_ne (isName_switch switch).ne_empty
    exact ⟨_, rfl, fun rest => takeAll_cons_of_take hne htake rest⟩
  | letter =>
    have htake : r.take "-d" = .ok ⟨l.append ⟨[], [.debug]⟩, none⟩ := by
      have hshort : r.take "-d" = r.takeShort ['d'] := rfl
      rw [hshort]
      simp only [ArgumentReader.takeShort, ArgumentName.ofShort?, takeName_switch hr h]
    exact ⟨_, rfl, fun rest => takeAll_cons_of_take (by decide) htake rest⟩

/-! ## 4. All arguments -/

theorem CommandLine.append_assoc (l l' l'' : CommandLine) :
    (l.append l').append l'' = l.append (l'.append l'') := by
  simp [CommandLine.append]

theorem CommandLine.ofArguments_cons (a : Argument) (args : List Argument) :
    CommandLine.ofArguments (a :: args) = (ofArguments [a]).append (ofArguments args) := by
  rw [ofArguments, ← List.singleton_append, List.filterMap_append, List.filterMap_append]
  rfl

/-- **All arguments add what they give.**  By induction on them, for every reader: what it holds once it
is settled is what the arguments before have given. -/
theorem takeAll_words {args : List Argument} (hr : r.settle = .ok l)
    (hargs : ∀ a ∈ args, a.WellWritten) (h : (l.append (.ofArguments args)).Proper) :
    r.takeAll (args.flatMap Argument.words) = .ok (l.append (.ofArguments args)) := by
  induction args generalizing r l with
  | nil =>
    rw [List.flatMap_nil, ArgumentReader.takeAll, hr]
    simp [CommandLine.append, CommandLine.ofArguments]
  | cons a args ih =>
    rw [CommandLine.ofArguments_cons, ← CommandLine.append_assoc] at h ⊢
    obtain ⟨r', hr', htake⟩ := takeAll_words_append hr (hargs a List.mem_cons_self) h.left
    rw [List.flatMap_cons, htake]
    exact ih hr' (fun x hx => hargs x (List.mem_cons_of_mem _ hx)) h

/-- **A proper command line is read as what its arguments give.** -/
theorem read_words {args : List Argument} (hargs : ∀ a ∈ args, a.WellWritten)
    (h : (CommandLine.ofArguments args).Proper) :
    CommandLine.read (args.flatMap Argument.words) = .ok (.ofArguments args) := by
  have hempty : CommandLine.append ⟨[], []⟩ (.ofArguments args) = .ofArguments args := by
    simp [CommandLine.append]
  rw [← hempty] at h ⊢
  exact takeAll_words rfl hargs h

end

end DiceRoller
