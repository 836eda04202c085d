/-
# What a message asks for

A message that is answered names its dice set in its second word, and the words of a message are
counted from the start of its text. The specification (section 4.5) means the dice set to be the
first word behind the trigger. So the two agree where the trigger is one word, and only there: a
trigger of several words has its own second word taken for the dice set, and one that is blank hides
the first word behind it.

The number of words in front of a place decides. Where the text begins with the trigger, as many
words stand in front of its end as the trigger has, and the first word from there on is the one with
this number (`Text.firstWordFrom_iff`). One word in front of the place makes it the second word.

* `exists_reply_of_second_word`: the second word is rolled, or the default die if there is none.
* `respond_rolls_word_behind_trigger`: which word that is, by the number of words in the trigger.
* `two_word_trigger_rolls_itself`: a trigger whose second word is rolled.
* `respond_ignores_further_words`: nothing behind the second word changes an answer, as long as no
  blank stands in the trigger.

With a blank in the trigger the last statement is not made: the trigger itself may then reach beyond
the second word, and a longer text can begin with it where the shorter one does not.
-/
import DiceRoller.Proofs.Chat.Agreement
import DiceRoller.Proofs.Chat.Permission
import DiceRoller.Proofs.Chat.Trigger
import DiceRoller.Proofs.Text.Blank
import DiceRoller.Proofs.Text.WordPlaces

namespace DiceRoller

open Text

variable {σ : Type} {settings : Settings} {m : Message}

/-! ## 1. The second word -/

theorem dice_roll (settings : Settings) (source : DiceSource σ) (args : String) (s : σ) :
    (settings.roll source args s).value.dice =
      ((Query.ofText args).orDefault settings.die).text := rfl

/-- A word is rolled as it stands. -/
theorem text_orDefault_of_word {args : String} (hne : args ≠ "")
    (hword : ∀ c ∈ args.toList, isBlank c = false) (die : String) :
    ((Query.ofText args).orDefault die).text = args := by
  have htext : (Query.ofText args).text = args := trim_of_not_blank hword
  have hempty : ¬ (Query.ofText args).text.isEmpty = true := by
    rw [htext, String.isEmpty_iff]
    exact hne
  rw [Query.orDefault, if_neg hempty, htext]

/-- For no word the default die is rolled. -/
theorem text_orDefault_empty (die : String) : ((Query.ofText "").orDefault die).text = trim die := by
  have htext : (Query.ofText "").text = "" := trim_of_not_blank (by simp)
  rw [Query.orDefault, htext, if_pos (String.isEmpty_iff.mpr rfl), Query.ofText]

/-- **A message that is answered has its second word rolled**, and the default die if there is none.
-/
theorem exists_reply_of_second_word (h : settings.silence m = none) (source : DiceSource σ) (s : σ) :
    ∃ reply, (settings.respond source m s).value = some reply ∧
      (∀ w, (wordChars m.text.toList)[1]? = some w → reply.dice.toList = w) ∧
      ((wordChars m.text.toList)[1]? = none → reply.dice = trim settings.die) := by
  refine ⟨_, congrArg Run.value (respond_of_silence_eq_none h source s), fun w hw => ?_, fun hw => ?_⟩
  · have hargs : m.args.toList = w := by rw [toList_args, hw, Option.getD_some]
    obtain ⟨n, hat, -⟩ := exists_wordAt hw
    have hne : m.args ≠ "" := by
      rw [ne_eq, ← String.toList_inj, hargs, String.toList_empty]
      exact hat.ne_nil
    have hword : ∀ c ∈ m.args.toList, isBlank c = false := by
      rw [hargs]
      exact hat.isBlank_eq_false
    rw [dice_roll, text_orDefault_of_word hne hword, hargs]
  · have hargs : m.args = "" := by
      rw [← String.toList_inj, toList_args, hw, Option.getD_none, String.toList_empty]
    rw [dice_roll, hargs, text_orDefault_empty]

/-! ## 2. The first word behind the trigger -/

/-- The dice set is the first word of the text that begins after so many characters or later, and the
default die if there is no such word. -/
def NamesFirstWordFrom (text : List Char) (n : Nat) (die dice : String) : Prop :=
  (∀ w, FirstWordFrom text n w → dice.toList = w) ∧
  ((¬ ∃ w, FirstWordFrom text n w) → dice = trim die)

/-- The second word is the first one from a place on that one word stands in front of. -/
theorem namesFirstWordFrom_of_second_word {text : List Char} {n : Nat} {die dice : String}
    (hn : (wordChars (text.take n)).length = 1)
    (hword : ∀ w, (wordChars text)[1]? = some w → dice.toList = w)
    (hnone : (wordChars text)[1]? = none → dice = trim die) : NamesFirstWordFrom text n die dice := by
  refine ⟨fun w hfirst => ?_, fun hnot => ?_⟩
  · rw [firstWordFrom_iff, hn] at hfirst
    exact hword w hfirst
  · refine hnone (Option.eq_none_iff_forall_ne_some.mpr fun w hw => hnot ⟨w, ?_⟩)
    rw [firstWordFrom_iff, hn]
    exact hw

/-- An answered message begins with the trigger. -/
theorem exists_rest_of_silence_eq_none (h : settings.silence m = none) :
    ∃ last rest, settings.trigger.toList.getLast? = some last ∧
      m.text.toList = settings.trigger.toList ++ rest ∧
      isWord last ≠ rest.head?.any isWord := by
  obtain ⟨-, -, -, htrigger, -, -⟩ := silence_eq_none_iff.mp h
  exact startsWithTrigger_iff.mp htrigger

/-- Behind a blank trigger a word begins at once: the trigger ends in a blank, so a word character has
to follow. -/
theorem exists_rest_of_blank_trigger (h : settings.silence m = none)
    (hblank : wordChars settings.trigger.toList = []) :
    (∀ c ∈ settings.trigger.toList.getLast?, isBlank c = true) ∧
    ∃ c rest, m.text.toList = settings.trigger.toList ++ c :: rest ∧ isBlank c = false := by
  have hall := (splitsInto_iff.mpr hblank).isBlank_of_nil
  have hlast : ∀ c ∈ settings.trigger.toList.getLast?, isBlank c = true := fun c hc =>
    hall c (List.mem_of_getLast? hc)
  refine ⟨hlast, ?_⟩
  obtain ⟨last, rest, hgetLast, htext, hne⟩ := exists_rest_of_silence_eq_none h
  rw [isWord_eq_false_of_isBlank (hlast last hgetLast)] at hne
  cases rest with
  | nil => exact absurd rfl hne
  | cons c rest =>
    refine ⟨c, rest, htext, ?_⟩
    rw [← Bool.not_eq_true]
    intro hc
    rw [List.head?_cons, Option.any_some, isWord_eq_false_of_isBlank hc] at hne
    exact hne rfl

/-- **Which word is rolled** for a message that is answered. If the trigger is one word, it is the
first word of the text that begins at the end of the trigger or behind it, and the default die if
there is no such word. If the trigger has more words, it is a word that begins inside the trigger. If
the trigger is blank, a word begins at its end, and the first word behind the start of that word is
rolled, or the default die. -/
theorem respond_rolls_word_behind_trigger (h : settings.silence m = none) (source : DiceSource σ)
    (s : σ) :
    ∃ reply, (settings.respond source m s).value = some reply ∧
      let text := m.text.toList
      let stop := settings.trigger.toList.length
      let count := (words settings.trigger).length
      (count = 1 → NamesFirstWordFrom text stop settings.die reply.dice) ∧
      (2 ≤ count → ∃ i, i < stop ∧ WordAt text i reply.dice.toList) ∧
      (count = 0 → (∃ w, WordAt text stop w) ∧
        NamesFirstWordFrom text (stop + 1) settings.die reply.dice) := by
  obtain ⟨reply, hreply, hword, hnone⟩ := exists_reply_of_second_word h source s
  obtain ⟨last, rest, -, htext, -⟩ := exists_rest_of_silence_eq_none h
  refine ⟨reply, hreply, ?_⟩
  intro text stop count
  -- the text begins with the trigger, so up to its end there are `count` words
  have hstop : text.take stop = settings.trigger.toList := by
    rw [show text = settings.trigger.toList ++ rest from htext, List.take_left]
  have hcount : (wordChars (text.take stop)).length = count := by
    rw [hstop]
    exact (List.length_map String.ofList).symm
  refine ⟨fun hone => ?_, fun hmore => ?_, fun hzero => ?_⟩
  -- one word: the second word of the text is the first from there on
  · exact namesFirstWordFrom_of_second_word (hcount.trans hone) hword hnone
  -- more words: the second word begins before that end
  · obtain ⟨i, w, hi, hat, hsecond⟩ := exists_wordAt_lt (hcount ▸ hmore : 1 < _)
    rw [← hword w hsecond] at hat
    exact ⟨i, hi, hat⟩
  -- none: a word begins right behind the blank trigger, and the second one is the next
  · have hblank : wordChars settings.trigger.toList = [] := by
      rw [← hstop, List.eq_nil_iff_length_eq_zero, hcount, hzero]
    obtain ⟨hlast, c, tail, htext', hc⟩ := exists_rest_of_blank_trigger h hblank
    have hone : (wordChars (text.take (stop + 1))).length = 1 := by
      rw [show text = settings.trigger.toList ++ c :: tail from htext',
        length_wordChars_take_start hlast hc, hblank]
      rfl
    refine ⟨?_, namesFirstWordFrom_of_second_word hone hword hnone⟩
    rw [show text = settings.trigger.toList ++ c :: tail from htext']
    exact exists_wordAt_of_start hlast hc

/-- A trigger of one word that ends in a blank: the first word behind it is rolled. -/
theorem respond_rolls_word_behind_blank :
    let settings : Settings := { Settings.standard with autoRespond := .always, trigger := "dice: " }
    let m : Message := ⟨"alice", "#dice", "dice: 3d6 please", false⟩
    settings.silence m = none ∧
    FirstWordFrom m.text.toList settings.trigger.toList.length ['3', 'd', '6'] ∧
    ∃ reply, (settings.respond preparedDice m (.ofList [1, 2, 3])).value = some reply ∧
      reply.dice.toList = ['3', 'd', '6'] := by
  intro settings m
  have hsilence : settings.silence m = none := by decide +kernel
  have hfirst : FirstWordFrom m.text.toList settings.trigger.toList.length ['3', 'd', '6'] :=
    firstWordFrom_iff.mpr (by decide +kernel)
  have hcount : (words settings.trigger).length = 1 := by decide +kernel
  obtain ⟨reply, hreply, hone, -⟩ :=
    respond_rolls_word_behind_trigger hsilence preparedDice (.ofList [1, 2, 3])
  exact ⟨hsilence, hfirst, reply, hreply, (hone hcount).1 _ hfirst⟩

/-- **A trigger of two words has its own second word rolled**, and not the dice set behind it. -/
theorem two_word_trigger_rolls_itself :
    let settings : Settings :=
      { Settings.standard with autoRespond := .always, trigger := "!roll dice" }
    let m : Message := ⟨"alice", "#dice", "!roll dice 3d6", false⟩
    settings.silence m = none ∧
    FirstWordFrom m.text.toList settings.trigger.toList.length ['3', 'd', '6'] ∧
    ∃ reply, (settings.respond preparedDice m (.ofList [1, 2, 3])).value = some reply ∧
      reply.dice.toList = ['d', 'i', 'c', 'e'] := by
  intro settings m
  have hsilence : settings.silence m = none := by decide +kernel
  have hsecond : (wordChars m.text.toList)[1]? = some ['d', 'i', 'c', 'e'] := by decide +kernel
  obtain ⟨reply, hreply, hword, -⟩ :=
    exists_reply_of_second_word hsilence preparedDice (.ofList [1, 2, 3])
  exact ⟨hsilence, firstWordFrom_iff.mpr (by decide +kernel), reply, hreply, hword _ hsecond⟩

/-! ## 3. Further words -/

/-- Words that follow the second one leave it the second one. -/
theorem args_append {first second : List Char} {more : List (List Char)}
    (hwords : SplitsInto m.text.toList (first :: second :: more)) {c : Char} (hc : isBlank c = true)
    (tail : String) : Message.args { m with text := m.text ++ String.singleton c ++ tail } = m.args := by
  have htext : (m.text ++ String.singleton c ++ tail).toList = m.text.toList ++ c :: tail.toList := by
    simp
  rw [← String.toList_inj, toList_args, toList_args, htext, wordChars_append_blank hc,
    hwords.wordChars_eq, List.getElem?_append_left (by simp)]

/-- Messages of the same nick with the same dice set and the same reason for silence, or none, are
answered alike. -/
theorem respond_of_args_eq {m' : Message} (hsilence : settings.silence m' = settings.silence m)
    (hargs : m'.args = m.args) (hnick : m'.nick = m.nick) (source : DiceSource σ) (s : σ) :
    (settings.respond source m' s).value = (settings.respond source m s).value ∧
    (settings.respond source m' s).source = (settings.respond source m s).source ∧
    (settings.silence m = none → settings.respond source m' s = settings.respond source m s) := by
  cases h : settings.silence m with
  | some reason =>
    rw [respond_of_silence_eq_some (hsilence.trans h), respond_of_silence_eq_some h]
    exact ⟨rfl, rfl, fun hnone => absurd hnone (by simp)⟩
  | none =>
    have heq : settings.respond source m' s = settings.respond source m s := by
      rw [respond_of_silence_eq_none (hsilence.trans h), respond_of_silence_eq_none h, hargs, hnick]
    exact ⟨congrArg Run.value heq, congrArg Run.source heq, fun _ => heq⟩

/-- **Nothing behind the second word changes an answer.**  If the trigger holds no blank and the text
of a message has two words or more, then a blank and anything behind it leave the reason for silence,
the reply and the throws as they are, and the events of an answer too. -/
theorem respond_ignores_further_words {first second : List Char} {more : List (List Char)}
    (htrigger : ∀ c ∈ settings.trigger.toList, isBlank c = false)
    (hwords : SplitsInto m.text.toList (first :: second :: more)) {c : Char} (hc : isBlank c = true)
    (tail : String) (source : DiceSource σ) (s : σ) :
    let longer : Message := { m with text := m.text ++ String.singleton c ++ tail }
    settings.silence longer = settings.silence m ∧
    (settings.respond source longer s).value = (settings.respond source m s).value ∧
    (settings.respond source longer s).source = (settings.respond source m s).source ∧
    (∀ noted, (settings.respond source.noting longer (s, noted)).source =
      (settings.respond source.noting m (s, noted)).source) ∧
    (settings.silence m = none → settings.respond source longer s = settings.respond source m s) := by
  intro longer
  have hsilence : settings.silence longer = settings.silence m := by
    apply silence_with_text
    rw [String.append_assoc]
    exact startsWithTrigger_append htrigger hwords.exists_blank _
  have halike {τ : Type} (source : DiceSource τ) (s : τ) :=
    respond_of_args_eq hsilence (args_append hwords hc tail) rfl source s
  obtain ⟨hvalue, hsource, hrun⟩ := halike source s
  exact ⟨hsilence, hvalue, hsource, fun noted => (halike source.noting (s, noted)).2.1, hrun⟩

/-- An ideographic space behind the dice set, and behind it another dice set and the trigger once more.
-/
theorem respond_ignores_trigger_again :
    let settings : Settings := { Settings.standard with autoRespond := .always }
    let m : Message := ⟨"alice", "#dice", "!roll 3d6", false⟩
    let longer : Message := ⟨"alice", "#dice", "!roll 3d6\u3000d20 !roll", false⟩
    SplitsInto m.text.toList ["!roll".toList, "3d6".toList] ∧ settings.silence m = none ∧
    settings.respond preparedDice longer (.ofList [1, 2, 3, 4]) =
      settings.respond preparedDice m (.ofList [1, 2, 3, 4]) := by
  intro settings m longer
  have hwords : SplitsInto m.text.toList ["!roll".toList, "3d6".toList] :=
    splitsInto_iff.mpr (by decide +kernel)
  have htrigger : ∀ c ∈ settings.trigger.toList, isBlank c = false := by
    have hall : settings.trigger.toList.all (fun c => !isBlank c) = true := by decide +kernel
    simpa only [List.all_eq_true, Bool.not_eq_true'] using hall
  have hsilence : settings.silence m = none := by decide +kernel
  obtain ⟨-, -, -, -, hrun⟩ := respond_ignores_further_words (c := '\u3000') htrigger hwords
    (by decide) "d20 !roll" preparedDice (.ofList [1, 2, 3, 4])
  exact ⟨hwords, hsilence, hrun hsilence⟩

end DiceRoller
