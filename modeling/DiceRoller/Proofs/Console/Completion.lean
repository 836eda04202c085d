/-
# A completed trigger is a trigger

The prompt completes a half-typed trigger and puts a blank behind it. Who types the rest wants to be
answered, so the line with its completion should be one that the chat answers. It begins with the
trigger always, but a word must end there too (section 4.5 of the specification): behind a trigger
that ends in a letter the blank ends the word, behind one that ends in a symbol a word would have to
begin.

The proof has two halves that meet in `silence_of_completed_line`. On the side of the prompt, the
cursor stands between two characters, so the text before it is what was typed and the text behind it
stays; the induction is on the characters before the cursor. On the side of the chat, a blank is no
word character, whatever follows it, so the last character of the trigger decides alone.

* `ofPosition_append`: the two sides of the cursor.
* `accept_of_mem_candidates`: the line after a completion is the trigger, a blank, and what stood
  behind the cursor.
* `startsWithTrigger_append_blank_iff`: a blank behind the trigger ends a word or nothing.
* `silence_of_completed_line`: the completed line is answered exactly if the trigger ends in a word
  character.
* `completed_symbol_not_answered`: a trigger that ends in a symbol.

Only settings are spoken of in which nothing but the trigger can be missing. A cursor inside a
character is excluded, since no editor puts it there.
-/
import DiceRoller.Console.Prompt
import DiceRoller.Proofs.Chat.Permission
import DiceRoller.Proofs.Chat.Trigger
import DiceRoller.Proofs.Text.Blank

namespace DiceRoller

variable {settings : Settings} {trigger line : String}

/-! ## 1. The cursor -/

/-- **The bytes of a text that comes first cut it off.**  By induction on that text: its first
character takes up its bytes, and the others are left for the rest. -/
theorem splitAtByte_append (before after : List Char) :
    splitAtByte (String.ofList before).utf8ByteSize (before ++ after) = (before, after) := by
  induction before with
  | nil => rw [String.ofList_nil, String.utf8ByteSize_empty, List.nil_append, splitAtByte]
  | cons c before ih =>
    obtain ⟨n, hn⟩ : ∃ n, (String.ofList (c :: before)).utf8ByteSize = n + 1 := by
      refine Nat.exists_eq_add_one.mpr ?_
      rw [String.ofList_cons, String.utf8ByteSize_append, String.utf8ByteSize_singleton]
      exact Nat.add_pos_left c.utf8Size_pos _
    have hrest : n + 1 - c.utf8Size = (String.ofList before).utf8ByteSize := by
      rw [← hn, String.ofList_cons, String.utf8ByteSize_append, String.utf8ByteSize_singleton,
        Nat.add_sub_cancel_left]
    rw [hn, List.cons_append, splitAtByte, hrest, ih]

theorem ofPosition_append (before after : String) :
    EditedLine.ofPosition (before ++ after) before.utf8ByteSize = ⟨before, after⟩ := by
  have hsplit := splitAtByte_append before.toList after.toList
  rw [String.ofList_toList] at hsplit
  rw [EditedLine.ofPosition, String.toList_append, hsplit, String.ofList_toList, String.ofList_toList]

/-- A position that is no place inside a character cuts the line in two. -/
theorem ofPosition_of_isValid {position : Nat} (h : (String.Pos.Raw.mk position).IsValid line) :
    (EditedLine.ofPosition line position).before ++ (EditedLine.ofPosition line position).after =
      line ∧
    (EditedLine.ofPosition line position).before.utf8ByteSize = position := by
  obtain ⟨before, after, rfl, hposition⟩ := String.Pos.Raw.isValid_iff_exists_append.mp h
  obtain rfl : position = before.utf8ByteSize := congrArg String.Pos.Raw.byteIdx hposition
  rw [ofPosition_append]
  exact ⟨rfl, rfl⟩

/-- Nothing stands before the start of a line. -/
@[simp] theorem ofPosition_zero (line : String) : EditedLine.ofPosition line 0 = ⟨"", line⟩ := by
  have h := ofPosition_append "" line
  rwa [String.empty_append, String.utf8ByteSize_empty] at h

/-! ## 2. The completion -/

theorem mem_candidates_iff {l : EditedLine} {c : Candidate} :
    c ∈ (l.complete trigger).candidates ↔
      isTriggerStart trigger l.before = true ∧ c = ⟨trigger, trigger ++ " "⟩ := by
  rw [EditedLine.complete]
  split <;> simp_all

/-- **What is typed gives way to the trigger and a blank**, and what stands behind the cursor stays. -/
theorem accept_of_mem_candidates {l : EditedLine} {c : Candidate}
    (h : c ∈ (l.complete trigger).candidates) :
    l.accept (l.complete trigger).start c = trigger ++ " " ++ l.after := by
  obtain ⟨hstart, rfl⟩ := mem_candidates_iff.mp h
  rw [EditedLine.complete, if_pos hstart, EditedLine.accept, ofPosition_zero, String.empty_append]

/-! ## 3. The answer -/

/-- The trigger ends in a letter, a number or an underscore. -/
def EndsInWord (trigger : String) : Prop :=
  ∃ last ∈ trigger.toList.getLast?, Text.isWord last = true

/-- Whoever begins a message with the trigger is answered. -/
structure Settings.AnswersEveryone (settings : Settings) : Prop where
  enabled : settings.enabled = true
  always : settings.autoRespond = .always
  nicks : settings.ignoreNicks = []
  channels : settings.ignoreChannels = []

/-- Then only a missing trigger can be a reason for silence. -/
theorem Settings.AnswersEveryone.silence_eq (h : settings.AnswersEveryone) (m : Message) :
    settings.silence m =
      if startsWithTrigger settings.trigger m.text then none else some .noTrigger := by
  rw [Settings.silence, h.enabled, h.always, h.nicks, h.channels]
  cases startsWithTrigger settings.trigger m.text <;> simp [matchingFilter?]

/-- **A blank behind the trigger ends a word or nothing.**  It is no word character, so the boundary is
there exactly if the trigger ends in one. -/
theorem startsWithTrigger_append_blank_iff {b : Char} (hb : Text.isBlank b = true) (after : String) :
    startsWithTrigger trigger (trigger ++ String.singleton b ++ after) = true ↔
      EndsInWord trigger := by
  have htext : (trigger ++ String.singleton b ++ after).toList =
      trigger.toList ++ b :: after.toList := by
    simp
  have hword : (b :: after.toList).head?.any Text.isWord = false :=
    Text.isWord_eq_false_of_isBlank hb
  rw [startsWithTrigger_iff, htext]
  constructor
  · rintro ⟨last, rest, hlast, hrest, hne⟩
    obtain rfl := List.append_cancel_left hrest
    rw [hword, Bool.ne_false_iff] at hne
    exact ⟨last, hlast, hne⟩
  · rintro ⟨last, hlast, hisWord⟩
    refine ⟨last, _, hlast, rfl, ?_⟩
    rw [hword, hisWord]
    exact Bool.noConfusion

/-- **A completed trigger is answered if it ends in a word.**  Wherever the cursor stands in the line,
whatever is offered for the text before it leaves the trigger, a blank, and the text behind the cursor.
Who answers everyone then answers if the trigger ends in a word character, and misses the trigger if it
ends in a symbol, whatever stands behind the cursor. -/
theorem silence_of_completed_line {position : Nat} {c : Candidate}
    (hposition : (String.Pos.Raw.mk position).IsValid line)
    (hc : c ∈ ((EditedLine.ofPosition line position).complete trigger).candidates) :
    let l := EditedLine.ofPosition line position
    let completed := l.accept (l.complete trigger).start c
    (l.before ++ l.after = line ∧ l.before.utf8ByteSize = position) ∧
    completed = trigger ++ " " ++ l.after ∧
    ∀ settings : Settings, settings.AnswersEveryone → settings.trigger = trigger →
      ∀ m : Message, m.text = completed →
        (EndsInWord trigger → settings.silence m = none) ∧
        (¬ EndsInWord trigger → settings.silence m = some .noTrigger) := by
  intro l completed
  have hcompleted : completed = trigger ++ " " ++ l.after := accept_of_mem_candidates hc
  have hblank : " " = String.singleton ' ' := rfl
  refine ⟨ofPosition_of_isValid hposition, hcompleted, ?_⟩
  intro settings hsettings htrigger m htext
  -- a blank follows the trigger, so its own last character decides about the boundary
  have hstarts : startsWithTrigger settings.trigger m.text = true ↔ EndsInWord trigger := by
    rw [htrigger, htext, hcompleted, hblank]
    exact startsWithTrigger_append_blank_iff rfl l.after
  rw [hsettings.silence_eq m]
  constructor
  · intro hword
    rw [if_pos (hstarts.mpr hword)]
  · intro hsymbol
    rw [if_neg fun h => hsymbol (hstarts.mp h)]

/-- An exclamation mark in front of a roll is completed to the usual trigger, and the roll is made. -/
theorem silence_of_completed_line_roll :
    let settings : Settings := { Settings.standard with autoRespond := .always }
    let l := EditedLine.ofPosition "! 3d6" 1
    (String.Pos.Raw.mk 1).IsValid "! 3d6" ∧
    ⟨"!roll", "!roll "⟩ ∈ (l.complete settings.trigger).candidates ∧
    l.accept (l.complete settings.trigger).start ⟨"!roll", "!roll "⟩ = "!roll  3d6" ∧
    settings.silence ⟨"alice", "#dice", "!roll  3d6", false⟩ = none := by
  intro settings l
  have hposition : (String.Pos.Raw.mk 1).IsValid "! 3d6" :=
    String.Pos.Raw.isValid_iff_exists_append.mpr ⟨"!", " 3d6", rfl, rfl⟩
  have hline : l = ⟨"!", " 3d6"⟩ := ofPosition_append "!" " 3d6"
  have hc : ⟨"!roll", "!roll "⟩ ∈ (l.complete settings.trigger).candidates := by
    rw [hline]
    decide
  obtain ⟨-, hcompleted, hsilence⟩ := silence_of_completed_line hposition hc
  have htext : settings.trigger ++ " " ++ l.after = "!roll  3d6" := by
    rw [hline]
    rfl
  have hsettings : settings.AnswersEveryone := ⟨rfl, rfl, rfl, rfl⟩
  have hlast : "!roll".toList.getLast? = some 'l' := by decide
  have hword : EndsInWord settings.trigger := ⟨'l', hlast, by decide +kernel⟩
  exact ⟨hposition, hc, hcompleted.trans htext,
    (hsilence settings hsettings rfl _ (hcompleted.trans htext).symm).1 hword⟩

/-- A trigger that ends in a symbol is completed too, but the line is not answered. -/
theorem completed_symbol_not_answered :
    let settings : Settings := { Settings.standard with autoRespond := .always, trigger := "roll!" }
    let l := EditedLine.ofPosition "ro" 2
    settings.AnswersEveryone ∧ (String.Pos.Raw.mk 2).IsValid "ro" ∧
    (l.complete settings.trigger).candidates = [⟨"roll!", "roll! "⟩] ∧
    l.accept (l.complete settings.trigger).start ⟨"roll!", "roll! "⟩ = "roll! " ∧
    settings.silence ⟨"alice", "#dice", "roll! ", false⟩ = some .noTrigger := by
  intro settings l
  have hposition : (String.Pos.Raw.mk 2).IsValid "ro" :=
    String.Pos.Raw.isValid_iff_exists_append.mpr ⟨"ro", "", rfl, rfl⟩
  have hline : l = ⟨"ro", ""⟩ := ofPosition_append "ro" ""
  have hc : (l.complete settings.trigger).candidates = [⟨"roll!", "roll! "⟩] := by
    rw [hline]
    decide
  refine ⟨⟨rfl, rfl, rfl, rfl⟩, hposition, hc, ?_, by decide +kernel⟩
  rw [accept_of_mem_candidates (hc ▸ List.mem_singleton_self _), hline]
  rfl

end DiceRoller
