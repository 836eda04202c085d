/-
# The trigger word

Whether a message asks for a roll is read off the start of its text: the trigger, and the character
behind it (section 4.5 of the specification). What comes later plays no part.

The trigger may be any text. It may end in a letter, and then no letter may follow; or in a symbol,
and then one must. An empty trigger has no last character and is never found.

* `startsWithTrigger_iff`: what it means that a text begins with the trigger. The text is the
  trigger and a rest, and the two characters where they meet are of different kinds; the end of the
  text counts as no word character. Later proofs use this and leave the definition closed.
* `startsWithTrigger_append`: a trigger without blanks is found or missed before the first blank of
  the text, so nothing behind that blank matters.
* `silence_with_text`: so two texts of which both or neither begin with the trigger have the same
  reason for silence.

For a trigger with a blank in it the second statement fails: it can reach beyond the first blank of
the text, and then what stands there decides.
-/
import DiceRoller.Chat.Silence
import Mathlib.Data.List.Basic

namespace DiceRoller

variable {settings : Settings} {trigger text : String}

/-! ## 1. The start of a text -/

/-- **A text begins with the trigger** if it is the trigger and a rest, and of the last character of
the trigger and the first one of the rest exactly one is a word character. -/
theorem startsWithTrigger_iff :
    startsWithTrigger trigger text = true ↔
      ∃ last rest, trigger.toList.getLast? = some last ∧ text.toList = trigger.toList ++ rest ∧
        Text.isWord last ≠ rest.head?.any Text.isWord := by
  rw [startsWithTrigger]
  constructor
  · intro h
    split at h
    · rename_i last rest hlast hrest
      have htext : trigger.toList ++ rest = text.toList :=
        List.isPrefixOf?_eq_some_iff_append_eq.mp hrest
      exact ⟨last, rest, hlast, htext.symm, by simpa using h⟩
    · exact absurd h (by simp)
  · rintro ⟨last, rest, hlast, htext, hne⟩
    have hrest : trigger.toList.isPrefixOf? text.toList = some rest :=
      List.isPrefixOf?_eq_some_iff_append_eq.mpr htext.symm
    rw [hlast, hrest]
    simpa using hne

/-- **Nothing behind the first blank matters.**  A trigger without blanks cannot reach beyond it, and
the rest of the text begins at that blank at the latest, so its first character is the same too. -/
theorem startsWithTrigger_append (htrigger : ∀ c ∈ trigger.toList, Text.isBlank c = false)
    (htext : ∃ c ∈ text.toList, Text.isBlank c = true) (tail : String) :
    startsWithTrigger trigger (text ++ tail) = startsWithTrigger trigger text := by
  obtain ⟨c, hmem, hc⟩ := htext
  have hnot : c ∉ trigger.toList := by
    intro h
    rw [htrigger c h] at hc
    exact absurd hc (by simp)
  have hrest {rest : List Char} (hsplit : text.toList = trigger.toList ++ rest) : rest ≠ [] := by
    rintro rfl
    rw [hsplit, List.append_nil] at hmem
    exact hnot hmem
  rw [Bool.eq_iff_iff, startsWithTrigger_iff, startsWithTrigger_iff, String.toList_append]
  constructor
  · rintro ⟨last, rest, hlast, hsplit, hne⟩
    rcases List.append_eq_append_iff.mp hsplit with ⟨more, hmore, -⟩ | ⟨own, hown, hown'⟩
    · rw [hmore] at hnot
      exact absurd (List.mem_append_left more hmem) hnot
    · refine ⟨last, own, hlast, hown, ?_⟩
      rwa [hown', List.head?_append_of_ne_nil _ (hrest hown)] at hne
  · rintro ⟨last, rest, hlast, hsplit, hne⟩
    refine ⟨last, rest ++ tail.toList, hlast, by rw [hsplit, List.append_assoc], ?_⟩
    rwa [List.head?_append_of_ne_nil _ (hrest hsplit)]

/-! ## 2. The reason for silence -/

/-- Of the text of a message the reason for silence depends on the trigger alone. -/
theorem silence_with_text {m : Message}
    (h : startsWithTrigger settings.trigger text = startsWithTrigger settings.trigger m.text) :
    settings.silence { m with text := text } = settings.silence m := by
  rw [Settings.silence, Settings.silence, h]

end DiceRoller
