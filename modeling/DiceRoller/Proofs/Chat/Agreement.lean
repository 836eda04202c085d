/-
# Messages and commands agree

A host has three ways into the rules (section 4.5 of the specification): it asks why a message would
be left unanswered, it lets the message be answered, or it gives a command. The three are separate
definitions, and a host that combines them, as the console does, relies on their fitting together.
This file says that they do.

* `respond_of_silence_eq_some`, `respond_of_silence_eq_none`: both cases of an answer as equations
  between runs. Everything else about answers goes through these two, and no later proof opens
  `Settings.respond`.
* `enabled_of_silence_eq_none`: a message without a reason for silence would not be refused as a
  command either. So the command of its second word rolls.
* `respond_agrees`: a message is left unanswered exactly when there is a reason, and this leaves one
  event behind and nothing else. Every other message is answered as the command of its second word
  is, with one more event.

The throws are compared by rolling with a source that notes its dice (`DiceSource.noting`), so the
two ways throw the same dice even where their numbers do not show. The second word is the one that
the text splits into (`Text.SplitsInto`), without reference to how it is found. That it is the word
behind the trigger is not claimed here, and is not always true; see `Proofs/Chat/Argument.lean`.
-/
import DiceRoller.Chat.Responder
import DiceRoller.Proofs.Evaluate.Throws
import DiceRoller.Proofs.Text.Words

namespace DiceRoller

variable {σ : Type} {settings : Settings} {m : Message}

/-! ## 1. Messages left unanswered -/

theorem respond_of_silence_eq_some {reason : Silence} (h : settings.silence m = some reason)
    (source : DiceSource σ) (s : σ) :
    settings.respond source m s = ⟨none, s, [reason.event m]⟩ := by
  rw [Settings.respond, h]

/-- A filter that did its work is told to everybody, with the names that it was held against. -/
theorem line_event_of_filter {reason : Silence} {filter : String}
    (h : reason = .ignoredNick filter ∨ reason = .ignoredChannel filter) (m : Message) :
    (reason.event m).line =
      "INFO " ++ reason.text ++ " from " ++ m.nick ++ " in " ++ m.channel := by
  have hinfo : "INFO " = "INFO" ++ " " := by simp
  rcases h with rfl | rfl <;>
    · unfold Silence.event Event.line Event.level Event.message Level.text
      simp only [hinfo, String.append_assoc]

/-- Any other reason is told on demand, with the text of the message. -/
theorem line_event_of_not_filter {reason : Silence}
    (h : reason = .disabled ∨ reason = .autoRespondOff ∨ reason = .away ∨ reason = .noTrigger)
    (m : Message) :
    (reason.event m).line = "DEBUG " ++ reason.text ++ " in `" ++ m.text ++ "`" := by
  have hdebug : "DEBUG " = "DEBUG" ++ " " := by simp
  rcases h with rfl | rfl | rfl | rfl <;>
    · unfold Silence.event Event.line Event.level Event.message Level.text
      simp only [hdebug, String.append_assoc]

/-! ## 2. Messages answered -/

theorem respond_of_silence_eq_none (h : settings.silence m = none) (source : DiceSource σ) (s : σ) :
    settings.respond source m s =
      ⟨some (settings.roll source m.args s).value, (settings.roll source m.args s).source,
        (settings.roll source m.args s).log ++
          [.answered (settings.roll source m.args s).value.dice m.nick]⟩ := by
  rw [Settings.respond, h]

/-- A message is not answered while rolling is disabled. -/
theorem enabled_of_silence_eq_none (h : settings.silence m = none) : settings.enabled = true := by
  cases henabled : settings.enabled with
  | true => rfl
  | false =>
    rw [Settings.silence, henabled] at h
    exact absurd h (by simp)

theorem command_of_enabled (h : settings.enabled = true) (source : DiceSource σ) (args : String)
    (s : σ) :
    settings.command source args s =
      ⟨some (settings.roll source args s).value, (settings.roll source args s).source,
        (settings.roll source args s).log⟩ := by
  rw [Settings.command, if_pos h]

theorem line_answered (dice nick : String) :
    (Event.answered dice nick).line = "INFO auto-rolling " ++ dice ++ " for " ++ nick := by
  have hinfo : "INFO auto-rolling " = "INFO" ++ " " ++ "auto-rolling " := by simp
  unfold Event.line Event.level Event.message Level.text
  simp only [hinfo, String.append_assoc]

/-- What a message asks for is the second of the words that its text splits into. -/
theorem toList_args (m : Message) :
    m.args.toList = (Text.wordChars m.text.toList)[1]?.getD [] := by
  rw [Message.args, Text.words, List.getElem?_map]
  cases (Text.wordChars m.text.toList)[1]? with
  | none => rfl
  | some w => exact String.toList_ofList

/-! ## 3. The three ways in -/

/-- **The three ways in agree**, whatever the settings, the message and the source. A message is left
unanswered exactly when there is a reason for silence. Then the source stays as it is, and one event
is logged, which names the nick and the channel if the reason is a filter and the text otherwise.
Every other message is answered as a command is that consists of the second word of its text, or of
nothing if there is none: with the same reply, the same dice and the same source after them. The log
is that of the command with one event behind it that names the dice of the reply, whether the roll
succeeded or not. -/
theorem respond_agrees (settings : Settings) (source : DiceSource σ) (m : Message) (s : σ) :
    ((settings.respond source m s).value = none ↔ ∃ reason, settings.silence m = some reason) ∧
    (∀ reason, settings.silence m = some reason →
      (settings.respond source m s).source = s ∧
      ∃ event, (settings.respond source m s).log = [event] ∧
        (∀ filter, reason = .ignoredNick filter ∨ reason = .ignoredChannel filter →
          event.line = "INFO " ++ reason.text ++ " from " ++ m.nick ++ " in " ++ m.channel) ∧
        (reason = .disabled ∨ reason = .autoRespondOff ∨ reason = .away ∨ reason = .noTrigger →
          event.line = "DEBUG " ++ reason.text ++ " in `" ++ m.text ++ "`")) ∧
    (settings.silence m = none →
      ∃ words args reply, Text.SplitsInto m.text.toList words ∧ args.toList = words[1]?.getD [] ∧
        (settings.respond source m s).value = some reply ∧
        (settings.command source args s).value = some reply ∧
        (settings.respond source m s).source = (settings.command source args s).source ∧
        (∀ noted, (settings.respond source.noting m (s, noted)).source =
          (settings.command source.noting args (s, noted)).source) ∧
        ∃ event, (settings.respond source m s).log = (settings.command source args s).log ++ [event] ∧
          event.line = "INFO auto-rolling " ++ reply.dice ++ " for " ++ m.nick) := by
  refine ⟨?_, fun reason h => ?_, fun h => ?_⟩
  · cases h : settings.silence m with
    | some reason => simp [respond_of_silence_eq_some h]
    | none => simp [respond_of_silence_eq_none h]
  · rw [respond_of_silence_eq_some h]
    exact ⟨rfl, reason.event m, rfl, fun filter hfilter => line_event_of_filter hfilter m,
      fun hother => line_event_of_not_filter hother m⟩
  -- an answered message is the command of its second word, with one event behind it
  · have henabled := enabled_of_silence_eq_none h
    refine ⟨_, m.args, (settings.roll source m.args s).value, Text.splitsInto_iff.mpr rfl,
      toList_args m, ?_⟩
    rw [respond_of_silence_eq_none h, command_of_enabled henabled]
    refine ⟨rfl, rfl, rfl, fun noted => ?_, _, rfl, line_answered _ _⟩
    rw [respond_of_silence_eq_none h, command_of_enabled henabled]

end DiceRoller
