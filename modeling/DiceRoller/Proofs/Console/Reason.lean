/-
# The console gives the true reason

A line at the console is a message or a command. Of a message the console first asks for the reason
for silence and then, if there is none, for the reply; a command has no reason of its own, and where
it is refused the console says that rolling is disabled. This file says that what is told is always
true: a message is told its own reason, and nothing but disabled settings leads to the reason that
they are.

The reasons reach the user as notes, so notes have to be told apart, from each other and from the
errors of rolls, which are shown in the same place. Their first letters are enough for that: only
one reason begins as "rolling is disabled" does, and no error of a roll does.

* `answer_of_silence_eq_some`, `answer_of_silence_eq_none`, `answer_of_not_isMessage`: the three
  ways in which a line is answered. The proofs behind them speak of these, not of `Options.answer`.
* `answer_value_eq_disabled_iff`: when the reason is that rolling is disabled.
* `showAnswer_eq_note_disabled_iff`: when the note says so.
* `answer_gives_true_reason`: all of it for every line, and that a command is answered in the same
  way by all enabled settings with the same default die.

Whether a line is a message is asked without the word boundary behind the trigger, so a line may be
a message and still be told that it has no trigger word. That is a true reason, and it is not put
right here.
-/
import DiceRoller.Console.Answer
import DiceRoller.Proofs.Chat.Permission

namespace DiceRoller

variable {σ : Type} {o : Options} {line : String}

/-! ## 1. Three ways to answer a line -/

theorem isMessage_iff {text : String} :
    o.isMessage text = true ↔
      o.settings.trigger ≠ "" ∧ o.settings.trigger.toList <+: text.toList := by
  rw [Options.isMessage, Bool.and_eq_true, Bool.not_eq_true', List.isPrefixOf_iff_prefix]
  have hempty : o.settings.trigger.isEmpty = false ↔ o.settings.trigger ≠ "" := by
    rw [← Bool.not_eq_true, String.isEmpty_iff]
  rw [hempty]

/-- A message with a reason for silence is told the reason. Nothing is rolled for it. -/
theorem answer_of_silence_eq_some {reason : Silence} (hline : o.isMessage (Text.trim line) = true)
    (h : o.settings.silence (o.message (Text.trim line)) = some reason) (source : DiceSource σ)
    (s : σ) : o.answer source line s = ⟨.error reason, s, []⟩ := by
  simp only [Options.answer, if_pos hline, h]

/-- A message without one gets its reply. -/
theorem answer_of_silence_eq_none (hline : o.isMessage (Text.trim line) = true)
    (h : o.settings.silence (o.message (Text.trim line)) = none) (source : DiceSource σ) (s : σ) :
    ∃ reply, (o.settings.respond source (o.message (Text.trim line)) s).value = some reply ∧
      o.answer source line s =
        ⟨.ok reply, (o.settings.respond source (o.message (Text.trim line)) s).source,
          (o.settings.respond source (o.message (Text.trim line)) s).log⟩ := by
  have hrespond := respond_of_silence_eq_none h source s
  refine ⟨_, congrArg Run.value hrespond, ?_⟩
  simp only [Options.answer, if_pos hline, h]
  rw [hrespond]
  rfl

/-- Any other line is answered as the command is, and a refusal is put down to disabled settings. -/
theorem answer_of_not_isMessage (hline : ¬ o.isMessage (Text.trim line) = true)
    (source : DiceSource σ) (s : σ) :
    o.answer source line s =
      ⟨orSilence .disabled (o.settings.command source (Text.trim line) s).value,
        (o.settings.command source (Text.trim line) s).source,
        (o.settings.command source (Text.trim line) s).log⟩ := by
  simp only [Options.answer, if_neg hline]

/-! ## 2. Disabled settings -/

/-- **A message is told that rolling is disabled exactly when it is.** -/
theorem silence_eq_disabled_iff {settings : Settings} {m : Message} :
    settings.silence m = some .disabled ↔ settings.enabled = false := by
  rw [Settings.silence]
  cases settings.enabled with
  | false => simp
  | true =>
    simp only [Bool.not_true, Bool.false_eq_true, if_false, reduceCtorEq, iff_false]
    split
    · simp
    · split
      · simp
      · split
        · simp
        · cases matchingFilter? settings.ignoreNicks m.nick with
          | some filter => simp
          | none => cases matchingFilter? settings.ignoreChannels m.channel <;> simp

/-- A command is refused exactly when rolling is disabled. -/
theorem command_value_eq_none_iff {settings : Settings} (source : DiceSource σ) (args : String)
    (s : σ) : (settings.command source args s).value = none ↔ settings.enabled = false := by
  rw [Settings.command]
  cases settings.enabled <;> simp

/-- **The console says that rolling is disabled exactly when it is.**  So where it has no better reason
than this one, this one is true. -/
theorem answer_value_eq_disabled_iff {source : DiceSource σ} {s : σ} :
    (o.answer source line s).value = .error .disabled ↔ o.settings.enabled = false := by
  by_cases hline : o.isMessage (Text.trim line) = true
  · cases hsilence : o.settings.silence (o.message (Text.trim line)) with
    | some reason =>
      rw [answer_of_silence_eq_some hline hsilence, ← silence_eq_disabled_iff, hsilence]
      simp
    | none =>
      obtain ⟨reply, -, hanswer⟩ := answer_of_silence_eq_none hline hsilence source s
      rw [hanswer, enabled_of_silence_eq_none hsilence]
      simp
  · rw [answer_of_not_isMessage hline, ← command_value_eq_none_iff source (Text.trim line) s]
    cases (o.settings.command source (Text.trim line) s).value <;> simp [orSilence]

/-! ## 3. Notes -/

/-- Lines that are printed tell the text that they were printed for. -/
theorem printedLines_inj {a b : String} (h : Text.printedLines a = Text.printedLines b) : a = b := by
  have hsplit := (List.map_inj_right fun _ _ => String.ofList_inj.mp).mp h
  have hjoin := congrArg (List.intercalate ['\n']) hsplit
  rw [List.intercalate_splitOn, List.intercalate_splitOn] at hjoin
  exact String.toList_inj.mp hjoin

theorem printedLines_ne_nil (text : String) : Text.printedLines text ≠ [] := by
  intro h
  exact List.splitOn_ne_nil _ _ (List.map_eq_nil_iff.mp h)

theorem ofErr_inj {a b : String} : Screen.ofErr a = Screen.ofErr b ↔ a = b :=
  ⟨fun h => printedLines_inj (congrArg Screen.err h), congrArg _⟩

theorem ofOut_ne_ofErr (a b : String) : Screen.ofOut a ≠ Screen.ofErr b := fun h =>
  printedLines_ne_nil a (congrArg Screen.out h)

/-- A text begins as its first part does. -/
theorem head?_append {a : String} {c : Char} (h : a.toList.head? = some c) (b : String) :
    (a ++ b).toList.head? = some c := by
  rw [String.toList_append, List.head?_append, h]
  rfl

/-- No other reason begins with the same letter as the reason that rolling is disabled. -/
theorem eq_disabled_or_head?_text (reason : Silence) :
    reason = .disabled ∨ ∃ c, reason.text.toList.head? = some c ∧ c ≠ 'r' := by
  cases reason with
  | disabled => exact .inl rfl
  | autoRespondOff => exact .inr ⟨'a', rfl, by decide⟩
  | away => exact .inr ⟨'n', rfl, by decide⟩
  | noTrigger => exact .inr ⟨'n', rfl, by decide⟩
  | ignoredNick filter => exact .inr ⟨'i', head?_append (head?_append rfl filter) _, by decide⟩
  | ignoredChannel filter => exact .inr ⟨'i', head?_append (head?_append rfl filter) _, by decide⟩

/-- No error of a roll begins with the same letter as a note. -/
theorem head?_message (reason : RollError) :
    ∃ c, reason.message.toList.head? = some c ∧ c ≠ 'r' := by
  cases reason with
  | malformed text => exact ⟨'I', head?_append rfl text, by decide⟩
  | tooManyThrows count => exact ⟨'T', head?_append rfl _, by decide⟩
  | tooManySides sides =>
    have htext : (RollError.tooManySides sides).message = "You're crazy, I'm not going to do that." :=
      rfl
    exact ⟨'Y', by rw [htext]; rfl, by decide⟩
  | overflow n => exact ⟨'M', head?_append (head?_append rfl _) _, by decide⟩

theorem note_eq_note_disabled_iff {reason : Silence} :
    reason.note = Silence.disabled.note ↔ reason = .disabled := by
  refine ⟨fun h => ?_, congrArg Silence.note⟩
  have htext : reason.text = Silence.disabled.text := (String.append_right_inj _).mp h
  have hdisabled : Silence.disabled.text.toList.head? = some 'r' := rfl
  rcases eq_disabled_or_head?_text reason with hreason | ⟨c, hc, hne⟩
  · exact hreason
  · rw [htext, hdisabled] at hc
    exact absurd (Option.some.inj hc).symm hne

theorem message_ne_note (reason : RollError) (silence : Silence) : reason.message ≠ silence.note := by
  intro h
  obtain ⟨c, hc, hne⟩ := head?_message reason
  have hnote : silence.note.toList.head? = some 'r' := head?_append rfl silence.text
  rw [h, hnote] at hc
  exact hne (Option.some.inj hc).symm

/-- **The note that rolling is disabled is shown for no other answer.** -/
theorem showAnswer_eq_note_disabled_iff {answer : Except Silence Reply} :
    showAnswer answer = .ofErr Silence.disabled.note ↔ answer = .error .disabled := by
  cases answer with
  | error reason =>
    rw [showAnswer, ofErr_inj, note_eq_note_disabled_iff, Except.error.injEq]
  | ok reply =>
    rw [showAnswer]
    cases reply.result with
    | error reason => simp [ofErr_inj, message_ne_note]
    | ok outcome => simp [ofOut_ne_ofErr]

/-! ## 4. Every line -/

/-- **Every line gets the right answer and a true reason**, whatever the options, the line and the
source. A text that begins with the trigger word is a message of the user: it is told its reason for
silence, or else it gets the reply to the message, and never a reason then. Any other text is a
command: it gets its reply or, where it is refused, the reason that rolling is disabled. A reason is
shown as its note. So the note that rolling is disabled is shown exactly when it is. And the answer to
a command, as long as rolling is enabled, hangs on nothing in the options but the default die. -/
theorem answer_gives_true_reason (o : Options) (source : DiceSource σ) (line : String) (s : σ) :
    let text := Text.trim line
    let message : Message := ⟨o.nick, o.channel, text, o.away⟩
    let triggers (o : Options) :=
      o.settings.trigger ≠ "" ∧ o.settings.trigger.toList <+: text.toList
    let answer := o.answer source line s
    (triggers o →
      (∀ reason, o.settings.silence message = some reason → answer = ⟨.error reason, s, []⟩) ∧
      (o.settings.silence message = none →
        ∃ reply, (o.settings.respond source message s).value = some reply ∧
          answer = ⟨.ok reply, (o.settings.respond source message s).source,
            (o.settings.respond source message s).log⟩)) ∧
    (¬ triggers o →
      ∃ value, answer = ⟨value, (o.settings.command source text s).source,
          (o.settings.command source text s).log⟩ ∧
        ((∃ reply, (o.settings.command source text s).value = some reply ∧ value = .ok reply) ∨
          (o.settings.command source text s).value = none ∧ value = .error .disabled)) ∧
    (∀ reason, answer.value = .error reason →
      showAnswer answer.value = .ofErr ("repl: note: nothing rolled, " ++ reason.text)) ∧
    (answer.value = .error .disabled ↔ o.settings.enabled = false) ∧
    (showAnswer answer.value = .ofErr "repl: note: nothing rolled, rolling is disabled" ↔
      o.settings.enabled = false) ∧
    ∀ o' : Options, ¬ triggers o → ¬ triggers o' →
      o.settings.enabled = true → o'.settings.enabled = true →
      o'.settings.die = o.settings.die → o'.answer source line s = answer := by
  intro text message triggers answer
  have htriggers (o : Options) : o.isMessage text = true ↔ triggers o := isMessage_iff
  refine ⟨fun hline => ?_, fun hline => ?_, fun reason hreason => ?_, ?_, ?_, ?_⟩
  -- a message: its reason for silence, or else its reply
  · rw [← htriggers] at hline
    exact ⟨fun reason h => answer_of_silence_eq_some hline h source s,
      fun h => answer_of_silence_eq_none hline h source s⟩
  -- a command: its reply, or the only reason to refuse it
  · rw [← htriggers] at hline
    refine ⟨_, answer_of_not_isMessage hline source s, ?_⟩
    cases (o.settings.command source text s).value with
    | some reply => exact .inl ⟨reply, rfl, rfl⟩
    | none => exact .inr ⟨rfl, rfl⟩
  -- the notes, and when one says that rolling is disabled
  · rw [hreason]
    rfl
  · exact answer_value_eq_disabled_iff
  · exact showAnswer_eq_note_disabled_iff.trans answer_value_eq_disabled_iff
  -- while rolling is enabled a command is a roll, and a roll reads only the default die
  · intro o' hline hline' henabled henabled' hdie
    rw [← htriggers] at hline hline'
    have hanswer := answer_of_not_isMessage hline source s
    have hanswer' := answer_of_not_isMessage hline' source s
    rw [command_of_enabled henabled] at hanswer
    rw [command_of_enabled henabled', roll_of_die_eq hdie] at hanswer'
    exact hanswer'.trans hanswer.symm

end DiceRoller
