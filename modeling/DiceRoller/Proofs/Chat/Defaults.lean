/-
# Defaults and trimming

A query is trimmed before it is read, and where nothing is left of it a default takes its place
(section 4.3 of the specification). This file says that neither changes what is rolled: the dice set
is the one that the untrimmed text holds, and the text that names the dice of a reply is the text
they were read from.

A default takes the place of a blank text only. A text that is not blank but holds no dice set is
kept, and its error names it; the defaults behind it are not looked at.

* `exists_firstFilled`: of a text and its defaults, the query is the first one that is not blank
  (`FirstFilled`). By induction on the defaults, for every query that they start from.
* `Query.expression_eq_ok_iff`: trimming a text commutes with looking for a dice set in it. This
  rests on `parse_trim_eq_ok_iff`: no blank is a part of a dice set, so blanks at the ends neither
  make one nor break one.
* `rolls_text_it_shows`: that text alone decides what a query and a reply are, for commands and for
  messages.

What an error quotes is the trimmed text, so blanks around a malformed text are not shown. That is
the only trace which trimming leaves.
-/
import DiceRoller.Proofs.Chat.Agreement
import DiceRoller.Proofs.DiceSet.Surroundings

namespace DiceRoller

variable {σ : Type}

/-! ## 1. The first text that is not blank -/

/-- Every character of the text is blank. -/
def Text.Blank (t : String) : Prop := ∀ c ∈ t.toList, Text.isBlank c = true

/-- The first of these texts that is not blank, or the empty text if they all are. -/
inductive FirstFilled : List String → String → Prop
  | none : FirstFilled [] ""
  | here {t : String} {rest : List String} (filled : ¬ Text.Blank t) : FirstFilled (t :: rest) t
  | later {t text : String} {rest : List String} (blank : Text.Blank t)
      (later : FirstFilled rest text) : FirstFilled (t :: rest) text

theorem Query.orDefault_of_blank {q : Query} (h : q.text = "") (default : String) :
    q.orDefault default = .ofText default := by
  rw [orDefault, h]
  rfl

theorem Query.orDefault_of_ne {q : Query} (h : q.text ≠ "") (default : String) :
    q.orDefault default = q := by
  have hempty : q.text.isEmpty = false := by simpa using h
  rw [orDefault, hempty]
  rfl

/-- A query with something in it is kept, however many defaults follow. -/
theorem Query.foldl_orDefault_of_ne {q : Query} (h : q.text ≠ "") (defaults : List String) :
    defaults.foldl Query.orDefault q = q := by
  induction defaults with
  | nil => rfl
  | cons d defaults ih => rw [List.foldl_cons, orDefault_of_ne h, ih]

/-- **The query is the first text that is not blank, trimmed.**  By induction on the defaults, for
every query that they start from: a blank one gives way to the next default, which then takes its
part. -/
theorem exists_firstFilled {q : Query} {t : String} (hq : q.text = Text.trim t)
    (defaults : List String) :
    ∃ text, FirstFilled (t :: defaults) text ∧
      (defaults.foldl Query.orDefault q).text = Text.trim text := by
  induction defaults generalizing q t with
  | nil =>
    by_cases ht : Text.Blank t
    · have hempty : q.text = "" := by rw [hq, Text.trim_eq_empty_iff.mpr ht]
      exact ⟨"", .later ht .none, hempty⟩
    · exact ⟨t, .here ht, hq⟩
  | cons d defaults ih =>
    by_cases ht : Text.Blank t
    · have hempty : q.text = "" := by rw [hq, Text.trim_eq_empty_iff.mpr ht]
      obtain ⟨text, hfirst, htext⟩ := ih (q := .ofText d) rfl
      rw [List.foldl_cons, Query.orDefault_of_blank hempty]
      exact ⟨text, .later ht hfirst, htext⟩
    · have hne : q.text ≠ "" := fun h => ht (Text.trim_eq_empty_iff.mp (hq.symm.trans h))
      rw [Query.foldl_orDefault_of_ne hne]
      exact ⟨t, .here ht, hq⟩

/-! ## 2. What is read from it -/

/-- A query that is a trimmed text asks for the dice set of the untrimmed one. -/
theorem Query.expression_eq_ok_iff {q : Query} {t : String} (hq : q.text = Text.trim t)
    (e : Expression) : q.expression = .ok e ↔ DiceSet.parse t = .ok e := by
  rw [expression, hq]
  exact parse_trim_eq_ok_iff

theorem Query.expression_of_not_exists {q : Query} {t : String} (hq : q.text = Text.trim t)
    (h : ¬ ∃ e, DiceSet.parse t = .ok e) : q.expression = .error (.malformed (Text.trim t)) := by
  rw [expression, hq]
  cases hparse : DiceSet.parse t with
  | ok e => exact absurd ⟨e, hparse⟩ h
  | error reason => exact parse_trim_of_parse_eq_error hparse

/-- What is rolled for a text: the evaluation of its dice set, or the error of the trimmed text. -/
theorem Query.value_solve_of_text_eq {q : Query} {t : String} (hq : q.text = Text.trim t)
    (source : DiceSource σ) (s : σ) :
    (∀ e, DiceSet.parse t = .ok e → (q.solve source s).value = (e.evaluate source s).value) ∧
    (¬ (∃ e, DiceSet.parse t = .ok e) →
      (q.solve source s).value = .error (.malformed (Text.trim t))) := by
  constructor
  · intro e he
    rw [solve, (expression_eq_ok_iff hq e).mpr he]
  · intro h
    rw [solve, expression_of_not_exists hq h]

theorem value_roll (settings : Settings) (source : DiceSource σ) (args : String) (s : σ) :
    (settings.roll source args s).value =
      ⟨((Query.ofText args).orDefault settings.die).text,
        (((Query.ofText args).orDefault settings.die).solve source s).value⟩ := by
  rw [Settings.roll]

/-- A reply, to a command or to a message, is what is rolled for the argument. -/
theorem eq_roll_of_reply {settings : Settings} {source : DiceSource σ} {s : σ} {args : String}
    {reply : Reply} (h : (settings.command source args s).value = some reply ∨
      ∃ m : Message, m.args = args ∧ (settings.respond source m s).value = some reply) :
    reply = (settings.roll source args s).value := by
  rcases h with h | ⟨m, rfl, h⟩
  · cases henabled : settings.enabled with
    | false =>
      rw [Settings.command, henabled] at h
      exact absurd h (by simp)
    | true =>
      rw [command_of_enabled henabled] at h
      exact (Option.some.inj h).symm
  · cases hsilence : settings.silence m with
    | some reason =>
      rw [respond_of_silence_eq_some hsilence] at h
      exact absurd h (by simp)
    | none =>
      rw [respond_of_silence_eq_none hsilence] at h
      exact (Option.some.inj h).symm

/-! ## 3. The text that is rolled and shown -/

/-- **What is rolled is what the untrimmed text asks for.**  Of a text and its defaults, the query is
the first one that is not blank, trimmed, or empty if they all are blank. It asks for exactly the dice
set that this text holds before it is trimmed, and where that holds none the error names the trimmed
text. Every reply names the argument in this way, or the default die where the argument is blank, and
its result is that of the same text. -/
theorem rolls_text_it_shows :
    (∀ (input : String) (defaults : List String),
      ∃ text, FirstFilled (input :: defaults) text ∧
        (defaults.foldl Query.orDefault (.ofText input)).text = Text.trim text ∧
        (∀ e, (defaults.foldl Query.orDefault (.ofText input)).expression = .ok e ↔
          DiceSet.parse text = .ok e) ∧
        (¬ (∃ e, DiceSet.parse text = .ok e) →
          (defaults.foldl Query.orDefault (.ofText input)).expression =
            .error (.malformed (Text.trim text)))) ∧
    ∀ {σ : Type} (settings : Settings) (source : DiceSource σ) (s : σ) (args : String)
      (reply : Reply), ((settings.command source args s).value = some reply ∨
        ∃ m : Message, m.args = args ∧ (settings.respond source m s).value = some reply) →
      ∃ text, FirstFilled [args, settings.die] text ∧ reply.dice = Text.trim text ∧
        (∀ e, DiceSet.parse text = .ok e → reply.result = (e.evaluate source s).value) ∧
        (¬ (∃ e, DiceSet.parse text = .ok e) →
          reply.result = .error (.malformed (Text.trim text))) := by
  constructor
  · intro input defaults
    obtain ⟨text, hfirst, htext⟩ := exists_firstFilled (q := .ofText input) rfl defaults
    exact ⟨text, hfirst, htext, Query.expression_eq_ok_iff htext,
      Query.expression_of_not_exists htext⟩
  · intro σ settings source s args reply hreply
    obtain ⟨text, hfirst, htext⟩ := exists_firstFilled (q := .ofText args) rfl [settings.die]
    rw [List.foldl_cons, List.foldl_nil] at htext
    obtain ⟨hok, herror⟩ := Query.value_solve_of_text_eq htext source s
    rw [eq_roll_of_reply hreply, value_roll]
    exact ⟨text, hfirst, htext, hok, herror⟩

end DiceRoller
