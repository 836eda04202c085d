/-
# The first reason is given

Six things may speak against an answer, in a fixed order (section 4.5 of the specification), and a
message can meet several of them. This file says what each of them is without the way in which it is
looked for, and that the reason for silence is always the first one that is met. Of several filters
that catch a name the first one in its list is named, as it is written there.

`Objection` lists the six, `Objection.Holds` says when each one holds, and `FirstWith` is what
"first" means, for the objections as well as for the filters. The boundary behind the trigger is
that of the text, between the two characters that stand there (`WordBoundaryAt`), while the program
looks at the last character of the trigger; for a text that begins with the trigger these are the
same.

* `startsWithTrigger_iff_beginsWith`: the trigger is found by its own last character, and this is
  the word boundary of the text behind it.
* `matchingFilter?_eq_some_iff`: the filter that is named is the first one that catches the name.
* `firstWith_of_silence_eq_some`: a reason is the first objection that holds. The guards are gone
  through in their order. The converse needs no second walk, since only one reason can be the first.
* `silence_is_first_reason`: the reason is the first one, and further filters that do not match, or
  that come behind the one that is named, change no answer.

A filter catches a name when its lower case is a part of the name's lower case. Whether it then
catches every name that contains it as it is written is the subject of `Proofs/Chat/Filters.lean`.
-/
import DiceRoller.Proofs.Chat.Filters
import DiceRoller.Proofs.Chat.Trigger
import Mathlib.Logic.Basic

namespace DiceRoller

variable {settings : Settings} {m : Message} {name : String}

/-! ## 1. The first of a list -/

/-- The element is the first one of the list that has the property. -/
inductive FirstWith {α : Type} (p : α → Prop) : List α → α → Prop
  | here {x : α} {l : List α} (holds : p x) : FirstWith p (x :: l) x
  | later {x y : α} {l : List α} (fails : ¬ p y) (later : FirstWith p l x) : FirstWith p (y :: l) x

/-- The first element is one of the list, and it has the property. -/
theorem FirstWith.exists_mem {α : Type} {p : α → Prop} {l : List α} {x : α} (h : FirstWith p l x) :
    ∃ y ∈ l, p y := by
  induction h with
  | here hx => exact ⟨_, List.mem_cons_self, hx⟩
  | later _ _ ih =>
    obtain ⟨y, hy, hp⟩ := ih
    exact ⟨y, List.mem_cons_of_mem _ hy, hp⟩

/-- Only one element comes first. By induction on the list: its head has the property or not. -/
theorem FirstWith.unique {α : Type} {p : α → Prop} {l : List α} {x y : α} (hx : FirstWith p l x)
    (hy : FirstWith p l y) : x = y := by
  induction hx with
  | here hp =>
    cases hy with
    | here => rfl
    | later hnot _ => exact absurd hp hnot
  | later hnot _ ih =>
    cases hy with
    | here hp => exact absurd hp hnot
    | later _ hy => exact ih hy

theorem find?_eq_some_iff_firstWith {α : Type} {p : α → Bool} {l : List α} {x : α} :
    l.find? p = some x ↔ FirstWith (p · = true) l x := by
  constructor
  · intro h
    induction l with
    | nil => exact absurd h (by simp)
    | cons y l ih =>
      by_cases hy : p y = true
      · rw [List.find?_cons_of_pos hy, Option.some.injEq] at h
        subst h
        exact .here hy
      · rw [List.find?_cons_of_neg hy] at h
        exact .later hy (ih h)
  · intro h
    induction h with
    | here hx => exact List.find?_cons_of_pos hx
    | later hy _ ih => rw [List.find?_cons_of_neg hy, ih]

/-! ## 2. What speaks against an answer -/

/-- The character behind the first `i` characters of the text is a word character. -/
def WordCharAt (text : List Char) (i : Nat) : Prop := ∃ c ∈ text[i]?, Text.isWord c = true

/-- A word ends or begins behind the first `n` characters of the text: of the characters before and
behind that place exactly one is a word character. At the ends of the text there is none. -/
def WordBoundaryAt (text : List Char) (n : Nat) : Prop :=
  Xor (0 < n ∧ WordCharAt text (n - 1)) (WordCharAt text n)

/-- The text is the trigger, which is not empty, and a rest, with a word boundary between them. -/
def BeginsWith (trigger text : String) : Prop :=
  trigger ≠ "" ∧ (∃ rest, text = trigger ++ rest) ∧
    WordBoundaryAt text.toList trigger.toList.length

/-- The filter is not blank, and its lower case is a part of the lower case of the name. -/
def Catches (filter name : String) : Prop :=
  IsVisible filter ∧ (Text.lower filter).toList <:+: (Text.lower name).toList

/-- The kinds of things that may speak against an answer. -/
inductive Objection where
  | disabled
  | autoRespondOff
  | away
  | noTrigger
  | nick
  | channel
deriving Repr, DecidableEq

/-- The objections in the order in which they are raised. -/
def Objection.order : List Objection :=
  [.disabled, .autoRespondOff, .away, .noTrigger, .nick, .channel]

/-- When an objection holds against a message. -/
def Objection.Holds (settings : Settings) (m : Message) : Objection → Prop
  | .disabled => settings.enabled = false
  | .autoRespondOff => settings.autoRespond = .off
  | .away => settings.autoRespond = .whenPresent ∧ m.away = true
  | .noTrigger => ¬ BeginsWith settings.trigger m.text
  | .nick => ∃ filter ∈ settings.ignoreNicks, Catches filter m.nick
  | .channel => ∃ filter ∈ settings.ignoreChannels, Catches filter m.channel

/-- The objection that a reason stands for. -/
def Silence.objection : Silence → Objection
  | .disabled => .disabled
  | .autoRespondOff => .autoRespondOff
  | .away => .away
  | .noTrigger => .noTrigger
  | .ignoredNick _ => .nick
  | .ignoredChannel _ => .channel

/-- A reason that names a filter names the first one of its list that catches the name. -/
def Silence.NamesFirst (settings : Settings) (m : Message) : Silence → Prop
  | .ignoredNick filter => FirstWith (Catches · m.nick) settings.ignoreNicks filter
  | .ignoredChannel filter => FirstWith (Catches · m.channel) settings.ignoreChannels filter
  | _ => True

/-! ## 3. The guards -/

theorem wordCharAt_iff {text : List Char} {i : Nat} :
    WordCharAt text i ↔ text[i]?.any Text.isWord = true := by
  rw [WordCharAt, Option.any_eq_true]
  rfl

/-- Behind a text that is not empty stand its last character and the first one of what follows. -/
theorem wordBoundaryAt_append_iff {before after : List Char} {last : Char}
    (hlast : before.getLast? = some last) :
    WordBoundaryAt (before ++ after) before.length ↔
      Text.isWord last ≠ after.head?.any Text.isWord := by
  have hpos : 0 < before.length := by
    rw [List.length_pos_iff]
    rintro rfl
    exact absurd hlast (by simp)
  have hbefore : (before ++ after)[before.length - 1]? = some last := by
    rw [List.getElem?_append_left (by omega), ← List.getLast?_eq_getElem?, hlast]
  have hafter : (before ++ after)[before.length]? = after.head? := by
    rw [List.getElem?_append_right (Nat.le_refl _), Nat.sub_self, List.head?_eq_getElem?]
  rw [WordBoundaryAt, wordCharAt_iff, wordCharAt_iff, hbefore, hafter, Option.any_some]
  cases Text.isWord last <;> cases after.head?.any Text.isWord <;> simp [Xor, hpos]

/-- **The trigger is found where the text begins with it**, and the boundary behind it is the one of
the text. -/
theorem startsWithTrigger_iff_beginsWith {trigger text : String} :
    startsWithTrigger trigger text = true ↔ BeginsWith trigger text := by
  rw [startsWithTrigger_iff]
  constructor
  · rintro ⟨last, rest, hlast, htext, hne⟩
    refine ⟨?_, ⟨String.ofList rest, ?_⟩, ?_⟩
    · rintro rfl
      exact absurd hlast (by simp)
    · rw [← String.toList_inj, String.toList_append, String.toList_ofList, htext]
    · rw [htext, wordBoundaryAt_append_iff hlast]
      exact hne
  · rintro ⟨hne, ⟨rest, rfl⟩, hboundary⟩
    cases hlast : trigger.toList.getLast? with
    | none =>
      rw [List.getLast?_eq_none_iff, String.toList_eq_nil_iff] at hlast
      exact absurd hlast hne
    | some last =>
      rw [String.toList_append, wordBoundaryAt_append_iff hlast] at hboundary
      exact ⟨last, rest.toList, rfl, String.toList_append, hboundary⟩

theorem filterMatches_iff_catches {filter : String} :
    filterMatches filter name = true ↔ Catches filter name := by
  rw [filterMatches_iff, Catches, Text.occursIn_iff, Text.lower, Text.lower, String.toList_ofList,
    String.toList_ofList]
  simp only [List.IsInfix, eq_comm]

/-- **The filter that is named is the first one that catches the name.** -/
theorem matchingFilter?_eq_some_iff {filters : List String} {filter : String} :
    matchingFilter? filters name = some filter ↔ FirstWith (Catches · name) filters filter := by
  rw [matchingFilter?, find?_eq_some_iff_firstWith]
  simp only [filterMatches_iff_catches]

theorem matchingFilter?_eq_none_iff {filters : List String} :
    matchingFilter? filters name = none ↔ ¬ ∃ filter ∈ filters, Catches filter name := by
  rw [matchingFilter?, List.find?_eq_none]
  simp only [filterMatches_iff_catches, not_exists, not_and]

/-! ## 4. The first objection -/

/-- A message is answered exactly if no objection holds. -/
theorem silence_eq_none_iff_forall_not_holds :
    settings.silence m = none ↔ ∀ o : Objection, ¬ o.Holds settings m := by
  rw [silence_eq_none_iff, startsWithTrigger_iff_beginsWith, matchingFilter?_eq_none_iff,
    matchingFilter?_eq_none_iff]
  constructor
  · rintro ⟨henabled, hoff, haway, htrigger, hnick, hchannel⟩ o
    cases o with
    | disabled => simp [Objection.Holds, henabled]
    | autoRespondOff => exact hoff
    | away => exact haway
    | noTrigger => exact not_not_intro htrigger
    | nick => exact hnick
    | channel => exact hchannel
  · intro h
    exact ⟨Bool.not_eq_false _ |>.mp (h .disabled), h .autoRespondOff, h .away,
      not_not.mp (h .noTrigger), h .nick, h .channel⟩

/-- **A reason for silence is the first objection that holds.**  The guards are gone through in their
order: each one either gives its reason, or its objection does not hold and the next one is asked. -/
theorem firstWith_of_silence_eq_some {reason : Silence} (h : settings.silence m = some reason) :
    FirstWith (Objection.Holds settings m) Objection.order reason.objection ∧
      reason.NamesFirst settings m := by
  rw [Settings.silence] at h
  -- a guard that lets the message pass is an objection that does not hold, in front of all later ones
  by_cases hdisabled : settings.enabled = false
  · rw [hdisabled, Bool.not_false, if_pos rfl] at h
    obtain rfl := Option.some.inj h
    exact ⟨.here hdisabled, trivial⟩
  rw [Bool.not_eq_false _ |>.mp hdisabled, Bool.not_true, if_neg Bool.false_ne_true] at h
  by_cases hoff : settings.autoRespond = .off
  · rw [if_pos hoff] at h
    obtain rfl := Option.some.inj h
    exact ⟨.later hdisabled (.here hoff), trivial⟩
  rw [if_neg hoff] at h
  by_cases haway : settings.autoRespond = .whenPresent ∧ m.away = true
  · rw [if_pos haway] at h
    obtain rfl := Option.some.inj h
    exact ⟨.later hdisabled (.later hoff (.here haway)), trivial⟩
  rw [if_neg haway] at h
  by_cases htrigger : startsWithTrigger settings.trigger m.text = true
  · have hbegins := startsWithTrigger_iff_beginsWith.mp htrigger
    rw [htrigger, Bool.not_true, if_neg Bool.false_ne_true] at h
    -- only the filters are left; `hbehind` puts the four objections before them in front
    have hbehind {o : Objection} (hlater : FirstWith (Objection.Holds settings m) [.nick, .channel] o) :
        FirstWith (Objection.Holds settings m) Objection.order o :=
      .later hdisabled (.later hoff (.later haway (.later (not_not_intro hbegins) hlater)))
    cases hnick : matchingFilter? settings.ignoreNicks m.nick with
    | some filter =>
      have hfirst := matchingFilter?_eq_some_iff.mp hnick
      rw [hnick] at h
      obtain rfl := Option.some.inj h
      exact ⟨hbehind (.here hfirst.exists_mem), hfirst⟩
    | none =>
      rw [hnick] at h
      obtain ⟨filter, hchannel, rfl⟩ := Option.map_eq_some_iff.mp h
      have hfirst := matchingFilter?_eq_some_iff.mp hchannel
      exact ⟨hbehind (.later (matchingFilter?_eq_none_iff.mp hnick) (.here hfirst.exists_mem)), hfirst⟩
  -- the trigger is missing, with its boundary read from the text
  · have hnot : Objection.noTrigger.Holds settings m := by
      intro hbegins
      exact htrigger (startsWithTrigger_iff_beginsWith.mpr hbegins)
    rw [Bool.not_eq_true _ |>.mp htrigger, Bool.not_false, if_pos rfl] at h
    obtain rfl := Option.some.inj h
    exact ⟨.later hdisabled (.later hoff (.later haway (.here hnot))), trivial⟩

/-- Only one reason names the first objection and, where it names a filter, the first one. -/
theorem eq_of_objection_eq {reason reason' : Silence} (hkind : reason.objection = reason'.objection)
    (hfirst : reason.NamesFirst settings m) (hfirst' : reason'.NamesFirst settings m) :
    reason = reason' := by
  cases reason with
  | ignoredNick filter =>
    cases reason' <;> simp only [Silence.objection, reduceCtorEq] at hkind
    exact congrArg Silence.ignoredNick (hfirst.unique hfirst')
  | ignoredChannel filter =>
    cases reason' <;> simp only [Silence.objection, reduceCtorEq] at hkind
    exact congrArg Silence.ignoredChannel (hfirst.unique hfirst')
  | _ => cases reason' <;> simp_all [Silence.objection]

theorem silence_eq_some_iff {reason : Silence} :
    settings.silence m = some reason ↔
      FirstWith (Objection.Holds settings m) Objection.order reason.objection ∧
        reason.NamesFirst settings m := by
  refine ⟨firstWith_of_silence_eq_some, ?_⟩
  rintro ⟨hfirst, hnames⟩
  cases hsilence : settings.silence m with
  | none =>
    obtain ⟨o, -, ho⟩ := hfirst.exists_mem
    exact absurd ho (silence_eq_none_iff_forall_not_holds.mp hsilence o)
  | some other =>
    obtain ⟨hother, hothernames⟩ := firstWith_of_silence_eq_some hsilence
    rw [eq_of_objection_eq (hother.unique hfirst) hothernames hnames]

/-! ## 5. Further filters -/

/-- The second list of filters is the first one with more filters in it: anywhere those that do not
catch the name, and behind the first one that does whatever there is. -/
inductive Supplements (name : String) : List String → List String → Prop
  | nil : Supplements name [] []
  | keep {filter : String} {filters filters' : List String} (rest : Supplements name filters filters') :
      Supplements name (filter :: filters) (filter :: filters')
  | idle {filter : String} {filters filters' : List String} (idle : ¬ Catches filter name)
      (rest : Supplements name filters filters') : Supplements name filters (filter :: filters')
  | behind {filter : String} {filters filters' : List String} (catches : Catches filter name)
      (rest : filters.Sublist filters') : Supplements name (filter :: filters) (filter :: filters')

/-- **Further filters leave the filter that is named as it is.**  By induction on what is put in. -/
theorem Supplements.matchingFilter?_eq {filters filters' : List String}
    (h : Supplements name filters filters') :
    matchingFilter? filters' name = matchingFilter? filters name := by
  unfold matchingFilter?
  induction h with
  | nil => rfl
  | keep _ ih => rw [List.find?_cons, List.find?_cons, ih]
  | @idle filter _ _ hidle _ ih =>
    have hnot : filterMatches filter name = false := by
      rw [← Bool.not_eq_true, filterMatches_iff_catches]
      exact hidle
    rw [List.find?_cons, hnot, ih]
  | @behind filter _ _ hcatches _ =>
    have hmatches : filterMatches filter name = true := filterMatches_iff_catches.mpr hcatches
    rw [List.find?_cons, List.find?_cons, hmatches]

theorem silence_of_supplements {nicks channels : List String}
    (hnicks : Supplements m.nick settings.ignoreNicks nicks)
    (hchannels : Supplements m.channel settings.ignoreChannels channels) :
    Settings.silence { settings with ignoreNicks := nicks, ignoreChannels := channels } m =
      settings.silence m := by
  rw [Settings.silence, Settings.silence, hnicks.matchingFilter?_eq, hchannels.matchingFilter?_eq]

/-- An answer hangs on the filters only through the reason for silence. -/
theorem respond_of_silence_eq {settings' : Settings} (hdie : settings'.die = settings.die)
    (hsilence : settings'.silence m = settings.silence m) {σ : Type} (source : DiceSource σ) (s : σ) :
    settings'.respond source m s = settings.respond source m s := by
  rw [Settings.respond, Settings.respond, hsilence, roll_of_die_eq hdie]

/-- **The reason for silence is the first objection that holds**, whatever the settings and the message.
There is no reason exactly if no objection holds. A reason is given exactly if its objection is the
first one in the order that holds and, where it names a filter, this is the first one of its list that
catches the name. So filters that are blank or do not match may be put anywhere into either list, and
any filters behind one that matches: the reason stays the same, and so does all of the answer. -/
theorem silence_is_first_reason (settings : Settings) (m : Message) :
    (settings.silence m = none ↔ ∀ o : Objection, ¬ o.Holds settings m) ∧
    (∀ reason, settings.silence m = some reason ↔
      FirstWith (Objection.Holds settings m) Objection.order reason.objection ∧
        reason.NamesFirst settings m) ∧
    ∀ nicks channels, Supplements m.nick settings.ignoreNicks nicks →
      Supplements m.channel settings.ignoreChannels channels →
      let more : Settings := { settings with ignoreNicks := nicks, ignoreChannels := channels }
      more.silence m = settings.silence m ∧
      ∀ {σ : Type} (source : DiceSource σ) (s : σ),
        more.respond source m s = settings.respond source m s := by
  refine ⟨silence_eq_none_iff_forall_not_holds, fun reason => silence_eq_some_iff, ?_⟩
  intro nicks channels hnicks hchannels more
  have hsilence : more.silence m = settings.silence m := silence_of_supplements hnicks hchannels
  refine ⟨hsilence, ?_⟩
  intro σ source s
  exact @respond_of_silence_eq settings m more rfl hsilence σ source s

/-- A bot is caught by the second filter for its nick; a blank filter before it, a third one that would
match too behind it and a filter for another channel do not change that. -/
theorem silence_is_first_reason_bot :
    let settings : Settings :=
      { Settings.standard with autoRespond := .always, ignoreNicks := ["carol", "BOT"] }
    let more : Settings :=
      { settings with ignoreNicks := [" ", "carol", "BOT", "dice"], ignoreChannels := ["#quiet"] }
    let m : Message := ⟨"DiceBot", "#dice", "!roll 3d6", false⟩
    Supplements m.nick settings.ignoreNicks more.ignoreNicks ∧
    Supplements m.channel settings.ignoreChannels more.ignoreChannels ∧
    more.silence m = some (.ignoredNick "BOT") := by
  intro settings more m
  have hblank : ¬ Catches " " m.nick := by
    rw [← filterMatches_iff_catches]
    decide +kernel
  have hbot : Catches "BOT" m.nick := filterMatches_iff_catches.mp (by decide +kernel)
  have hquiet : ¬ Catches "#quiet" m.channel := by
    rw [← filterMatches_iff_catches]
    decide +kernel
  have hnicks : Supplements m.nick settings.ignoreNicks more.ignoreNicks :=
    .idle hblank (.keep (.behind hbot (List.nil_sublist _)))
  have hchannels : Supplements m.channel settings.ignoreChannels more.ignoreChannels :=
    .idle hquiet .nil
  have hsilence : settings.silence m = some (.ignoredNick "BOT") := by decide +kernel
  obtain ⟨-, -, hmore⟩ := silence_is_first_reason settings m
  exact ⟨hnicks, hchannels, (hmore _ _ hnicks hchannels).1.trans hsilence⟩

end DiceRoller
