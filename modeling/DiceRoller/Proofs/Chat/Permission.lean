/-
# Looser settings answer more

Settings are looser than others when they enable more, answer strangers more readily and ignore
fewer names. Whatever is answered under the stricter settings is answered under the looser ones, in
the same way: every guard of a message is monotone, and what is rolled for it hangs on none of them.

`Settings.Loosens` and `Message.Loosens` are these orders, field by field. The trigger and the
default die have to be the same: another trigger makes other messages, and another die other
replies. Blank filters do not count on either side, since they match nothing.

* `silence_eq_none_iff`: the conditions under which a message is answered. All later proofs about
  answered messages use this and do not go through the guards again.
* `matchingFilter?_eq_none_of_subset`: fewer filters catch less.
* `respond_of_loosens`: an answered message is answered in the same way under looser settings.
* `respond_monotone`: this for all settings and messages; and that the order of the filters, and
  filters that are repeated or blank, do not matter.

The last part follows from the first: settings with the same filters are looser than each other.
Only the reason for silence may change with the order of the filters, when it names another one;
which one it names is in `Proofs/Chat/FirstReason.lean`.
-/
import DiceRoller.Dice.Prepared
import DiceRoller.Proofs.Chat.Agreement

namespace DiceRoller

variable {σ : Type} {settings settings' : Settings} {m m' : Message}

/-! ## 1. Looser settings -/

/-- How readily a mode answers. -/
def AutoRespond.readiness : AutoRespond → Nat
  | .off => 0
  | .whenPresent => 1
  | .always => 2

/-- The text is more than blanks. -/
def IsVisible (text : String) : Prop := Text.trim text ≠ ""

instance (text : String) : Decidable (IsVisible text) :=
  inferInstanceAs (Decidable (Text.trim text ≠ ""))

/-- The second settings answer at least as much as the first and roll the same for it. -/
structure Settings.Loosens (settings settings' : Settings) : Prop where
  die : settings'.die = settings.die
  trigger : settings'.trigger = settings.trigger
  enabled : settings.enabled = true → settings'.enabled = true
  readiness : settings.autoRespond.readiness ≤ settings'.autoRespond.readiness
  nicks : ∀ filter ∈ settings'.ignoreNicks, IsVisible filter → filter ∈ settings.ignoreNicks
  channels : ∀ filter ∈ settings'.ignoreChannels, IsVisible filter →
    filter ∈ settings.ignoreChannels

/-- The second message is the first one, to a host who is away only if it was away before. -/
structure Message.Loosens (m m' : Message) : Prop where
  nick : m'.nick = m.nick
  channel : m'.channel = m.channel
  text : m'.text = m.text
  away : m'.away = true → m.away = true

/-- The same filters stand in both lists, whatever their order and number, and blank ones aside. -/
def SameFilters (filters filters' : List String) : Prop :=
  ∀ filter, IsVisible filter → (filter ∈ filters' ↔ filter ∈ filters)

/-! ## 2. The guards -/

theorem isVisible_of_filterMatches {filter name : String} (h : filterMatches filter name = true) :
    IsVisible filter := by
  intro hblank
  rw [filterMatches, Bool.and_eq_true, Bool.not_eq_true', List.isEmpty_eq_false_iff] at h
  refine h.1 ?_
  rw [← Text.toList_trim, hblank]
  rfl

/-- **Fewer filters catch less.**  A filter that catches a name is not blank, so it stands in the
longer list too. -/
theorem matchingFilter?_eq_none_of_subset {filters filters' : List String} {name : String}
    (hsub : ∀ filter ∈ filters', IsVisible filter → filter ∈ filters)
    (h : matchingFilter? filters name = none) : matchingFilter? filters' name = none := by
  rw [matchingFilter?, List.find?_eq_none] at h ⊢
  intro filter hfilter hmatches
  exact h filter (hsub filter hfilter (isVisible_of_filterMatches hmatches)) hmatches

/-- **When a message is answered**: rolling is enabled, the mode answers, the text begins with the
trigger word, and no filter catches one of the names. -/
theorem silence_eq_none_iff :
    settings.silence m = none ↔
      settings.enabled = true ∧ settings.autoRespond ≠ .off ∧
      ¬ (settings.autoRespond = .whenPresent ∧ m.away = true) ∧
      startsWithTrigger settings.trigger m.text = true ∧
      matchingFilter? settings.ignoreNicks m.nick = none ∧
      matchingFilter? settings.ignoreChannels m.channel = none := by
  rw [Settings.silence]
  cases settings.enabled with
  | false => simp
  | true =>
    by_cases hoff : settings.autoRespond = .off
    · simp [hoff]
    · by_cases haway : settings.autoRespond = .whenPresent ∧ m.away = true
      · simp [haway]
      · cases htrigger : startsWithTrigger settings.trigger m.text with
        | false => simp [hoff, haway]
        | true =>
          cases hnick : matchingFilter? settings.ignoreNicks m.nick with
          | some filter => simp [hoff, haway]
          | none => simp [hoff, haway]

/-- A mode that answers at least as readily is not off, and it minds that the host is away only if the
other one does. -/
theorem AutoRespond.answers_of_le {mode mode' : AutoRespond} (h : mode.readiness ≤ mode'.readiness)
    (hmode : mode ≠ .off) : mode' ≠ .off ∧ (mode' = .whenPresent → mode = .whenPresent) := by
  cases mode <;> cases mode' <;> simp_all [readiness]

/-- **No reason for silence comes up when settings are loosened.** -/
theorem silence_eq_none_of_loosens (hsettings : settings.Loosens settings') (hm : m.Loosens m')
    (h : settings.silence m = none) : settings'.silence m' = none := by
  obtain ⟨henabled, hoff, haway, htrigger, hnick, hchannel⟩ := silence_eq_none_iff.mp h
  obtain ⟨hoff', hpresent⟩ := AutoRespond.answers_of_le hsettings.readiness hoff
  refine silence_eq_none_iff.mpr ⟨hsettings.enabled henabled, hoff', ?_, ?_, ?_, ?_⟩
  · rintro ⟨hmode, haway'⟩
    exact haway ⟨hpresent hmode, hm.away haway'⟩
  · rw [hsettings.trigger, hm.text]
    exact htrigger
  · rw [hm.nick]
    exact matchingFilter?_eq_none_of_subset hsettings.nicks hnick
  · rw [hm.channel]
    exact matchingFilter?_eq_none_of_subset hsettings.channels hchannel

/-! ## 3. The answer -/

/-- What is rolled hangs on nothing in the settings but the default die. -/
theorem roll_of_die_eq (hdie : settings'.die = settings.die) (source : DiceSource σ) (args : String)
    (s : σ) : settings'.roll source args s = settings.roll source args s := by
  rw [Settings.roll, Settings.roll, hdie]

theorem silence_eq_none_of_respond {source : DiceSource σ} {s : σ} {reply : Reply}
    (h : (settings.respond source m s).value = some reply) : settings.silence m = none := by
  cases hsilence : settings.silence m with
  | none => rfl
  | some reason =>
    rw [respond_of_silence_eq_some hsilence] at h
    exact absurd h (by simp)

/-- **An answered message is answered in the same way under looser settings**: with the same reply,
the same source after it and the same events. -/
theorem respond_of_loosens (hsettings : settings.Loosens settings') (hm : m.Loosens m')
    (h : settings.silence m = none) (source : DiceSource σ) (s : σ) :
    settings'.respond source m' s = settings.respond source m s := by
  have hargs : m'.args = m.args := by rw [Message.args, Message.args, hm.text]
  have hsilence' := silence_eq_none_of_loosens hsettings hm h
  rw [respond_of_silence_eq_none h, respond_of_silence_eq_none hsilence', hargs,
    roll_of_die_eq hsettings.die, hm.nick]

theorem Message.loosens_refl (m : Message) : m.Loosens m := ⟨rfl, rfl, rfl, id⟩

/-- Settings with the same filters are looser than each other. -/
theorem loosens_of_sameFilters {nicks channels : List String}
    (hnicks : SameFilters settings.ignoreNicks nicks)
    (hchannels : SameFilters settings.ignoreChannels channels) :
    settings.Loosens { settings with ignoreNicks := nicks, ignoreChannels := channels } ∧
    Settings.Loosens { settings with ignoreNicks := nicks, ignoreChannels := channels } settings :=
  ⟨⟨rfl, rfl, id, Nat.le_refl _, fun f hf hv => (hnicks f hv).mp hf,
      fun f hf hv => (hchannels f hv).mp hf⟩,
    ⟨rfl, rfl, id, Nat.le_refl _, fun f hf hv => (hnicks f hv).mpr hf,
      fun f hf hv => (hchannels f hv).mpr hf⟩⟩

/-- **Looser settings answer more.**  If a message is answered, then the same message is answered under
all looser settings, also to a host who is less away: with the same reply, by the same throws of the
same source, and with the same events. So the order of the filters, and filters that are repeated or
blank, do not matter: whether a message is answered, the reply to it and its throws stay the same. -/
theorem respond_monotone (settings : Settings) (source : DiceSource σ) (m : Message) (s : σ) :
    (∀ settings' m' reply, settings.Loosens settings' → m.Loosens m' →
      (settings.respond source m s).value = some reply →
      (settings'.respond source m' s).value = some reply ∧
      (∀ noted, (settings'.respond source.noting m' (s, noted)).source =
        (settings.respond source.noting m (s, noted)).source) ∧
      settings'.respond source m' s = settings.respond source m s) ∧
    ∀ nicks channels, SameFilters settings.ignoreNicks nicks →
      SameFilters settings.ignoreChannels channels →
      let same : Settings := { settings with ignoreNicks := nicks, ignoreChannels := channels }
      (same.respond source m s).value = (settings.respond source m s).value ∧
      (∀ noted, (same.respond source.noting m (s, noted)).source =
        (settings.respond source.noting m (s, noted)).source) ∧
      (same.respond source m s).source = (settings.respond source m s).source := by
  refine ⟨fun settings' m' reply hsettings hm hreply => ?_, fun nicks channels hnicks hchannels => ?_⟩
  -- there is no reason for silence on either side, so both runs are those of one roll
  · have hsilence := silence_eq_none_of_respond hreply
    have hrun := respond_of_loosens hsettings hm hsilence source s
    refine ⟨?_, fun noted => ?_, hrun⟩
    · rw [hrun, hreply]
    · rw [respond_of_loosens hsettings hm hsilence]
  · intro same
    -- the same filters loosen each other: one direction carries the replies, the other one the silence
    obtain ⟨hto, hfrom⟩ := loosens_of_sameFilters hnicks hchannels
    cases hsilence : settings.silence m with
    | none =>
      have hrun {τ : Type} (source : DiceSource τ) (s : τ) :=
        respond_of_loosens hto m.loosens_refl hsilence source s
      exact ⟨congrArg Run.value (hrun source s), fun noted => congrArg Run.source (hrun _ _),
        congrArg Run.source (hrun source s)⟩
    | some reason =>
      cases hsame : same.silence m with
      | none =>
        rw [silence_eq_none_of_loosens hfrom m.loosens_refl hsame] at hsilence
        exact absurd hsilence (by simp)
      -- both stay silent, though perhaps for different reasons
      | some reason' =>
        rw [respond_of_silence_eq_some hsilence, respond_of_silence_eq_some hsame]
        refine ⟨rfl, fun noted => ?_, rfl⟩
        rw [respond_of_silence_eq_some hsilence, respond_of_silence_eq_some hsame]

/-- A host who answers when present and ignores bots, and one who always answers and says so twice. -/
theorem respond_monotone_bots :
    let settings : Settings :=
      { Settings.standard with autoRespond := .whenPresent, ignoreNicks := ["bot"] }
    let settings' : Settings :=
      { Settings.standard with autoRespond := .always, ignoreNicks := ["bot", " ", "bot"] }
    let m : Message := ⟨"alice", "#dice", "!roll 2d6", false⟩
    settings.Loosens settings' ∧
    (settings'.respond preparedDice m (.ofList [3, 4])).value =
      some ⟨"2d6", .ok ⟨[3, 4], .plain, .sum 7⟩⟩ := by
  intro settings settings' m
  have hnicks : ∀ filter ∈ settings'.ignoreNicks, IsVisible filter →
      filter ∈ settings.ignoreNicks := by
    intro filter hfilter hvisible
    have hbot : settings'.ignoreNicks = ["bot", " ", "bot"] := rfl
    simp only [hbot, List.mem_cons, List.not_mem_nil, or_false] at hfilter
    rcases hfilter with rfl | rfl | rfl
    · exact List.mem_cons_self
    · exact absurd rfl hvisible
    · exact List.mem_cons_self
  have hsettings : settings.Loosens settings' :=
    ⟨rfl, rfl, id, by decide, hnicks, fun filter hfilter => absurd hfilter List.not_mem_nil⟩
  have hreply : (settings.respond preparedDice m (.ofList [3, 4])).value =
      some ⟨"2d6", .ok ⟨[3, 4], .plain, .sum 7⟩⟩ := by
    have hsilence : settings.silence m = none := by decide +kernel
    have hdice : (settings.roll preparedDice m.args (.ofList [3, 4])).value.dice = "2d6" := by
      decide +kernel
    have hresult : (settings.roll preparedDice m.args (.ofList [3, 4])).value.result =
        .ok ⟨[3, 4], .plain, .sum 7⟩ := by decide +kernel
    rw [respond_of_silence_eq_none hsilence, ← hdice, ← hresult]
  exact ⟨hsettings, ((respond_monotone settings preparedDice m (.ofList [3, 4])).1 settings' m _
    hsettings m.loosens_refl hreply).1⟩

end DiceRoller
