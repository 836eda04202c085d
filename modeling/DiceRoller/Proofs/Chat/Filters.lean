/-
# Names that contain a filter

The specification (section 4.5) has a filter catch every nick and every channel that contains it,
whatever the case of the letters. What is compared is the lower case of both, each taken on its own,
and a name in lower case need not contain the filter in lower case: a capital sigma at the end of
the filter is final there, and in a name that goes on with a letter it is not. This file says which
filters do what they are meant to do.

A sigma of the filter is settled in a name if it has the same form there as in the filter alone
(`Text.SigmasSettled`), and open if some name can change it (`Text.HasOpenSigma`). Everything about
sigmas is proved in `Proofs/Text/Lowercase.lean`; here it is carried through the search for a filter
and the reasons for silence.

* `exists_silence_of_carriesFilter`: a filter catches a name that contains it wherever the sigmas of
  the filter are settled.
* `contained_filter_silences`: this, and that exactly the filters without an open sigma catch every
  name that contains them.
* `sigma_filter_misses_longer_nick`: a filter with an open sigma, and a name that it misses.

A filter without a capital sigma has no open one, so outside Greek nothing is missed
(`exists_silence_of_sigma_not_mem`). What is caught beyond the names that contain the filter as it
is written is not described here; see `filterMatches_iff_catches` in `Proofs/Chat/FirstReason.lean`.
-/
import DiceRoller.Proofs.Chat.Permission
import DiceRoller.Proofs.Text.Lowercase

namespace DiceRoller

variable {settings : Settings} {m : Message} {filter : String}

/-! ## 1. What a filter catches -/

theorem filterMatches_iff {name : String} :
    filterMatches filter name = true ↔
      IsVisible filter ∧
        Text.occursIn (Text.lowerChars filter.toList) (Text.lowerChars name.toList) = true := by
  have hvisible : IsVisible filter ↔ (Text.trimChars filter.toList).isEmpty = false := by
    rw [IsVisible, ne_eq, ← String.toList_inj, Text.toList_trim, String.toList_empty,
      List.isEmpty_eq_false_iff]
  rw [filterMatches, Bool.and_eq_true, Bool.not_eq_true', hvisible]

theorem exists_matchingFilter? {filters : List String} {name : String} (hmem : filter ∈ filters)
    (hmatches : filterMatches filter name = true) :
    ∃ found, matchingFilter? filters name = some found :=
  Option.isSome_iff_exists.mp (List.find?_isSome.mpr ⟨filter, hmem, hmatches⟩)

/-- A filter that catches one of the names leaves no message without a reason for silence. -/
theorem exists_silence_of_matchingFilter?
    (h : (∃ found, matchingFilter? settings.ignoreNicks m.nick = some found) ∨
      ∃ found, matchingFilter? settings.ignoreChannels m.channel = some found) :
    ∃ reason, settings.silence m = some reason := by
  rw [← Option.ne_none_iff_exists']
  intro hnone
  obtain ⟨-, -, -, -, hnick, hchannel⟩ := silence_eq_none_iff.mp hnone
  rcases h with ⟨found, hfound⟩ | ⟨found, hfound⟩
  · rw [hnick] at hfound
    exact absurd hfound (by simp)
  · rw [hchannel] at hfound
    exact absurd hfound (by simp)

/-! ## 2. Names that contain a filter -/

/-- The settings hold the filter against the nick or against the channel of the message, and that name
contains the filter as it is written, between `before` and `after`. -/
inductive CarriesFilter (settings : Settings) (m : Message) (before filter after : String) : Prop
  | nick (mem : filter ∈ settings.ignoreNicks) (name : m.nick = before ++ filter ++ after)
  | channel (mem : filter ∈ settings.ignoreChannels) (name : m.channel = before ++ filter ++ after)

theorem filterMatches_of_sigmasSettled {before after name : String} (hvisible : IsVisible filter)
    (hname : name = before ++ filter ++ after)
    (hsettled : Text.SigmasSettled before.toList filter.toList after.toList) :
    filterMatches filter name = true := by
  refine filterMatches_iff.mpr ⟨hvisible, ?_⟩
  rw [hname, String.toList_append, String.toList_append]
  exact Text.occursIn_lowerChars hsettled

/-- **A filter catches a name that contains it where its sigmas are settled.** -/
theorem exists_silence_of_carriesFilter {before after : String} (hvisible : IsVisible filter)
    (h : CarriesFilter settings m before filter after)
    (hsettled : Text.SigmasSettled before.toList filter.toList after.toList) :
    ∃ reason, settings.silence m = some reason := by
  apply exists_silence_of_matchingFilter?
  cases h with
  | nick hmem hname =>
    have hmatches := filterMatches_of_sigmasSettled hvisible hname hsettled
    exact .inl (exists_matchingFilter? hmem hmatches)
  | channel hmem hname =>
    have hmatches := filterMatches_of_sigmasSettled hvisible hname hsettled
    exact .inr (exists_matchingFilter? hmem hmatches)

/-- A filter without a capital sigma catches every name that contains it. -/
theorem exists_silence_of_sigma_not_mem {before after : String} (hvisible : IsVisible filter)
    (h : CarriesFilter settings m before filter after) (hsigma : 'Σ' ∉ filter.toList) :
    ∃ reason, settings.silence m = some reason :=
  exists_silence_of_carriesFilter hvisible h
    (Text.sigmasSettled_of_not_hasOpenSigma (Text.not_hasOpenSigma_of_not_mem hsigma) _ _)

/-- The settings of a host who always answers, but for the nicks that one filter catches. -/
def Settings.ignoringOnly (filter : String) : Settings :=
  { Settings.standard with autoRespond := .always, ignoreNicks := [filter] }

theorem silence_ignoringOnly {nick : String} (h : filterMatches filter nick = false) :
    (Settings.ignoringOnly filter).silence ⟨nick, "#dice", "!roll", false⟩ = none := by
  have htrigger : startsWithTrigger "!roll" "!roll" = true := by decide +kernel
  have hnick : matchingFilter? [filter] nick = none := by
    rw [matchingFilter?, List.find?_cons_of_neg (by simp [h]), List.find?_nil]
  have hmode : (Settings.ignoringOnly filter).autoRespond = .always := rfl
  exact silence_eq_none_iff.mpr ⟨rfl, by simp [hmode], by simp [hmode], htrigger, hnick, rfl⟩

/-- **Which filters catch every name that contains them.**  A filter that is not blank leaves a message
unanswered if the nick or the channel contains it and its sigmas are settled there. So it does for
every name that contains it, in every settings and for every message, exactly if it has no open sigma.
-/
theorem contained_filter_silences (hvisible : IsVisible filter) :
    (∀ settings m before after, CarriesFilter settings m before filter after →
      Text.SigmasSettled before.toList filter.toList after.toList →
      ∃ reason, settings.silence m = some reason) ∧
    ((∀ settings m before after, CarriesFilter settings m before filter after →
      ∃ reason, settings.silence m = some reason) ↔ ¬ Text.HasOpenSigma filter.toList) := by
  refine ⟨fun settings m before after => exists_silence_of_carriesFilter hvisible, fun h => ?_,
    fun h settings m before after hcarries => ?_⟩
  · rw [← Text.forall_occursIn_lowerChars_iff]
    intro before after
    by_contra hnot
    have hmatches : filterMatches filter (String.ofList before ++ filter ++ String.ofList after) =
        false := by
      rw [← Bool.not_eq_true, filterMatches_iff]
      rintro ⟨-, hoccurs⟩
      rw [String.toList_append, String.toList_append, String.toList_ofList, String.toList_ofList]
        at hoccurs
      exact hnot hoccurs
    have hcarries : CarriesFilter (.ignoringOnly filter) ⟨_, "#dice", "!roll", false⟩
        (String.ofList before) filter (String.ofList after) := .nick List.mem_cons_self rfl
    obtain ⟨reason, hreason⟩ := h _ _ _ _ hcarries
    rw [silence_ignoringOnly hmatches] at hreason
    exact absurd hreason (by simp)
  · exact exists_silence_of_carriesFilter hvisible hcarries
      (Text.sigmasSettled_of_not_hasOpenSigma h _ _)

/-- A filter that begins with a sigma in front of a letter has no open one: it catches a channel in
whose name both come after another letter. -/
theorem contained_filter_silences_channel :
    let settings : Settings := { Settings.standard with ignoreChannels := ["ΣΑ"] }
    let m : Message := ⟨"alice", "#ΝΕΣΑ", "!roll 3d6", false⟩
    IsVisible "ΣΑ" ∧ CarriesFilter settings m "#ΝΕ" "ΣΑ" "" ∧
    ∃ reason, settings.silence m = some reason := by
  intro settings m
  have hvisible : IsVisible "ΣΑ" := by decide +kernel
  have hcarries : CarriesFilter settings m "#ΝΕ" "ΣΑ" "" := .channel List.mem_cons_self (by decide)
  have hopen : ¬ Text.HasOpenSigma "ΣΑ".toList := by
    rintro ⟨u, v, hs, hor⟩
    cases u with
    | nil =>
      obtain rfl : ['Α'] = v := (List.cons.inj hs).2
      rcases hor with ⟨hbefore, -⟩ | ⟨-, hafter⟩
      · exact absurd hbefore (by decide)
      · exact absurd hafter (by decide +kernel)
    | cons c u =>
      have htail : ['Α'] = u ++ 'Σ' :: v := (List.cons.inj hs).2
      have hmem : 'Σ' ∈ ['Α'] := htail ▸ List.mem_append_right u List.mem_cons_self
      exact absurd hmem (by decide)
  exact ⟨hvisible, hcarries, (contained_filter_silences hvisible).2.mpr hopen _ _ _ _ hcarries⟩

/-- **A filter misses a name that contains it**: the sigma at its end is final, and in the name, where
letters follow, it is not. The message is answered. -/
theorem sigma_filter_misses_longer_nick :
    let settings := Settings.ignoringOnly "ΝΙΚΟΣ"
    let m : Message := ⟨"ΝΙΚΟΣΒΟΤ", "#dice", "!roll 3d6", false⟩
    IsVisible "ΝΙΚΟΣ" ∧ CarriesFilter settings m "" "ΝΙΚΟΣ" "ΒΟΤ" ∧ settings.silence m = none := by
  intro settings m
  exact ⟨by decide +kernel, .nick List.mem_cons_self (by decide), by decide +kernel⟩

end DiceRoller
