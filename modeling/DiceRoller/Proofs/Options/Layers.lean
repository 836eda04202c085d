/-
# Where options come from

The value of an option is the one that is given on the command line, else that of its environment
variable, else its default (section 9 of the specification). This file says so of every option at
once, and that nothing else matters: not the order of the arguments, not the way in which they are
written, and not the variables of options that are given.

`UsedValue` is the rule for one option, and `Options.ComeFrom` has one field for each field of the
options. The layers determine the options (`Options.ComeFrom.unique`). So two command lines that
give the same are read alike without comparing how they are read: both results come from the same
layers.

* `UsedValue`: the three layers, for one option.
* `exists_read_eq_ok`: a command line on which nothing is given twice is accepted where the mode
  that is used is one, and every option then comes from its layers.
* `SameLayers.read_eq`: command lines and environments with the same layers are read alike.
* `comeFrom_arguments`: a command line for given options, with every value written behind an equals
  sign.
* `options_come_in_layers`: all of it, and that all settings whose filters are entries of a list can
  be asked for.

A variable that is not used may hold anything, also a text that would be refused. The environment is
taken as it is; a file of assignments is a part of it by then.
-/
import DiceRoller.Options.Basic
import DiceRoller.Proofs.Options.Arguments
import DiceRoller.Proofs.Text.Entries

namespace DiceRoller

variable {args args' : List Argument} {env env' : Environment}

/-! ## 1. Layers -/

/-- One of the arguments gives the option this value. -/
def Gives (args : List Argument) (option : ValueOption) (value : String) : Prop :=
  ∃ a ∈ args, a.value? = some (option, value)

/-- One of the arguments sets the switch. -/
def Sets (args : List Argument) (switch : Switch) : Prop := ∃ a ∈ args, a.switch? = some switch

/-- No option and no switch is given twice, and no value that is a word of its own begins with a dash. -/
structure GivenOnce (args : List Argument) : Prop where
  wellWritten : ∀ a ∈ args, a.WellWritten
  options_nodup : ((args.filterMap Argument.value?).map Prod.fst).Nodup
  switches_nodup : (args.filterMap Argument.switch?).Nodup

/-- The value that is used for an option: the one that is given, else that of the environment variable,
else the default. -/
inductive UsedValue (args : List Argument) (env : Environment) (option : ValueOption) : String → Prop
  | given {value : String} (gives : Gives args option value) : UsedValue args env option value
  | environment {value : String} (missing : ∀ given, ¬ Gives args option given)
      (set : env.get? option.environmentName = some value) : UsedValue args env option value
  | default (missing : ∀ given, ¬ Gives args option given)
      (unset : env.get? option.environmentName = none) : UsedValue args env option option.default

/-- Nothing is given twice, the text that is used for the mode names one, and where the switch that
disables rolling is not set its variable is unset or reads `true` or `false`. -/
structure Usable (args : List Argument) (env : Environment) : Prop where
  once : GivenOnce args
  mode : ∃ text mode, UsedValue args env .autoRespond text ∧ AutoRespond.parse text = .ok mode
  disabled : Sets args .disabled ∨ env.get? disabledVariable = none ∨
    env.get? disabledVariable = some "true" ∨ env.get? disabledVariable = some "false"

/-- Every one of the options comes from its layers, and the filters are the entries of their lists. -/
structure Options.ComeFrom (o : Options) (args : List Argument) (env : Environment) : Prop where
  debug : o.debug = true ↔ Sets args .debug
  away : o.away = true ↔ Sets args .away
  disabled : o.settings.enabled = false ↔
    Sets args .disabled ∨ env.get? disabledVariable = some "true"
  die : UsedValue args env .die o.settings.die
  trigger : UsedValue args env .trigger o.settings.trigger
  mode : ∃ text, UsedValue args env .autoRespond text ∧
    AutoRespond.parse text = .ok o.settings.autoRespond
  nicks : ∃ list, UsedValue args env .ignoreNicks list ∧ o.settings.ignoreNicks = Text.entries list
  channels : ∃ list, UsedValue args env .ignoreChannels list ∧
    o.settings.ignoreChannels = Text.entries list
  nick : UsedValue args env .nick o.nick
  channel : UsedValue args env .channel o.channel

/-! ## 2. The value that is used -/

theorem mem_values_iff {option : ValueOption} {value : String} :
    (option, value) ∈ (CommandLine.ofArguments args).values ↔ Gives args option value :=
  List.mem_filterMap

theorem mem_switches_iff {switch : Switch} :
    switch ∈ (CommandLine.ofArguments args).switches ↔ Sets args switch := List.mem_filterMap

/-- An option is given one value. -/
theorem GivenOnce.value_unique (h : GivenOnce args) {option : ValueOption} {value value' : String}
    (hvalue : Gives args option value) (hvalue' : Gives args option value') : value = value' := by
  have hsame := List.inj_on_of_nodup_map h.options_nodup (mem_values_iff.mpr hvalue)
    (mem_values_iff.mpr hvalue') rfl
  exact (Prod.mk.inj hsame).2

/-- **One value is used for an option.** -/
theorem GivenOnce.usedValue_unique (h : GivenOnce args) {option : ValueOption} {value value' : String}
    (hvalue : UsedValue args env option value) (hvalue' : UsedValue args env option value') :
    value = value' := by
  cases hvalue with
  | given hgives =>
    cases hvalue' with
    | given hgives' => exact h.value_unique hgives hgives'
    | environment hmissing _ => exact absurd hgives (hmissing _)
    | default hmissing _ => exact absurd hgives (hmissing _)
  | environment hmissing hset =>
    cases hvalue' with
    | given hgives => exact absurd hgives (hmissing _)
    | environment _ hset' => exact Option.some.inj (hset.symm.trans hset')
    | default _ hunset => exact absurd (hset.symm.trans hunset) (by simp)
  | default hmissing hunset =>
    cases hvalue' with
    | given hgives => exact absurd hgives (hmissing _)
    | environment _ hset => exact absurd (hset.symm.trans hunset) (by simp)
    | default => rfl

/-- The layers are looked through in their order. -/
theorem usedValue_optionValue (args : List Argument) (env : Environment) (option : ValueOption) :
    UsedValue args env option (optionValue (.ofArguments args) env option) := by
  rw [optionValue]
  cases hvalue : (CommandLine.ofArguments args).value? option with
  | some value =>
    obtain ⟨⟨found, value'⟩, hfind, rfl⟩ := Option.map_eq_some_iff.mp hvalue
    have hfound := List.find?_some hfind
    obtain rfl : found = option := of_decide_eq_true hfound
    exact .given (mem_values_iff.mp (List.mem_of_find?_eq_some hfind))
  | none =>
    have hmissing : ∀ given, ¬ Gives args option given := by
      intro given hgives
      rw [CommandLine.value?, Option.map_eq_none_iff, List.find?_eq_none] at hvalue
      exact hvalue _ (mem_values_iff.mpr hgives) (decide_eq_true rfl)
    cases hget : env.get? option.environmentName with
    | some value => exact .environment hmissing hget
    | none => exact .default hmissing hget

/-! ## 3. Reading -/

/-- What is given is a proper command line if the mode that is used is one: a mode that is given is the
one that is used. -/
theorem Usable.proper (h : Usable args env) : (CommandLine.ofArguments args).Proper where
  options_nodup := h.once.options_nodup
  switches_nodup := h.once.switches_nodup
  mode text htext := by
    obtain ⟨used, mode, hused, hparse⟩ := h.mode
    rw [h.once.usedValue_unique (.given (mem_values_iff.mp htext)) hused]
    exact ⟨mode, hparse⟩

/-- Rolling is disabled by the switch or by its variable, and by nothing else. -/
theorem Usable.exists_isDisabled (h : Usable args env) :
    ∃ disabled, isDisabled (.ofArguments args) env = .ok disabled ∧
      (disabled = true ↔ Sets args .disabled ∨ env.get? disabledVariable = some "true") := by
  rw [isDisabled]
  by_cases hsets : Sets args .disabled
  · rw [if_pos (mem_switches_iff.mpr hsets)]
    exact ⟨true, rfl, by simp [hsets]⟩
  · rw [if_neg (mem_switches_iff.not.mpr hsets)]
    rcases h.disabled with hset | hunset | htrue | hfalse
    · exact absurd hset hsets
    · rw [hunset]
      exact ⟨false, rfl, by simp [hsets]⟩
    · rw [htrue]
      exact ⟨true, rfl, by simp⟩
    · rw [hfalse]
      exact ⟨false, rfl, by simp [hsets]⟩

/-- **The arguments are accepted, and every option comes from its layers.** -/
theorem exists_read_eq_ok (h : Usable args env) :
    ∃ o : Options, Options.read (args.flatMap Argument.words) env = .ok o ∧ o.ComeFrom args env := by
  obtain ⟨text, mode, hused, hparse⟩ := h.mode
  obtain ⟨disabled, hdisabled, hdisabled_iff⟩ := h.exists_isDisabled
  have hmode : AutoRespond.parse (optionValue (.ofArguments args) env .autoRespond) = .ok mode := by
    rw [h.once.usedValue_unique (usedValue_optionValue args env _) hused, hparse]
  rw [Options.read, read_words h.once.wellWritten h.proper]
  simp only [Options.ofCommandLine, hmode, hdisabled]
  refine ⟨_, rfl, ?_⟩
  constructor
  · simp [mem_switches_iff]
  · simp [mem_switches_iff]
  · simpa using hdisabled_iff
  · exact usedValue_optionValue args env _
  · exact usedValue_optionValue args env _
  · exact ⟨_, usedValue_optionValue args env _, hmode⟩
  · exact ⟨_, usedValue_optionValue args env _, rfl⟩
  · exact ⟨_, usedValue_optionValue args env _, rfl⟩
  · exact usedValue_optionValue args env _
  · exact usedValue_optionValue args env _

/-! ## 4. Nothing but the layers matters -/

/-- **The layers determine the options.** -/
theorem Options.ComeFrom.unique {o o' : Options} (honce : GivenOnce args) (h : o.ComeFrom args env)
    (h' : o'.ComeFrom args env) : o = o' := by
  have hdebug : o.debug = o'.debug := Bool.eq_iff_iff.mpr (h.debug.trans h'.debug.symm)
  have haway : o.away = o'.away := Bool.eq_iff_iff.mpr (h.away.trans h'.away.symm)
  have henabled : o.settings.enabled = o'.settings.enabled := by
    have hdisabled := h.disabled.trans h'.disabled.symm
    cases hone : o.settings.enabled <;> cases hother : o'.settings.enabled <;> simp_all
  have hmode : o.settings.autoRespond = o'.settings.autoRespond := by
    obtain ⟨text, htext, hparse⟩ := h.mode
    obtain ⟨text', htext', hparse'⟩ := h'.mode
    rw [honce.usedValue_unique htext htext'] at hparse
    exact Except.ok.inj (hparse.symm.trans hparse')
  have hnicks : o.settings.ignoreNicks = o'.settings.ignoreNicks := by
    obtain ⟨list, hlist, heq⟩ := h.nicks
    obtain ⟨list', hlist', heq'⟩ := h'.nicks
    rw [heq, heq', honce.usedValue_unique hlist hlist']
  have hchannels : o.settings.ignoreChannels = o'.settings.ignoreChannels := by
    obtain ⟨list, hlist, heq⟩ := h.channels
    obtain ⟨list', hlist', heq'⟩ := h'.channels
    rw [heq, heq', honce.usedValue_unique hlist hlist']
  have hsettings : o.settings = o'.settings := by
    rw [Settings.mk.injEq]
    exact ⟨henabled, honce.usedValue_unique h.die h'.die, hmode,
      honce.usedValue_unique h.trigger h'.trigger, hnicks, hchannels⟩
  rw [Options.mk.injEq]
  exact ⟨hdebug, hsettings, honce.usedValue_unique h.nick h'.nick,
    honce.usedValue_unique h.channel h'.channel, haway⟩

/-- Both command lines give the same values and set the same switches, in whatever order and way of
writing, and both environments agree on the variables of everything that is not given. -/
structure SameLayers (args : List Argument) (env : Environment) (args' : List Argument)
    (env' : Environment) : Prop where
  gives : ∀ option value, Gives args' option value ↔ Gives args option value
  sets : ∀ switch, Sets args' switch ↔ Sets args switch
  environment : ∀ option, (∀ value, ¬ Gives args option value) →
    env'.get? option.environmentName = env.get? option.environmentName
  disabled : ¬ Sets args .disabled → env'.get? disabledVariable = env.get? disabledVariable

theorem SameLayers.usedValue (h : SameLayers args env args' env') {option : ValueOption}
    {value : String} (hvalue : UsedValue args env option value) :
    UsedValue args' env' option value := by
  have hmissing (hnot : ∀ given, ¬ Gives args option given) :
      ∀ given, ¬ Gives args' option given := fun given => (h.gives option given).not.mpr (hnot given)
  cases hvalue with
  | given hgives => exact .given ((h.gives option value).mpr hgives)
  | environment hnot hset => exact .environment (hmissing hnot) ((h.environment option hnot).trans hset)
  | default hnot hunset => exact .default (hmissing hnot) ((h.environment option hnot).trans hunset)

theorem SameLayers.disabled_iff (h : SameLayers args env args' env') :
    (Sets args' .disabled ∨ env'.get? disabledVariable = some "true") ↔
      Sets args .disabled ∨ env.get? disabledVariable = some "true" := by
  rw [h.sets]
  by_cases hsets : Sets args .disabled
  · simp [hsets]
  · rw [h.disabled hsets]

theorem SameLayers.usable (h : SameLayers args env args' env') (honce : GivenOnce args')
    (husable : Usable args env) : Usable args' env' where
  once := honce
  mode := by
    obtain ⟨text, mode, hused, hparse⟩ := husable.mode
    exact ⟨text, mode, h.usedValue hused, hparse⟩
  disabled := by
    rw [h.sets]
    by_cases hsets : Sets args .disabled
    · exact .inl hsets
    · rw [h.disabled hsets]
      exact husable.disabled

theorem SameLayers.comeFrom (h : SameLayers args env args' env') {o : Options}
    (ho : o.ComeFrom args env) : o.ComeFrom args' env' where
  debug := ho.debug.trans (h.sets .debug).symm
  away := ho.away.trans (h.sets .away).symm
  disabled := ho.disabled.trans h.disabled_iff.symm
  die := h.usedValue ho.die
  trigger := h.usedValue ho.trigger
  mode := by
    obtain ⟨text, hused, hparse⟩ := ho.mode
    exact ⟨text, h.usedValue hused, hparse⟩
  nicks := by
    obtain ⟨list, hused, hlist⟩ := ho.nicks
    exact ⟨list, h.usedValue hused, hlist⟩
  channels := by
    obtain ⟨list, hused, hlist⟩ := ho.channels
    exact ⟨list, h.usedValue hused, hlist⟩
  nick := h.usedValue ho.nick
  channel := h.usedValue ho.channel

/-- **The same layers are read alike.** -/
theorem SameLayers.read_eq (h : SameLayers args env args' env') (honce : GivenOnce args')
    (husable : Usable args env) :
    Options.read (args'.flatMap Argument.words) env' =
      Options.read (args.flatMap Argument.words) env := by
  obtain ⟨o, hread, ho⟩ := exists_read_eq_ok husable
  obtain ⟨o', hread', ho'⟩ := exists_read_eq_ok (h.usable honce husable)
  rw [hread, hread', ho'.unique honce (h.comeFrom ho)]

/-! ## 5. Asking for options -/

/-- The value that asks for what the options hold. -/
def Options.wanted (o : Options) : ValueOption → String
  | .die => o.settings.die
  | .trigger => o.settings.trigger
  | .autoRespond => o.settings.autoRespond.text
  | .ignoreNicks => ",".intercalate o.settings.ignoreNicks
  | .ignoreChannels => ",".intercalate o.settings.ignoreChannels
  | .nick => o.nick
  | .channel => o.channel

/-- Whether the options ask for a switch. -/
def Options.wants (o : Options) : Switch → Bool
  | .debug => o.debug
  | .disabled => !o.settings.enabled
  | .away => o.away

/-- A command line that asks for these options: it gives every value and sets the switches that are
wanted. -/
def Options.arguments (o : Options) : List Argument :=
  ValueOption.all.map (fun option => .attached option (o.wanted option)) ++
    (Switch.all.filter o.wants).map .switch

/-- Every filter can be written as an entry of a list. -/
structure Settings.HasEntries (settings : Settings) : Prop where
  nicks : ∀ filter ∈ settings.ignoreNicks, Text.IsEntry filter
  channels : ∀ filter ∈ settings.ignoreChannels, Text.IsEntry filter

theorem filterMap_value?_arguments (o : Options) :
    o.arguments.filterMap Argument.value? =
      ValueOption.all.map fun option => (option, o.wanted option) := by
  have hswitches : ((Switch.all.filter o.wants).map Argument.switch).filterMap Argument.value? = [] := by
    rw [List.filterMap_map]
    exact List.filterMap_eq_nil_iff.mpr fun _ _ => rfl
  rw [Options.arguments, List.filterMap_append, hswitches, List.append_nil]
  rfl

theorem filterMap_switch?_arguments (o : Options) :
    o.arguments.filterMap Argument.switch? = Switch.all.filter o.wants := by
  rw [Options.arguments, List.filterMap_append, List.filterMap_map, List.filterMap_map]
  exact List.filterMap_some

theorem gives_arguments_iff {o : Options} {option : ValueOption} {value : String} :
    Gives o.arguments option value ↔ value = o.wanted option := by
  have hmem : option ∈ ValueOption.all := by cases option <;> decide
  rw [← mem_values_iff, CommandLine.ofArguments, filterMap_value?_arguments, List.mem_map]
  constructor
  · rintro ⟨found, -, hfound⟩
    obtain ⟨rfl, rfl⟩ := Prod.mk.inj hfound
    rfl
  · rintro rfl
    exact ⟨option, hmem, rfl⟩

theorem sets_arguments_iff (o : Options) (switch : Switch) :
    Sets o.arguments switch ↔ o.wants switch = true := by
  have hmem : switch ∈ Switch.all := by cases switch <;> decide
  rw [← mem_switches_iff, CommandLine.ofArguments, filterMap_switch?_arguments, List.mem_filter]
  exact and_iff_right hmem

theorem givenOnce_arguments (o : Options) : GivenOnce o.arguments where
  wellWritten := by
    intro a ha
    rcases List.mem_append.mp ha with ha | ha
    · obtain ⟨option, -, rfl⟩ := List.mem_map.mp ha
      trivial
    · obtain ⟨switch, -, rfl⟩ := List.mem_map.mp ha
      trivial
  options_nodup := by
    rw [filterMap_value?_arguments, List.map_map]
    exact (by decide : (ValueOption.all.map id).Nodup)
  switches_nodup := by
    rw [filterMap_switch?_arguments]
    exact List.Nodup.filter _ (by decide)

theorem parse_text_autoRespond (mode : AutoRespond) : AutoRespond.parse mode.text = .ok mode := by
  cases mode <;> decide +kernel

/-- **All options whose filters are entries can be asked for**, whatever the environment says, but that
it must not disable rolling where that is wanted. -/
theorem comeFrom_arguments {o : Options} (hentries : o.settings.HasEntries)
    (henabled : o.settings.enabled = true →
      env.get? disabledVariable = none ∨ env.get? disabledVariable = some "false") :
    o.ComeFrom o.arguments env where
  debug := (sets_arguments_iff o .debug).symm
  away := (sets_arguments_iff o .away).symm
  disabled := by
    rw [sets_arguments_iff, Options.wants]
    cases hsettings : o.settings.enabled with
    | false => simp
    | true => rcases henabled hsettings with hunset | hfalse <;> simp [*]
  die := .given (gives_arguments_iff.mpr rfl)
  trigger := .given (gives_arguments_iff.mpr rfl)
  mode := ⟨_, .given (gives_arguments_iff.mpr rfl), parse_text_autoRespond _⟩
  nicks := ⟨_, .given (gives_arguments_iff.mpr rfl),
    (Text.entries_intercalate_of_isEntry hentries.nicks).symm⟩
  channels := ⟨_, .given (gives_arguments_iff.mpr rfl),
    (Text.entries_intercalate_of_isEntry hentries.channels).symm⟩
  nick := .given (gives_arguments_iff.mpr rfl)
  channel := .given (gives_arguments_iff.mpr rfl)

theorem usable_arguments {o : Options} (henabled : o.settings.enabled = true →
    env.get? disabledVariable = none ∨ env.get? disabledVariable = some "false") :
    Usable o.arguments env where
  once := givenOnce_arguments o
  mode := ⟨_, _, .given (gives_arguments_iff.mpr rfl), parse_text_autoRespond _⟩
  disabled := by
    rw [sets_arguments_iff, Options.wants]
    cases hsettings : o.settings.enabled with
    | false => exact .inl rfl
    | true => rcases henabled hsettings with hunset | hfalse <;> simp [*]

/-- **Options come from the command line, else from the environment, else from their defaults.**  A
command line on which nothing is given twice is accepted, whatever the order of its arguments, the way
in which they are written and the texts of the values, if the text that is used for the mode names one
and the variable that disables rolling can be read where it is looked at. Every option then comes from
its layers. Nothing else matters: command lines that give the same, with environments that agree on what
is not given, are read alike. And all options can be asked for on one command line whose filters are
entries of a list, where no variable disables rolling that should not be. -/
theorem options_come_in_layers :
    (∀ args env, Usable args env →
      ∃ o : Options, Options.read (args.flatMap Argument.words) env = .ok o ∧ o.ComeFrom args env) ∧
    (∀ args env args' env', Usable args env → GivenOnce args' → SameLayers args env args' env' →
      Options.read (args'.flatMap Argument.words) env' =
        Options.read (args.flatMap Argument.words) env) ∧
    ∀ o : Options, o.settings.HasEntries → ∃ args, GivenOnce args ∧
      ∀ env : Environment, (o.settings.enabled = true →
        env.get? disabledVariable = none ∨ env.get? disabledVariable = some "false") →
        Options.read (args.flatMap Argument.words) env = .ok o := by
  refine ⟨fun args env h => exists_read_eq_ok h, ?_, ?_⟩
  · intro args env args' env' husable honce hsame
    exact hsame.read_eq honce husable
  · intro o hentries
    refine ⟨o.arguments, givenOnce_arguments o, ?_⟩
    intro env henabled
    obtain ⟨read, hread, hfrom⟩ := exists_read_eq_ok (usable_arguments henabled)
    rw [hread, hfrom.unique (givenOnce_arguments o) (comeFrom_arguments hentries henabled)]

/-- A trigger that is given, a die that looks like an option, and a mode from the environment. The
variable of the trigger is not looked at, and neither is the one that disables rolling, which could not
be read. -/
theorem options_come_in_layers_die :
    let env : Environment := ⟨[("ROLLEM_AUTO_RESPOND", " On "), ("ROLLEM_TRIGGER", "!dice"),
      ("ROLLEM_DISABLED", "perhaps")]⟩
    ∃ o : Options,
      Options.read ["-d", "--trigger", "!throw", "--disabled", "--die=--nick=2d6"] env = .ok o ∧
      o.debug = true ∧ o.settings.trigger = "!throw" ∧ o.settings.die = "--nick=2d6" ∧
      o.settings.autoRespond = .whenPresent ∧ o.settings.enabled = false ∧ o.nick = "me" := by
  intro env
  let args : List Argument :=
    [.letter, .separate .trigger "!throw", .switch .disabled, .attached .die "--nick=2d6"]
  have honce : GivenOnce args := ⟨by decide +kernel, by decide, by decide⟩
  have htrigger : Gives args .trigger "!throw" := ⟨.separate .trigger "!throw", by decide, rfl⟩
  have hdie : Gives args .die "--nick=2d6" := ⟨.attached .die "--nick=2d6", by decide, rfl⟩
  have hdisabled : Sets args .disabled := ⟨.switch .disabled, by decide, rfl⟩
  have hmode : UsedValue args env .autoRespond " On " := usedValue_optionValue args env .autoRespond
  have hnick : UsedValue args env .nick "me" := usedValue_optionValue args env .nick
  have hparse : AutoRespond.parse " On " = .ok .whenPresent := by decide +kernel
  obtain ⟨o, hread, ho⟩ := options_come_in_layers.1 args env
    ⟨honce, ⟨" On ", .whenPresent, hmode, hparse⟩, .inl hdisabled⟩
  obtain ⟨text, htext, hmode'⟩ := ho.mode
  rw [honce.usedValue_unique htext hmode, hparse] at hmode'
  exact ⟨o, hread, ho.debug.mpr ⟨.letter, by decide, rfl⟩,
    honce.usedValue_unique ho.trigger (.given htrigger), honce.usedValue_unique ho.die (.given hdie),
    (Except.ok.inj hmode').symm, ho.disabled.mpr (.inl hdisabled),
    honce.usedValue_unique ho.nick hnick⟩

end DiceRoller
