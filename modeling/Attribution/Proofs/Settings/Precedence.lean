import Attribution.Proofs.Settings.Options

/-!
# Where settings come from

The command line hides the environment. Which settings it gives can be seen from its arguments, even
though a value can look like anything: the value in an argument of its own cannot look like an
option, and any other value is inside the argument of its option. What counts of the environment is
the variables of those settings that the command line does not mention. They are read one after the
other, and none of them touches the setting of another.
-/

namespace Attribution

open Attribution.Text

namespace CommandLine

/-- The option of the setting is on the command line. -/
def Mentions (arguments : List Argument) (setting : Setting) : Prop :=
  setting.option ∈ arguments ∨ ∃ value, setting.assignment value ∈ arguments

/-- The option of the setting is on the command line with the value. -/
def Gives (arguments : List Argument) (setting : Setting) (value : Argument) : Prop :=
  setting.assignment value ∈ arguments ∨ [setting.option, value] <:+: arguments

/-! ### Arguments are not taken for others -/

variable {one other setting : Setting} {value argument : Argument}

theorem optionName_injective (same : Argument.ofText one.optionName = .ofText other.optionName) :
    one = other := by
  have found := settingNamed?_eq_some_iff.2 same
  rw [settingNamed?_eq_some_iff.2 rfl] at found
  exact Option.some.inj found

theorem option_eq_option_iff : one.option = other.option ↔ one = other := by
  constructor
  · intro same
    have forms := congrArg form same
    rw [form_option, form_option] at forms
    exact optionName_injective (Form.option.inj forms).1
  · rintro rfl
    rfl

theorem assignment_eq_assignment_iff {value' : Argument} :
    one.assignment value = other.assignment value' ↔ one = other ∧ value = value' := by
  constructor
  · intro same
    have forms := congrArg form same
    rw [form_assignment, form_assignment] at forms
    obtain ⟨names, values⟩ := Form.option.inj forms
    exact ⟨optionName_injective names, Option.some.inj values⟩
  · rintro ⟨rfl, rfl⟩
    rfl

theorem option_ne_assignment : one.option ≠ other.assignment value := by
  intro same
  have forms := congrArg form same
  rw [form_option, form_assignment] at forms
  simp at forms

/-- What can be a value in an argument of its own, and the two dashes, are no options. -/
theorem ne_option (other : form argument = .plain ∨ form argument = .endOfOptions) :
    argument ≠ setting.option := by
  rintro rfl
  rw [form_option] at other
  simp at other

theorem ne_assignment (other : form argument = .plain ∨ form argument = .endOfOptions) :
    argument ≠ setting.assignment value := by
  rintro rfl
  rw [form_assignment] at other
  simp at other

/-! ### What a line gives -/

variable {more : List Argument}

theorem mentions_cons_iff :
    Mentions (argument :: more) setting ↔
      (argument = setting.option ∨ ∃ value, argument = setting.assignment value) ∨
        Mentions more setting := by
  simp only [Mentions, List.mem_cons, exists_or, eq_comm (b := argument)]
  tauto

theorem gives_cons_iff :
    Gives (argument :: more) setting value ↔
      (argument = setting.assignment value ∨
        argument = setting.option ∧ more.head? = some value) ∨ Gives more setting value := by
  simp only [Gives, List.mem_cons, List.infix_cons_iff, List.cons_prefix_cons,
    List.singleton_prefix_iff_head?_eq_some, eq_comm (b := argument)]
  tauto

/-- An argument that is no option adds nothing to those after it. -/
theorem mentions_cons_of_ne (other : form argument = .plain ∨ form argument = .endOfOptions) :
    Mentions (argument :: more) setting ↔ Mentions more setting := by
  simp [mentions_cons_iff, ne_option other, ne_assignment other]

theorem gives_cons_of_ne (other : form argument = .plain ∨ form argument = .endOfOptions) :
    Gives (argument :: more) setting value ↔ Gives more setting value := by
  simp [gives_cons_iff, ne_option other, ne_assignment other]

theorem mentions_arguments_iff {occurrence : Occurrence} (proper : occurrence.IsProper) :
    Mentions (occurrence.arguments ++ more) setting ↔
      occurrence.setting = setting ∨ Mentions more setting := by
  obtain ⟨there, value, apart⟩ := occurrence
  cases apart with
  | false =>
    change Mentions (there.assignment value :: more) setting ↔ _
    simp [mentions_cons_iff, assignment_eq_assignment_iff, option_ne_assignment.symm]
  | true =>
    change Mentions (there.option :: value :: more) setting ↔ _
    rw [mentions_cons_iff, mentions_cons_of_ne (.inl (form_eq_plain_iff.2 (proper rfl)))]
    simp [option_eq_option_iff, option_ne_assignment]

theorem gives_arguments_iff {occurrence : Occurrence} (proper : occurrence.IsProper) :
    Gives (occurrence.arguments ++ more) setting value ↔
      (occurrence.setting = setting ∧ occurrence.value = value) ∨ Gives more setting value := by
  obtain ⟨there, value', apart⟩ := occurrence
  cases apart with
  | false =>
    change Gives (there.assignment value' :: more) setting value ↔ _
    simp [gives_cons_iff, assignment_eq_assignment_iff, option_ne_assignment.symm]
  | true =>
    change Gives (there.option :: value' :: more) setting value ↔ _
    rw [gives_cons_iff, gives_cons_of_ne (.inl (form_eq_plain_iff.2 (proper rfl)))]
    simp [option_eq_option_iff, option_ne_assignment]

theorem mentions_line_iff {occurrences : List Occurrence}
    (proper : ∀ occurrence ∈ occurrences, occurrence.IsProper) (ended : Bool) :
    Mentions (line occurrences ended) setting ↔
      setting ∈ occurrences.map Occurrence.setting := by
  induction occurrences with
  | nil =>
    have nothing : ¬ Mentions [] setting := by simp [Mentions]
    cases ended with
    | false => simpa using nothing
    | true =>
      change Mentions [.ofText "--"] setting ↔ _
      rw [mentions_cons_of_ne (.inr rfl)]
      simpa using nothing
  | cons occurrence more ih =>
    have ⟨first, rest⟩ := List.forall_mem_cons.1 proper
    rw [line_cons, mentions_arguments_iff first, ih rest, List.map_cons, List.mem_cons,
      eq_comm (a := setting)]

theorem gives_line_iff {occurrences : List Occurrence}
    (proper : ∀ occurrence ∈ occurrences, occurrence.IsProper) (ended : Bool) :
    Gives (line occurrences ended) setting value ↔
      ∃ occurrence ∈ occurrences, occurrence.setting = setting ∧ occurrence.value = value := by
  induction occurrences with
  | nil =>
    have nothing : ¬ Gives [] setting value := by simp [Gives]
    cases ended with
    | false => simpa using nothing
    | true =>
      change Gives [.ofText "--"] setting value ↔ _
      rw [gives_cons_of_ne (.inr rfl)]
      simpa using nothing
  | cons occurrence more ih =>
    have ⟨first, rest⟩ := List.forall_mem_cons.1 proper
    rw [line_cons, gives_arguments_iff first, ih rest, List.exists_mem_cons_iff]

variable {arguments : List Argument} {given : Given}

theorem assigns_of_parse (h : parse arguments = .ok given) :
    ∃ occurrences ended, (∀ occurrence ∈ occurrences, occurrence.IsProper) ∧
      arguments = line occurrences ended ∧ Assigns occurrences (fun _ => none) given.value? := by
  obtain ⟨occurrences, ended, proper, rfl⟩ := isLine_of_parse h
  exact ⟨occurrences, ended, proper, rfl, (map_value?_parse_line_eq_ok_iff proper ended).1
    (congrArg (Except.map Given.value?) h)⟩

theorem value?_eq_none_iff (h : parse arguments = .ok given) :
    given.value? setting = none ↔ ¬ Mentions arguments setting := by
  obtain ⟨occurrences, ended, proper, rfl, assigns⟩ := assigns_of_parse h
  rw [mentions_line_iff proper, assigns.eq_none_iff]

/-- A value is given for a setting exactly if it is the one that its option has. -/
theorem value?_eq_some_iff (h : parse arguments = .ok given) {result : SettingValue} :
    given.value? setting = some result ↔
      ∃ text, Gives arguments setting (.ofText text) ∧ setting.Denotes text result := by
  obtain ⟨occurrences, ended, proper, rfl, assigns⟩ := assigns_of_parse h
  simp only [gives_line_iff proper]
  constructor
  · intro there
    have listed : setting ∈ occurrences.map Occurrence.setting := by
      by_contra absent
      rw [assigns.eq_none_iff.2 absent] at there
      cases there
    obtain ⟨occurrence, among, rfl⟩ := List.mem_map.1 listed
    obtain ⟨value, read, same⟩ := assigns.read occurrence among
    obtain rfl := Option.some.inj (same.symm.trans there)
    obtain ⟨text, is_text, denotes⟩ := Setting.read_eq_ok_iff.1 read
    exact ⟨text, ⟨occurrence, among, rfl, is_text⟩, denotes⟩
  · rintro ⟨text, ⟨occurrence, among, rfl, is_text⟩, denotes⟩
    obtain ⟨value, read, there⟩ := assigns.read occurrence among
    have read' := Setting.read_eq_ok_iff.2 ⟨text, is_text, denotes⟩
    rw [there, Except.ok.inj (read.symm.trans read')]

end CommandLine

/-! ### Reading variables -/

namespace Given

/-- Reading the variable of a setting leads from the value before to the value after. -/
inductive Filled (environment : Environment) (setting : Setting) :
    Option SettingValue → Option SettingValue → Prop
  | kept {value : SettingValue} : Filled environment setting (some value) (some value)
  | unset (nothing : variableValue? environment setting = none) :
      Filled environment setting none none
  | read {argument : Argument} {value : SettingValue}
      (set : variableValue? environment setting = some argument)
      (denotes : setting.read argument = .ok value) : Filled environment setting none (some value)

variable {environment : Environment} {given : Given} {setting : Setting}
  {values : Setting → Option SettingValue}

theorem Filled.eq_none {before : Option SettingValue}
    (filled : Filled environment setting before none) : before = none := by
  cases filled
  rfl

theorem Filled.eq_of_unset {before after : Option SettingValue}
    (filled : Filled environment setting before after)
    (unset : variableValue? environment setting = none) : after = before := by
  cases filled with
  | kept => rfl
  | unset => rfl
  | read set => cases unset.symm.trans set

theorem map_value?_putVariable_eq_ok_iff :
    (given.putVariable environment setting).map value? = .ok values ↔
      ∃ after, Filled environment setting (given.value? setting) after ∧
        values = Function.update given.value? setting after := by
  have same := Function.update_eq_self setting given.value?
  rw [putVariable, has_eq_isSome]
  cases before : given.value? setting with
  | some value =>
    rw [before] at same
    rw [Option.isSome_some, if_pos rfl]
    constructor
    · intro unchanged
      exact ⟨some value, .kept, by rw [same, ← Except.ok.inj unchanged]⟩
    · rintro ⟨after, ⟨⟩, rfl⟩
      rw [same]
      rfl
  | none =>
    rw [before] at same
    rw [Option.isSome_none, if_neg Bool.false_ne_true]
    cases found : variableValue? environment setting with
    | none =>
      constructor
      · intro unchanged
        exact ⟨none, .unset found, by rw [same, ← Except.ok.inj unchanged]⟩
      · rintro ⟨after, filled, rfl⟩
        rw [filled.eq_of_unset found, same]
        rfl
    | some argument =>
      rw [map_value?_put_eq_ok_iff]
      constructor
      · rintro ⟨value, read, rfl⟩
        exact ⟨some value, .read found read, rfl⟩
      · rintro ⟨after, _ | ⟨unset⟩ | ⟨set, read⟩, rfl⟩
        · cases unset.symm.trans found
        · cases Option.some.inj (found.symm.trans set)
          exact ⟨_, read, rfl⟩

/-- Reading the variables of several settings leads for each of them, and for no other, from the
value before to the value after. -/
theorem map_value?_putVariables_eq_ok_iff {settings : List Setting} (distinct : settings.Nodup) :
    (given.putVariables environment settings).map value? = .ok values ↔
      (∀ setting ∈ settings, Filled environment setting (given.value? setting) (values setting)) ∧
        ∀ setting ∉ settings, values setting = given.value? setting := by
  induction settings generalizing given with
  | nil =>
    simp [putVariables, Except.map, funext_iff, eq_comm]
  | cons first more ih =>
    obtain ⟨new, distinct⟩ := List.nodup_cons.1 distinct
    rw [putVariables, Except.map_bind_eq_ok_iff (g := value?) (P := fun between =>
      (∀ setting ∈ more, Filled environment setting (between setting) (values setting)) ∧
        ∀ setting ∉ more, values setting = between setting) fun next => ih distinct]
    simp only [map_value?_putVariable_eq_ok_iff]
    constructor
    · rintro ⟨_, ⟨after, filled, rfl⟩, listed, others⟩
      -- The later variables are those of other settings, so what the first one gives stays.
      have there : values first = after := by
        rw [others first new, Function.update_self]
      refine ⟨List.forall_mem_cons.2 ⟨there ▸ filled, fun setting among => ?_⟩, ?_⟩
      · have other : setting ≠ first := fun same => new (same ▸ among)
        simpa [Function.update_of_ne other] using listed setting among
      · intro setting absent
        rw [List.mem_cons, not_or] at absent
        rw [others setting absent.2, Function.update_of_ne absent.1]
    · rintro ⟨listed, others⟩
      obtain ⟨filled, listed⟩ := List.forall_mem_cons.1 listed
      refine ⟨_, ⟨values first, filled, rfl⟩, fun setting among => ?_, fun setting absent => ?_⟩
      · have other : setting ≠ first := fun same => new (same ▸ among)
        rw [Function.update_of_ne other]
        exact listed setting among
      · by_cases same : setting = first
        · rw [same, Function.update_self]
        · rw [Function.update_of_ne same]
          exact others setting (by simp [same, absent])

/-- Only the variables of settings without a value are looked at. -/
theorem putVariables_congr {other : Environment}
    (agree : ∀ setting, given.value? setting = none →
      variableValue? environment setting = variableValue? other setting)
    (settings : List Setting) :
    given.putVariables environment settings = given.putVariables other settings := by
  induction settings generalizing given with
  | nil => rfl
  | cons first more ih =>
    have same : given.putVariable environment first = given.putVariable other first := by
      rw [putVariable, putVariable, has_eq_isSome]
      cases before : given.value? first with
      | some => rfl
      | none => rw [agree first before]
    rw [putVariables, putVariables, same]
    cases put : given.putVariable other first with
    | error => rfl
    | ok next =>
      obtain ⟨after, filled, same⟩ :=
        map_value?_putVariable_eq_ok_iff.1 (congrArg (Except.map value?) put)
      -- Reading a variable takes no value away, so what has none now had none before.
      refine ih fun setting unset => agree setting ?_
      rw [same] at unset
      by_cases changed : setting = first
      · rw [changed, Function.update_self] at unset
        rw [unset] at filled
        rw [changed, filled.eq_none]
      · rwa [Function.update_of_ne changed] at unset

end Given

/-! ### The sources of settings -/

namespace Settings

open CommandLine Given

/-- The setting has the value from the first of its sources that has one: its option, its variable,
the standard values. -/
inductive Sourced (arguments : List Argument) (environment : Environment) (setting : Setting) :
    SettingValue → Prop
  | option {text : String} {value : SettingValue}
      (gives : Gives arguments setting (.ofText text)) (denotes : setting.Denotes text value) :
      Sourced arguments environment setting value
  | environment {text : String} {value : SettingValue} (absent : ¬ Mentions arguments setting)
      (set : variableValue? environment setting = some (.ofText text))
      (denotes : setting.Denotes text value) : Sourced arguments environment setting value
  | standard (absent : ¬ Mentions arguments setting)
      (unset : variableValue? environment setting = none) :
      Sourced arguments environment setting (Settings.standard.value setting)

variable {arguments : List Argument} {environment : Environment} {given : Given}
  {settings : Settings} {setting : Setting} {value : SettingValue}

theorem sourced_iff (h : CommandLine.parse arguments = .ok given) :
    Sourced arguments environment setting value ↔
      ∃ after, Filled environment setting (given.value? setting) after ∧
        after.getD (Settings.standard.value setting) = value := by
  constructor
  · rintro (⟨gives, denotes⟩ | ⟨absent, set, denotes⟩ | ⟨absent, unset⟩)
    · rw [(value?_eq_some_iff h).2 ⟨_, gives, denotes⟩]
      exact ⟨_, .kept, rfl⟩
    · rw [(value?_eq_none_iff h).2 absent]
      exact ⟨_, .read set (Setting.read_eq_ok_iff.2 ⟨_, rfl, denotes⟩), rfl⟩
    · rw [(value?_eq_none_iff h).2 absent]
      exact ⟨_, .unset unset, rfl⟩
  · rintro ⟨after, filled, rfl⟩
    cases before : given.value? setting with
    | some value =>
      rw [before] at filled
      obtain ⟨text, gives, denotes⟩ := (value?_eq_some_iff h).1 before
      cases filled
      exact .option gives denotes
    | none =>
      have absent := (value?_eq_none_iff h).1 before
      rw [before] at filled
      cases filled with
      | unset unset => exact .standard absent unset
      | read set read =>
        obtain ⟨text, rfl, denotes⟩ := Setting.read_eq_ok_iff.1 read
        exact .environment absent set denotes

theorem Sourced.eq_of_unset (sourced : Sourced arguments environment setting value)
    (h : CommandLine.parse arguments = .ok given)
    (unset : variableValue? environment setting = none) :
    value = (given.value? setting).getD (Settings.standard.value setting) := by
  obtain ⟨after, filled, rfl⟩ := (sourced_iff h).1 sourced
  rw [filled.eq_of_unset unset]

theorem parse_eq_ok_iff :
    Settings.parse arguments environment = .ok settings ↔
      ∃ given, CommandLine.parse arguments = .ok given ∧
        ∀ setting, Sourced arguments environment setting (settings.value setting) := by
  have complete (setting : Setting) : setting ∈ Setting.all := by
    cases setting <;> decide
  rw [Settings.parse, Except.bind_eq_ok_iff]
  refine exists_congr fun given => and_congr_right fun read => ?_
  rw [Except.map_eq_ok_iff]
  simp only [sourced_iff read]
  constructor
  · rintro ⟨filled, put, rfl⟩ setting
    obtain ⟨all, -⟩ := (map_value?_putVariables_eq_ok_iff (by decide)).1
      (congrArg (Except.map value?) put)
    exact ⟨_, all setting (complete setting), (value_settings filled setting).symm⟩
  · intro sources
    choose after filled same using sources
    obtain ⟨last, put, values⟩ := Except.map_eq_ok_iff.1
      ((map_value?_putVariables_eq_ok_iff (by decide)).2
        ⟨fun setting _ => filled setting, fun setting absent => absurd (complete setting) absent⟩)
    refine ⟨last, put, eq_of_value_eq fun setting => ?_⟩
    rw [value_settings, values, same]

theorem parse_eq_error {error : SettingsError}
    (failed : Settings.parse arguments .empty = .error error) :
    Settings.parse arguments environment = .error error := by
  rw [parse_empty] at failed
  cases read : CommandLine.parse arguments with
  | error =>
    rw [read] at failed
    rw [Settings.parse, read]
    exact failed
  | ok =>
    rw [read] at failed
    cases failed

theorem parse_congr {other : Environment}
    (agree : ∀ setting, ¬ Mentions arguments setting →
      variableValue? environment setting = variableValue? other setting) :
    Settings.parse arguments environment = Settings.parse arguments other := by
  cases read : CommandLine.parse arguments with
  | error =>
    rw [Settings.parse, Settings.parse, read]
    rfl
  | ok given =>
    have silent (setting : Setting) (unset : given.value? setting = none) :
        variableValue? environment setting = variableValue? other setting :=
      agree setting ((value?_eq_none_iff read).1 unset)
    rw [Settings.parse, Settings.parse, read]
    exact congrArg (Except.map Given.settings) (putVariables_congr silent Setting.all)

theorem value_eq_of_parse {other : Environment} {one two : Settings}
    (parsed : Settings.parse arguments environment = .ok one)
    (parsed' : Settings.parse arguments other = .ok two)
    (without : setting.variableName? = none) : one.value setting = two.value setting := by
  have unset (environment : Environment) : variableValue? environment setting = none := by
    rw [variableValue?, without]
    rfl
  obtain ⟨given, read, sources⟩ := parse_eq_ok_iff.1 parsed
  obtain ⟨-, -, sources'⟩ := parse_eq_ok_iff.1 parsed'
  rw [(sources setting).eq_of_unset read (unset _), (sources' setting).eq_of_unset read (unset _)]

/-- The environment is looked at only where the command line is silent. What is wrong with a command
line is wrong with it in every environment. In two environments that give the same for all settings
that the command line does not mention the outcome is the same. Every setting has the value that its
option gives, else the one of its variable, else its standard value; and the settings that have no
variable are the same in all environments. -/
theorem parse_precedence (arguments : List Argument) (environment : Environment) :
    (∀ error, Settings.parse arguments .empty = .error error →
      Settings.parse arguments environment = .error error) ∧
    (∀ other : Environment,
      (∀ setting, ¬ Mentions arguments setting →
        variableValue? environment setting = variableValue? other setting) →
      Settings.parse arguments environment = Settings.parse arguments other) ∧
    (∀ settings : Settings, Settings.parse arguments environment = .ok settings ↔
      (∃ standard, Settings.parse arguments .empty = .ok standard) ∧
        ∀ setting, Sourced arguments environment setting (settings.value setting)) ∧
    ∀ (other : Environment) (one two : Settings),
      Settings.parse arguments environment = .ok one →
      Settings.parse arguments other = .ok two →
        one.logFormat = two.logFormat ∧ one.adminAddress = two.adminAddress := by
  refine ⟨fun _ => parse_eq_error, fun _ => parse_congr, fun settings => ?_, ?_⟩
  · rw [parse_eq_ok_iff, exists_and_right]
    refine and_congr_left fun _ => ?_
    simp [parse_empty, Except.map_eq_ok_iff]
  · intro other one two parsed parsed'
    have format : one.value .logFormat = two.value .logFormat :=
      value_eq_of_parse parsed parsed' rfl
    have address : one.value .adminAddress = two.value .adminAddress :=
      value_eq_of_parse parsed parsed' rfl
    exact ⟨SettingValue.logFormat.inj format, SettingValue.socketAddress.inj address⟩

/-- An option without a value is wrong in every environment. A variable that an option hides may
hold anything: it is as if it were not set. -/
theorem parse_precedence_hidden_variable :
    let valueless := ["--log-level"].map Argument.ofText
    let arguments := ["--callback-workers", "3"].map Argument.ofText
    let environment :=
      Environment.ofList [("SENSOR_CALLBACK_WORKERS", "many"), ("SENSOR_LOG", "warn")]
    let other := Environment.ofList [("SENSOR_LOG", "warn")]
    let settings : Settings := { logFilter := "warn", workers := 3 }
    Settings.parse valueless environment = .error .noChoice ∧
      Settings.parse arguments other = .ok settings ∧
      Settings.parse arguments environment = .ok settings ∧
      Sourced arguments environment .workers (.number 3) := by
  intro valueless arguments environment other settings
  have present : Setting.workers.option ∈ arguments := by
    decide +kernel +revert
  have failed : Settings.parse valueless .empty = .error .noChoice := by
    decide +kernel +revert
  have parsed : Settings.parse arguments other = .ok settings := by
    decide +kernel +revert
  have agree (setting : Setting) (absent : ¬ Mentions arguments setting) :
      variableValue? environment setting = variableValue? other setting := by
    cases setting with
    | workers => exact absurd (.inl present) absent
    | _ => rfl
  obtain ⟨-, unseen, sources, -⟩ := parse_precedence arguments environment
  have same : Settings.parse arguments environment = .ok settings :=
    (unseen other agree).trans parsed
  exact ⟨(parse_precedence valueless environment).1 _ failed, parsed, same,
    ((sources settings).1 same).2 .workers⟩

end Settings

end Attribution
