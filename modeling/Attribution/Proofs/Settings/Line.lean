import Attribution.Proofs.Settings.Value

/-!
# Command lines

The language of command lines: options in any order, each at most once, with a value that its
setting can have, in one argument or in two, and perhaps two dashes at the end. A line is read
option by option. In between, the reader knows which option still waits for its value, and what can
follow is different if there is one; this is the invariant of the induction over the arguments. On a
line of the language what is read is what its options give, one after the other.
-/

namespace Attribution

open Attribution.Text

/-- The argument that names the option of a setting, its value being in the next argument. -/
def Setting.option (setting : Setting) : Argument :=
  .ofText ("--" ++ setting.optionName)

/-- The argument that names the option of a setting and holds its value. -/
def Setting.assignment (setting : Setting) (value : Argument) : Argument :=
  .ofText ("--" ++ setting.optionName ++ "=") ++ value

/-- An option on a command line. -/
structure Occurrence where
  setting : Setting
  value : Argument
  /-- Whether the value stands in an argument of its own. -/
  apart : Bool

namespace Occurrence

/-- How the option is written. -/
def arguments (occurrence : Occurrence) : List Argument :=
  if occurrence.apart then [occurrence.setting.option, occurrence.value]
  else [occurrence.setting.assignment occurrence.value]

/-- A value in an argument of its own does not begin with a dash, unless it is a dash. -/
def IsProper (occurrence : Occurrence) : Prop :=
  occurrence.apart = true →
    occurrence.value = .ofText "-" ∨ occurrence.value.head? ≠ some (some '-')

end Occurrence

namespace CommandLine

/-- The command line with the given options, and two dashes after them where the options end
expressly. -/
def line (occurrences : List Occurrence) (ended : Bool) : List Argument :=
  occurrences.flatMap Occurrence.arguments ++ if ended then [.ofText "--"] else []

/-! ### The forms of arguments -/

variable {argument name value : Argument} {setting : Setting}

theorem option_eq (setting : Setting) :
    setting.option = some '-' :: some '-' :: Argument.ofText setting.optionName := by
  rw [Setting.option, Argument.ofText, String.toList_append, List.map_append]
  rfl

theorem assignment_eq (setting : Setting) (value : Argument) :
    setting.assignment value =
      some '-' :: some '-' :: (Argument.ofText setting.optionName ++ some '=' :: value) := by
  rw [Setting.assignment, Argument.ofText, String.toList_append, String.toList_append,
    List.map_append, List.map_append, List.append_assoc, List.append_assoc]
  rfl

theorem form_dashes {rest : Argument} (something : rest ≠ []) :
    form (some '-' :: some '-' :: rest) =
      match cutFirst (some '=') rest with
      | some (name, value) => .option name (some value)
      | none => .option rest none := by
  obtain ⟨c, more, rfl⟩ := List.exists_cons_of_ne_nil something
  rfl

theorem equals_not_mem_optionName (setting : Setting) :
    some '=' ∉ Argument.ofText setting.optionName := by
  cases setting <;> decide

theorem optionName_ne_nil (setting : Setting) : Argument.ofText setting.optionName ≠ [] := by
  cases setting <;> decide

theorem form_option (setting : Setting) :
    form setting.option = .option (.ofText setting.optionName) none := by
  rw [option_eq, form_dashes (optionName_ne_nil setting),
    cutFirst_eq_none_iff.2 (equals_not_mem_optionName setting)]

theorem form_assignment (setting : Setting) (value : Argument) :
    form (setting.assignment value) = .option (.ofText setting.optionName) (some value) := by
  rw [assignment_eq, form_dashes (List.append_ne_nil_of_left_ne_nil (optionName_ne_nil setting) _),
    cutFirst_eq_some_iff.2 ⟨rfl, equals_not_mem_optionName setting⟩]

theorem settingNamed?_eq_some_iff :
    settingNamed? name = some setting ↔ name = .ofText setting.optionName := by
  constructor
  · intro found
    rw [settingNamed?] at found
    simpa [eq_comm] using List.find?_some found
  · rintro rfl
    cases setting <;> decide

theorem eq_endOfOptions_of_form (h : form argument = .endOfOptions) : argument = .ofText "--" := by
  rw [form.eq_def] at h
  split at h
  · rfl
  · split at h <;> cases h
  all_goals cases h

theorem eq_option_of_form (h : form argument = .option name none)
    (named : settingNamed? name = some setting) : argument = setting.option := by
  rw [settingNamed?_eq_some_iff] at named
  rw [form.eq_def] at h
  split at h
  · cases h
  · split at h
    · cases h
    · cases h
      rw [option_eq, named]
  all_goals cases h

theorem eq_assignment_of_form (h : form argument = .option name (some value))
    (named : settingNamed? name = some setting) : argument = setting.assignment value := by
  rw [settingNamed?_eq_some_iff] at named
  rw [form.eq_def] at h
  split at h
  · cases h
  · split at h
    · next cut =>
      cases h
      rw [assignment_eq, (cutFirst_eq_some_iff.1 cut).1, named]
    · cases h
  all_goals cases h

theorem form_eq_plain_iff :
    form argument = .plain ↔ argument = .ofText "-" ∨ argument.head? ≠ some (some '-') := by
  constructor
  · intro plain
    rw [form.eq_def] at plain
    split at plain
    · cases plain
    · split at plain <;> cases plain
    · exact .inl rfl
    · cases plain
    · next other =>
      refine .inr fun dash => ?_
      obtain ⟨rest, rfl⟩ := List.head?_eq_some_iff.1 dash
      exact other rest rfl
  · rintro (rfl | other)
    · rfl
    · match argument, other with
      | [], _ => rfl
      | c :: rest, other =>
        rw [form]
        all_goals
          intros
          simp_all

/-! ### Lines are read option by option -/

/-- The values that several options give, one after the other. -/
def putAll (given : Given) : List Occurrence → Except SettingsError Given
  | [] => .ok given
  | occurrence :: more =>
    (given.putNew occurrence.setting occurrence.value).bind fun given => putAll given more

@[simp] theorem line_nil (ended : Bool) :
    line [] ended = if ended then [.ofText "--"] else [] := rfl

@[simp] theorem line_cons (occurrence : Occurrence) (more : List Occurrence) (ended : Bool) :
    line (occurrence :: more) ended = occurrence.arguments ++ line more ended := by
  simp [line]

/-- The arguments are a command line with options in proper form. -/
def IsLine (arguments : List Argument) : Prop :=
  ∃ occurrences ended, (∀ occurrence ∈ occurrences, occurrence.IsProper) ∧
    arguments = line occurrences ended

theorem isLine_cons (occurrence : Occurrence) (proper : occurrence.IsProper)
    {arguments : List Argument} (h : IsLine arguments) :
    IsLine (occurrence.arguments ++ arguments) := by
  obtain ⟨occurrences, ended, all, rfl⟩ := h
  exact ⟨occurrence :: occurrences, ended, List.forall_mem_cons.2 ⟨proper, all⟩,
    (line_cons occurrence occurrences ended).symm⟩

namespace Progress

variable {progress : Progress}

theorem read_option (going : progress.ended = false) (setting : Setting) :
    progress.read setting.option =
      progress.close.bind fun given => .ok { given, opened := some ⟨setting, none⟩ } := by
  rw [read, going, form_option]
  simp [settingNamed?_eq_some_iff.2 rfl, readOption]

theorem read_assignment (going : progress.ended = false) (setting : Setting) (value : Argument) :
    progress.read (setting.assignment value) = progress.close.bind fun given =>
      (given.putNew setting value).map fun given => { given } := by
  rw [read, going, form_assignment]
  simp [settingNamed?_eq_some_iff.2 rfl, readOption]

theorem read_plain (going : progress.ended = false) (plain : form argument = .plain) :
    progress.read argument = progress.readValue argument := by
  rw [read, going, plain]
  rfl

theorem read_endOfOptions (going : progress.ended = false) :
    progress.read (.ofText "--") = .ok { progress with ended := true } := by
  rw [read, going]
  rfl

/-- What is read of a line is what its options give after what was read before. -/
theorem readAll_line (going : progress.ended = false) {occurrences : List Occurrence}
    (proper : ∀ occurrence ∈ occurrences, occurrence.IsProper) (ended : Bool) :
    (progress.readAll (line occurrences ended)).bind close =
      progress.close.bind fun given => putAll given occurrences := by
  induction occurrences generalizing progress with
  | nil =>
    have nothing : (progress.close.bind fun given => putAll given []) = progress.close := by
      cases progress.close <;> rfl
    rw [nothing]
    cases ended with
    | false => rfl
    | true =>
      rw [line_nil, if_pos rfl, readAll, read_endOfOptions going]
      rfl
  | cons occurrence more ih =>
    have ⟨first, rest⟩ := List.forall_mem_cons.1 proper
    obtain ⟨setting, value, apart⟩ := occurrence
    rw [line_cons]
    cases apart with
    | false =>
      rw [Occurrence.arguments, if_neg Bool.false_ne_true, List.singleton_append, readAll,
        read_assignment going, Except.bind_assoc, Except.bind_assoc]
      refine congrArg progress.close.bind (funext fun given => ?_)
      rw [putAll]
      cases given.putNew setting value with
      | error => rfl
      | ok given => exact @ih { given } rfl rest
    | true =>
      -- The value is kept until the rest of the line is read, and put where that begins.
      have plain := form_eq_plain_iff.2 (first rfl)
      rw [Occurrence.arguments, if_pos rfl, List.cons_append, List.singleton_append, readAll,
        read_option going, Except.bind_assoc, Except.bind_assoc]
      refine congrArg progress.close.bind (funext fun given => ?_)
      change ((readAll { given, opened := some ⟨setting, none⟩ } _).bind close) = _
      rw [readAll, read_plain rfl plain]
      exact @ih { given, opened := some ⟨setting, some value⟩ } rfl rest

/-! ### What is read is a line -/

/-- What an argument does that can be read where the options have not ended. -/
inductive Step (progress : Progress) : Argument → Progress → Prop
  | endOfOptions : Step progress (.ofText "--") { progress with ended := true }
  | value {setting : Setting} {argument : Argument}
      (awaited : progress.opened = some ⟨setting, none⟩) (plain : form argument = .plain) :
      Step progress argument { progress with opened := some ⟨setting, some argument⟩ }
  | option {setting : Setting} {given : Given} (closed : progress.close = .ok given) :
      Step progress setting.option { given, opened := some ⟨setting, none⟩ }
  | assignment {setting : Setting} {value : Argument} {given after : Given}
      (closed : progress.close = .ok given) (put : given.putNew setting value = .ok after) :
      Step progress (setting.assignment value) { given := after }

theorem step_of_read (going : progress.ended = false) {next : Progress}
    (h : progress.read argument = .ok next) : Step progress argument next := by
  rw [read, going, if_neg Bool.false_ne_true] at h
  split at h
  · next ends =>
    cases h
    rw [eq_endOfOptions_of_form ends]
    exact .endOfOptions
  · cases h
  · next plain =>
    rw [readValue] at h
    split at h
    · next awaited =>
      cases h
      exact .value awaited plain
    · cases h
  · next name value named =>
    split at h
    · next setting known =>
      obtain ⟨given, closed, rest⟩ := Except.bind_eq_ok_iff.1 h
      cases value with
      | none =>
        cases rest
        rw [eq_option_of_form named known]
        exact .option closed
      | some value =>
        obtain ⟨after, put, rfl⟩ := Except.map_eq_ok_iff.1 rest
        rw [eq_assignment_of_form named known]
        exact .assignment closed put
    · cases h

/-- What the arguments have to be like that are yet to be read: a command line, after the value that
an option waits for if one does. -/
def Expects (progress : Progress) (arguments : List Argument) : Prop :=
  match progress.opened with
  | some ⟨_, none⟩ => ∃ value rest, arguments = value :: rest ∧ form value = .plain ∧ IsLine rest
  | _ => IsLine arguments

/-- Where the option read last has all that it needs, a command line is expected. -/
theorem expects_iff_of_close {given : Given} (closed : progress.close = .ok given)
    {arguments : List Argument} : progress.Expects arguments ↔ IsLine arguments := by
  obtain ⟨_, _ | ⟨_, _ | _⟩, _⟩ := progress
  · exact Iff.rfl
  · cases closed
  · exact Iff.rfl

theorem expects_of_readAll (going : progress.ended = false) {arguments : List Argument}
    {given : Given} (h : (progress.readAll arguments).bind close = .ok given) :
    progress.Expects arguments := by
  induction arguments generalizing progress with
  | nil => exact (expects_iff_of_close h).2 ⟨[], false, by simp, rfl⟩
  | cons argument more ih =>
    rw [readAll, Except.bind_assoc] at h
    obtain ⟨next, read, rest⟩ := Except.bind_eq_ok_iff.1 h
    cases step_of_read going read with
    | endOfOptions =>
      -- Two dashes are no value: where one is missing it is missed at the end.
      cases more with
      | nil => exact (expects_iff_of_close rest).2 ⟨[], true, by simp, rfl⟩
      | cons => cases rest
    | @value setting _ awaited plain =>
      have after : IsLine more :=
        @ih { progress with opened := some ⟨setting, some argument⟩ } going rest
      rw [Expects, awaited]
      exact ⟨argument, more, rfl, plain, after⟩
    | option closed =>
      obtain ⟨value, others, rfl, plain, is_line⟩ := ih rfl rest
      rw [expects_iff_of_close closed]
      exact isLine_cons ⟨_, value, true⟩ (fun _ => form_eq_plain_iff.1 plain) is_line
    | assignment closed put =>
      rw [expects_iff_of_close closed]
      exact isLine_cons ⟨_, _, false⟩ nofun (ih rfl rest)

end Progress

theorem parse_line {occurrences : List Occurrence}
    (proper : ∀ occurrence ∈ occurrences, occurrence.IsProper) (ended : Bool) :
    parse (line occurrences ended) = putAll {} occurrences :=
  Progress.readAll_line rfl proper ended

theorem isLine_of_parse {arguments : List Argument} {given : Given}
    (h : parse arguments = .ok given) : IsLine arguments :=
  (Progress.expects_iff_of_close rfl).1 (Progress.expects_of_readAll rfl h)

end CommandLine

end Attribution
