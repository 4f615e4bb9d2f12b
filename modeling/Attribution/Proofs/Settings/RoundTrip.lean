import Attribution.Proofs.Endpoint.RoundTrip
import Attribution.Proofs.Settings.Precedence

/-!
# Written settings are read back

Each value of a setting can be written so that the text denotes it: numbers in decimal digits,
addresses in their printed form, and a log filter as it is, whatever it looks like. With an option
for each setting, the value in the argument of its option, this makes a command line that gives the
settings. It mentions all of them, so nothing of the environment is looked at.
-/

namespace Attribution

open Attribution.Text

theorem Argument.ofText_append (first second : String) :
    ofText (first ++ second) = ofText first ++ ofText second := by
  rw [ofText, String.toList_append, List.map_append]
  rfl

namespace Settings

open CommandLine

/-- The value of a setting in writing. -/
def written (settings : Settings) : Setting → String
  | .logFilter => settings.logFilter
  | .logFormat => settings.logFormat.text
  | .adminAddress => settings.adminAddress.text
  | .queueCapacity => inspectNumber settings.queueCapacity
  | .workers => inspectNumber settings.workers
  | .sendTimeout => inspectNumber settings.sendTimeout

/-- The option for a setting, with its value after an equals sign. -/
def optionText (settings : Settings) (setting : Setting) : String :=
  "--" ++ setting.optionName ++ "=" ++ settings.written setting

/-- A command line with an option for each of the listed settings. -/
def arguments (settings : Settings) (order : List Setting) : List Argument :=
  order.map fun setting => .ofText (settings.optionText setting)

variable (settings : Settings)

theorem isUnsigned_inspectNumber (number : UInt64) :
    IsUnsigned (inspectNumber number).toList number.toNat := by
  rw [inspectNumber, String.toList_ofList]
  exact ⟨_, .inl rfl, isNumeral_decimal number.toNat⟩

/-- What is written for a setting denotes its value. -/
theorem denotes_written (setting : Setting) :
    setting.Denotes (settings.written setting) (settings.value setting) := by
  cases setting with
  | logFilter => rfl
  | logFormat =>
    change (settings.logFormat.text = "plain" ∧ _) ∨ (settings.logFormat.text = "json" ∧ _)
    cases format : settings.logFormat with
    | plain => exact .inl ⟨rfl, by rw [value, format]⟩
    | json => exact .inr ⟨rfl, by rw [value, format]⟩
  | adminAddress =>
    refine ⟨settings.adminAddress, ?_, rfl⟩
    rw [written, SocketAddress.text, String.toList_ofList]
    exact settings.adminAddress.denotes_chars
  | queueCapacity => exact ⟨_, isUnsigned_inspectNumber settings.queueCapacity, rfl⟩
  | workers => exact ⟨_, isUnsigned_inspectNumber settings.workers, rfl⟩
  | sendTimeout => exact ⟨_, isUnsigned_inspectNumber settings.sendTimeout, rfl⟩

/-- The options for the listed settings. -/
def occurrences (order : List Setting) : List Occurrence :=
  order.map fun setting => ⟨setting, .ofText (settings.written setting), false⟩

theorem map_setting_occurrences (order : List Setting) :
    (settings.occurrences order).map Occurrence.setting = order := by
  rw [occurrences, List.map_map]
  exact List.map_id order

theorem isProper_of_mem_occurrences {order : List Setting} :
    ∀ occurrence ∈ settings.occurrences order, occurrence.IsProper := by
  intro occurrence listed apart
  obtain ⟨setting, -, rfl⟩ := List.mem_map.1 listed
  cases apart

theorem arguments_eq_line (order : List Setting) :
    settings.arguments order = line (settings.occurrences order) false := by
  induction order with
  | nil => rfl
  | cons setting more ih =>
    have first : Argument.ofText (settings.optionText setting) =
        setting.assignment (.ofText (settings.written setting)) := by
      rw [optionText, Argument.ofText_append, Setting.assignment]
    change Argument.ofText (settings.optionText setting) :: settings.arguments more = _
    rw [first, ih]
    rfl

/-- Options for all settings give the settings. -/
theorem give_occurrences {order : List Setting} (distinct : order.Nodup)
    (all : ∀ setting, setting ∈ order) :
    Occurrence.Give (settings.occurrences order) settings where
  proper := settings.isProper_of_mem_occurrences
  distinct := by rwa [map_setting_occurrences]
  denotes occurrence listed := by
    obtain ⟨setting, -, rfl⟩ := List.mem_map.1 listed
    exact ⟨_, rfl, settings.denotes_written setting⟩
  standard setting absent := by
    rw [map_setting_occurrences] at absent
    exact absurd (all setting) absent

theorem parse_arguments {order : List Setting} (distinct : order.Nodup)
    (all : ∀ setting, setting ∈ order) (environment : Environment) :
    parse (settings.arguments order) environment = .ok settings := by
  have given := settings.give_occurrences distinct all
  rw [arguments_eq_line]
  have unseen : parse (line (settings.occurrences order) false) environment =
      parse (line (settings.occurrences order) false) .empty := by
    refine parse_congr fun setting absent => ?_
    rw [mentions_line_iff given.proper, map_setting_occurrences] at absent
    exact absurd (all setting) absent
  rw [unseen, parse_line_eq_ok_iff given.proper]
  exact given

/-- Whatever the settings are, they are read back from the command line that has each of them
written after its option, whatever the environment is; and it makes no difference in which order the
options come. -/
theorem parse_written (environment : Environment) :
    parse
        (["--log-level=" ++ settings.logFilter,
          "--log-format=" ++ settings.logFormat.text,
          "--admin-addr=" ++ settings.adminAddress.text,
          "--callback-queue-capacity=" ++ inspectNumber settings.queueCapacity,
          "--callback-workers=" ++ inspectNumber settings.workers,
          "--callback-send-timeout-ms=" ++ inspectNumber settings.sendTimeout].map .ofText)
        environment = .ok settings ∧
      ∀ order : List Setting, order.Perm Setting.all →
        parse (settings.arguments order) environment = .ok settings := by
  have any_order (order : List Setting) (same : order.Perm Setting.all) :
      parse (settings.arguments order) environment = .ok settings := by
    refine settings.parse_arguments (same.nodup_iff.2 (by decide)) (fun setting => ?_) environment
    rw [same.mem_iff]
    cases setting <;> decide
  exact ⟨any_order Setting.all (.refl _), any_order⟩

/-- A log filter that looks like an option, an address with a scope and the greatest number, the
options from last to first, in an environment that cannot be read. -/
theorem parse_written_last_to_first :
    let loopback : Ipv6 := ⟨[0, 0, 0, 0, 0, 0, 0, 1], rfl⟩
    let settings : Settings :=
      { logFilter := "--log-format= a=b", adminAddress := .v6 loopback 5 9090,
        workers := 18446744073709551615 }
    let environment := Environment.ofList [("SENSOR_CALLBACK_WORKERS", "many")]
    settings.arguments Setting.all.reverse =
        ["--callback-send-timeout-ms=5000", "--callback-workers=18446744073709551615",
          "--callback-queue-capacity=1024", "--admin-addr=[::1%5]:9090", "--log-format=plain",
          "--log-level=--log-format= a=b"].map .ofText ∧
      Setting.all.reverse.Perm Setting.all ∧
      parse (settings.arguments Setting.all.reverse) environment = .ok settings := by
  intro loopback settings environment
  have reversed : Setting.all.reverse.Perm Setting.all := List.reverse_perm _
  exact ⟨by decide +kernel +revert, reversed,
    (settings.parse_written environment).2 Setting.all.reverse reversed⟩

end Settings

end Attribution
