import Attribution.Proofs.Settings.Line
import Mathlib.Data.List.Perm.Basic

/-!
# Which command lines give settings

The options of a command line are put one after the other, each to a setting that has no value yet.
So they lead from no values to those that their values denote, and it is of no importance in which
order they come or how they are written. Where there is no environment the other settings have their
standard values, and this is all there is to reading settings.
-/

namespace Attribution

open Attribution.Text

namespace CommandLine

/-! ### What the options give -/

/-- From the values before, the options lead to the values after: each is for a setting of its own
that had no value, and has one that can be read. -/
structure Assigns (occurrences : List Occurrence) (before after : Setting → Option SettingValue) :
    Prop where
  distinct : (occurrences.map Occurrence.setting).Nodup
  fresh : ∀ occurrence ∈ occurrences, before occurrence.setting = none
  read : ∀ occurrence ∈ occurrences, ∃ value,
    occurrence.setting.read occurrence.value = .ok value ∧ after occurrence.setting = some value
  rest : ∀ setting ∉ occurrences.map Occurrence.setting, after setting = before setting

variable {occurrence : Occurrence} {occurrences more : List Occurrence}
  {before after : Setting → Option SettingValue}

theorem setting_ne (new : occurrence.setting ∉ more.map Occurrence.setting) {later : Occurrence}
    (listed : later ∈ more) : later.setting ≠ occurrence.setting :=
  fun same => new (same ▸ List.mem_map_of_mem listed)

/-- Where there were no values, there is one exactly for each setting with an option. -/
theorem Assigns.eq_none_iff
    (assigns : Assigns occurrences (fun _ => none) after) {setting : Setting} :
    after setting = none ↔ setting ∉ occurrences.map Occurrence.setting := by
  constructor
  · intro unset listed
    obtain ⟨occurrence, among, rfl⟩ := List.mem_map.1 listed
    obtain ⟨value, -, there⟩ := assigns.read occurrence among
    rw [unset] at there
    cases there
  · exact assigns.rest setting

theorem assigns_nil_iff : Assigns [] before after ↔ after = before := by
  constructor
  · exact fun h => funext fun setting => h.rest setting List.not_mem_nil
  · rintro rfl
    exact ⟨List.nodup_nil, by simp, by simp, fun _ _ => rfl⟩

theorem assigns_cons_iff :
    Assigns (occurrence :: more) before after ↔
      before occurrence.setting = none ∧ ∃ value,
        occurrence.setting.read occurrence.value = .ok value ∧
          Assigns more (Function.update before occurrence.setting (some value)) after := by
  constructor
  · rintro ⟨distinct, fresh, read, rest⟩
    obtain ⟨new, distinct⟩ := List.nodup_cons.1 distinct
    obtain ⟨value, first, there⟩ := read occurrence List.mem_cons_self
    refine ⟨fresh occurrence List.mem_cons_self, value, first, distinct, ?_, ?_, ?_⟩
    · intro later listed
      rw [Function.update_of_ne (setting_ne new listed)]
      exact fresh later (List.mem_cons_of_mem _ listed)
    · exact fun later listed => read later (List.mem_cons_of_mem _ listed)
    · intro setting absent
      by_cases same : setting = occurrence.setting
      · rw [same, Function.update_self, there]
      · rw [Function.update_of_ne same]
        exact rest setting (by simpa [same] using absent)
  · rintro ⟨none_there, value, first, distinct, fresh, read, rest⟩
    -- The first option gives its setting a value, so no later one can be for the same setting.
    have new : occurrence.setting ∉ more.map Occurrence.setting := by
      intro listed
      obtain ⟨later, among, same⟩ := List.mem_map.1 listed
      have := fresh later among
      rw [same, Function.update_self] at this
      cases this
    refine ⟨List.nodup_cons.2 ⟨new, distinct⟩, ?_, ?_, ?_⟩
    · rw [List.forall_mem_cons]
      refine ⟨none_there, fun later listed => ?_⟩
      rw [← fresh later listed, Function.update_of_ne (setting_ne new listed)]
    · rw [List.forall_mem_cons]
      refine ⟨⟨value, first, ?_⟩, read⟩
      rw [rest _ new, Function.update_self]
    · intro setting absent
      rw [List.map_cons, List.mem_cons, not_or] at absent
      rw [rest setting absent.2, Function.update_of_ne absent.1]

theorem map_value?_putAll_eq_ok_iff {given : Given} :
    (putAll given occurrences).map Given.value? = .ok after ↔
      Assigns occurrences given.value? after := by
  induction occurrences generalizing given with
  | nil =>
    rw [assigns_nil_iff, putAll]
    simp [Except.map, eq_comm]
  | cons occurrence more ih =>
    rw [putAll, Except.map_bind_eq_ok_iff (g := Given.value?)
      (P := fun values => Assigns more values after) fun next => ih, assigns_cons_iff]
    simp only [Given.map_value?_putNew_eq_ok_iff]
    constructor
    · rintro ⟨_, ⟨none_there, value, read, rfl⟩, rest⟩
      exact ⟨none_there, value, read, rest⟩
    · rintro ⟨none_there, value, read, rest⟩
      exact ⟨_, ⟨none_there, value, read, rfl⟩, rest⟩

/-- What is read of a line is what its options lead to from nothing. -/
theorem map_value?_parse_line_eq_ok_iff
    (proper : ∀ occurrence ∈ occurrences, occurrence.IsProper) (ended : Bool) :
    (parse (line occurrences ended)).map Given.value? = .ok after ↔
      Assigns occurrences (fun _ => none) after := by
  rw [parse_line proper, map_value?_putAll_eq_ok_iff, Given.value?_nothing]

end CommandLine

/-! ### Without an environment -/

namespace Given

theorem putVariables_empty (given : Given) (settings : List Setting) :
    given.putVariables .empty settings = .ok given := by
  induction settings with
  | nil => rfl
  | cons setting more ih =>
    have unset : variableValue? .empty setting = none := by
      rw [variableValue?]
      cases setting.variableName? <;> rfl
    have same : given.putVariable .empty setting = .ok given := by
      rw [putVariable, unset]
      split <;> rfl
    rw [putVariables, same]
    exact ih

end Given

/-- The options are those of the settings: each is there at most once and in proper form, and its
value denotes that of its setting. All other settings have their standard values. -/
structure Occurrence.Give (occurrences : List Occurrence) (settings : Settings) : Prop where
  proper : ∀ occurrence ∈ occurrences, occurrence.IsProper
  distinct : (occurrences.map Occurrence.setting).Nodup
  denotes : ∀ occurrence ∈ occurrences, ∃ text, occurrence.value = .ofText text ∧
    occurrence.setting.Denotes text (settings.value occurrence.setting)
  standard : ∀ setting ∉ occurrences.map Occurrence.setting,
    settings.value setting = Settings.standard.value setting

namespace Occurrence

open CommandLine

variable {occurrences one other : List Occurrence} {settings : Settings} {given : Given}

/-- What the option says, however it is written. -/
def assigned (occurrence : Occurrence) : Setting × Argument :=
  (occurrence.setting, occurrence.value)

theorem Give.of_perm (give : Give one settings)
    (same : (one.map assigned).Perm (other.map assigned))
    (proper : ∀ occurrence ∈ other, occurrence.IsProper) : Give other settings := by
  have settings_perm : (one.map Occurrence.setting).Perm (other.map Occurrence.setting) := by
    have := same.map Prod.fst
    rwa [List.map_map, List.map_map] at this
  refine ⟨proper, settings_perm.nodup_iff.1 give.distinct, ?_, ?_⟩
  · intro occurrence listed
    obtain ⟨twin, among, equal⟩ := List.mem_map.1 (same.mem_iff.2 (List.mem_map_of_mem listed))
    obtain ⟨setting_eq, value_eq⟩ := Prod.mk.inj equal
    rw [← setting_eq, ← value_eq]
    exact give.denotes twin among
  · exact fun setting absent => give.standard setting fun listed =>
      absent (settings_perm.mem_iff.1 listed)

/-- The values that options give which lead to the settings. -/
def valuesIn (settings : Settings) (occurrences : List Occurrence) (setting : Setting) :
    Option SettingValue :=
  if setting ∈ occurrences.map Occurrence.setting then some (settings.value setting) else none

theorem Give.assigns (give : Give occurrences settings) :
    Assigns occurrences (fun _ => none) (valuesIn settings occurrences) := by
  refine ⟨give.distinct, fun _ _ => rfl, ?_, fun setting absent => if_neg absent⟩
  intro occurrence listed
  exact ⟨_, Setting.read_eq_ok_iff.2 (give.denotes occurrence listed),
    if_pos (List.mem_map_of_mem listed)⟩

theorem Give.eq_settings (give : Give occurrences settings)
    (same : given.value? = valuesIn settings occurrences) : given.settings = settings := by
  refine Settings.eq_of_value_eq fun setting => ?_
  rw [Given.value_settings, same, valuesIn]
  split
  · rfl
  · next absent => exact (give.standard setting absent).symm

theorem give_of_assigns (proper : ∀ occurrence ∈ occurrences, occurrence.IsProper)
    (assigns : Assigns occurrences (fun _ => none) given.value?) :
    Give occurrences given.settings := by
  refine ⟨proper, assigns.distinct, ?_, ?_⟩
  · intro occurrence listed
    obtain ⟨value, read, there⟩ := assigns.read occurrence listed
    rw [Given.value_settings, there]
    exact Setting.read_eq_ok_iff.1 read
  · intro setting absent
    rw [Given.value_settings, assigns.rest setting absent]
    rfl

end Occurrence

namespace Settings

open CommandLine

variable {occurrences : List Occurrence} {settings : Settings}

theorem parse_empty (arguments : List Argument) :
    Settings.parse arguments .empty = (CommandLine.parse arguments).map Given.settings := by
  simp only [Settings.parse, Given.putVariables_empty]
  cases CommandLine.parse arguments <;> rfl

theorem parse_line_eq_ok_iff (proper : ∀ occurrence ∈ occurrences, occurrence.IsProper)
    (ended : Bool) :
    Settings.parse (line occurrences ended) .empty = .ok settings ↔
      Occurrence.Give occurrences settings := by
  rw [parse_empty, Except.map_eq_ok_iff]
  constructor
  · rintro ⟨given, read, rfl⟩
    have assigns := (map_value?_parse_line_eq_ok_iff proper ended).1
      (congrArg (Except.map Given.value?) read)
    exact Occurrence.give_of_assigns proper assigns
  · intro give
    have values := (map_value?_parse_line_eq_ok_iff proper ended).2 give.assigns
    obtain ⟨given, read, same⟩ := Except.map_eq_ok_iff.1 values
    exact ⟨given, read, give.eq_settings same⟩

/-- Without an environment, settings are read from the command lines whose options give them, and
from no others. What is read depends on which option has which value only: neither on the order of
the options nor on the way in which they are written. -/
theorem parse_line_denotes :
    (∀ (arguments : List Argument) (settings : Settings),
      Settings.parse arguments .empty = .ok settings ↔
        ∃ occurrences ended, arguments = line occurrences ended ∧
          Occurrence.Give occurrences settings) ∧
    ∀ one other : List Occurrence, (∀ occurrence ∈ one, occurrence.IsProper) →
      (∀ occurrence ∈ other, occurrence.IsProper) →
      (one.map Occurrence.assigned).Perm (other.map Occurrence.assigned) →
      ∀ (ended ended' : Bool) (settings : Settings),
        Settings.parse (line one ended) .empty = .ok settings ↔
          Settings.parse (line other ended') .empty = .ok settings := by
  refine ⟨fun arguments settings => ⟨fun read => ?_, ?_⟩, ?_⟩
  · rw [parse_empty] at read
    obtain ⟨given, line_read, rfl⟩ := Except.map_eq_ok_iff.1 read
    obtain ⟨occurrences, ended, proper, rfl⟩ := isLine_of_parse line_read
    exact ⟨occurrences, ended, rfl, (parse_line_eq_ok_iff proper ended).1
      (by rw [parse_empty, line_read]; rfl)⟩
  · rintro ⟨occurrences, ended, rfl, give⟩
    exact (parse_line_eq_ok_iff give.proper ended).2 give
  · intro one other proper_one proper_other same ended ended' settings
    rw [parse_line_eq_ok_iff proper_one, parse_line_eq_ok_iff proper_other]
    exact ⟨fun give => give.of_perm same proper_other,
      fun give => give.of_perm same.symm proper_one⟩

/-- The options may change places, and their values may change between arguments. -/
theorem parse_line_denotes_exchanged_options :
    let settings : Settings := { logFilter := "-", workers := 8 }
    Settings.parse (["--log-level", "-", "--callback-workers=+08"].map .ofText) .empty =
        .ok settings ∧
      Settings.parse (["--callback-workers", "+08", "--log-level=-", "--"].map .ofText) .empty =
        .ok settings := by
  intro settings
  let filter (apart : Bool) : Occurrence := ⟨.logFilter, .ofText "-", apart⟩
  let workers (apart : Bool) : Occurrence := ⟨.workers, .ofText "+08", apart⟩
  have first_line : ["--log-level", "-", "--callback-workers=+08"].map .ofText =
      line [filter true, workers false] false := by
    decide +kernel
  have second_line : ["--callback-workers", "+08", "--log-level=-", "--"].map .ofText =
      line [workers true, filter false] true := by
    decide +kernel
  have proper_filter (apart : Bool) : (filter apart).IsProper := fun _ => .inl rfl
  have no_dash : (Argument.ofText "+08").head? ≠ some (some '-') := by
    decide
  have proper_workers (apart : Bool) : (workers apart).IsProper := fun _ => .inr no_dash
  have first : Settings.parse (line [filter true, workers false] false) .empty = .ok settings := by
    rw [← first_line]
    decide +kernel +revert
  rw [first_line, second_line]
  exact ⟨first, (parse_line_denotes.2 [filter true, workers false] [workers true, filter false]
    (by simp [proper_filter, proper_workers]) (by simp [proper_filter, proper_workers])
    (List.Perm.swap _ _ _) false true settings).1 first⟩

end Settings

end Attribution
