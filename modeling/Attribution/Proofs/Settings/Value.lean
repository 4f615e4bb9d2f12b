import Attribution.Proofs.Address.Socket
import Attribution.Proofs.Text.Reading
import Attribution.Settings.Environment
import Mathlib.Logic.Function.Basic

/-!
# The values of settings

The six settings have values of different kinds, but are read in the same way: a text denotes a
value of a setting or it does not, and a value that was read is the value of its setting and of no
other. With a type for values of all kinds this is said once for all settings. Settings have no more
to them than the values of the six.
-/

namespace Attribution

open Attribution.Text

/-- A value that some setting can have. -/
inductive SettingValue where
  | text (text : String)
  | logFormat (format : LogFormat)
  | socketAddress (socket : SocketAddress)
  | number (number : UInt64)
  deriving DecidableEq

namespace Setting

/-- The text denotes the value of the setting: any text is a log filter, a log format has a name,
and the numbers are below `2 ^ 64`, perhaps with a plus sign. -/
def Denotes (setting : Setting) (text : String) (value : SettingValue) : Prop :=
  match setting with
  | .logFilter => value = .text text
  | .logFormat =>
    (text = "plain" ∧ value = .logFormat .plain) ∨ (text = "json" ∧ value = .logFormat .json)
  | .adminAddress =>
    ∃ socket, SocketAddress.Denotes text.toList socket ∧ value = .socketAddress socket
  | .queueCapacity | .workers | .sendTimeout =>
    ∃ number : UInt64, IsUnsigned text.toList number.toNat ∧ value = .number number

/-- Reads a value of the setting. -/
def read (setting : Setting) (value : Argument) : Except SettingsError SettingValue :=
  match setting with
  | .logFilter => (Given.textOf value).map .text
  | .logFormat => (Given.logFormatOf value).map .logFormat
  | .adminAddress => (Given.socketAddressOf value).map .socketAddress
  | .queueCapacity | .workers | .sendTimeout => (Given.numberOf value).map .number

end Setting

namespace Settings

/-- The value of a setting. -/
def value (settings : Settings) : Setting → SettingValue
  | .logFilter => .text settings.logFilter
  | .logFormat => .logFormat settings.logFormat
  | .adminAddress => .socketAddress settings.adminAddress
  | .queueCapacity => .number settings.queueCapacity
  | .workers => .number settings.workers
  | .sendTimeout => .number settings.sendTimeout

/-- The settings of a process that is given none. -/
def standard : Settings := {}

theorem eq_of_value_eq {one other : Settings}
    (same : ∀ setting, one.value setting = other.value setting) : one = other := by
  have := same .logFilter
  have := same .logFormat
  have := same .adminAddress
  have := same .queueCapacity
  have := same .workers
  have := same .sendTimeout
  cases one
  cases other
  simp_all [value]

end Settings

/-! ### Texts -/

namespace Argument

theorem mapM_id_eq_some_iff {argument : Argument} {chars : List Char} :
    argument.mapM (id : Option Char → Option Char) = some chars ↔ argument = chars.map some := by
  rw [mapM_eq_some_iff_forall₂ (f := id) (R := fun c char => c = some char) fun _ _ => Iff.rfl]
  induction argument generalizing chars with
  | nil => simp
  | cons c more ih =>
    cases chars <;> simp [ih]

theorem text?_eq_some_iff {argument : Argument} {text : String} :
    argument.text? = some text ↔ argument = ofText text := by
  constructor
  · intro decoded
    obtain ⟨chars, all, rfl⟩ := Option.map_eq_some_iff.1 decoded
    rw [ofText, String.toList_ofList]
    exact mapM_id_eq_some_iff.1 all
  · rintro rfl
    exact text?_ofText text

end Argument

/-! ### Reading a value -/

namespace Given

theorem orFail_eq_ok_iff {α : Type} {error : SettingsError} {found : Option α} {value : α} :
    orFail error found = .ok value ↔ found = some value := by
  cases found <;> simp [orFail]

theorem textOf_eq_ok_iff {argument : Argument} {text : String} :
    textOf argument = .ok text ↔ argument = .ofText text := by
  rw [textOf, orFail_eq_ok_iff, Argument.text?_eq_some_iff]

theorem number?_eq_some_iff {text : List Char} {number : UInt64} :
    number? text = some number ↔ IsUnsigned text number.toNat := by
  simp only [number?, Option.map_eq_some_iff, unsignedBelow?_eq_some_iff]
  constructor
  · rintro ⟨n, ⟨unsigned, small⟩, rfl⟩
    rwa [UInt64.toNat_ofNat_of_lt' small]
  · exact fun unsigned => ⟨number.toNat, ⟨unsigned, number.toNat_lt_size⟩, UInt64.ofNat_toNat⟩

theorem numberOf_eq_ok_iff {argument : Argument} {number : UInt64} :
    numberOf argument = .ok number ↔
      ∃ text, argument = .ofText text ∧ IsUnsigned text.toList number.toNat := by
  simp only [numberOf, Except.bind_eq_ok_iff, textOf_eq_ok_iff, orFail_eq_ok_iff,
    number?_eq_some_iff]

theorem socketAddressOf_eq_ok_iff {argument : Argument} {socket : SocketAddress} :
    socketAddressOf argument = .ok socket ↔
      ∃ text, argument = .ofText text ∧ SocketAddress.Denotes text.toList socket := by
  simp only [socketAddressOf, Except.bind_eq_ok_iff, textOf_eq_ok_iff, orFail_eq_ok_iff,
    SocketAddress.parse?, SocketAddress.ofChars?_eq_some_iff]

theorem logFormatOf_eq_ok_iff {argument : Argument} {format : LogFormat} :
    logFormatOf argument = .ok format ↔ argument = .ofText format.text := by
  simp only [logFormatOf, orFail_eq_ok_iff, Option.bind_eq_some_iff, Argument.text?_eq_some_iff]
  constructor
  · rintro ⟨text, rfl, named⟩
    rw [LogFormat.parse?] at named
    split at named
    · next plain => cases named; rw [plain]; rfl
    · split at named
      · next json => cases named; rw [json]; rfl
      · cases named
  · rintro rfl
    exact ⟨format.text, rfl, LogFormat.parse?_text format⟩

end Given

namespace Setting

/-- An argument is read as a value of a setting exactly if it is text and denotes it. -/
theorem read_eq_ok_iff {setting : Setting} {argument : Argument} {value : SettingValue} :
    setting.read argument = .ok value ↔
      ∃ text, argument = .ofText text ∧ setting.Denotes text value := by
  cases setting with
  | logFilter =>
    simp only [read, Denotes, Except.map_eq_ok_iff, Given.textOf_eq_ok_iff, eq_comm (b := value)]
  | logFormat =>
    simp only [read, Denotes, Except.map_eq_ok_iff, Given.logFormatOf_eq_ok_iff]
    constructor
    · rintro ⟨format, rfl, rfl⟩
      refine ⟨format.text, rfl, ?_⟩
      cases format <;> simp [LogFormat.text]
    · rintro ⟨text, rfl, ⟨rfl, rfl⟩ | ⟨rfl, rfl⟩⟩
      · exact ⟨.plain, rfl, rfl⟩
      · exact ⟨.json, rfl, rfl⟩
  | adminAddress =>
    simp only [read, Denotes, Except.map_eq_ok_iff, Given.socketAddressOf_eq_ok_iff]
    constructor
    · rintro ⟨socket, ⟨text, rfl, denotes⟩, rfl⟩
      exact ⟨text, rfl, socket, denotes, rfl⟩
    · rintro ⟨text, rfl, socket, denotes, rfl⟩
      exact ⟨socket, ⟨text, rfl, denotes⟩, rfl⟩
  | queueCapacity | workers | sendTimeout =>
    simp only [read, Denotes, Except.map_eq_ok_iff, Given.numberOf_eq_ok_iff]
    constructor
    · rintro ⟨number, ⟨text, rfl, unsigned⟩, rfl⟩
      exact ⟨text, rfl, number, unsigned, rfl⟩
    · rintro ⟨text, rfl, number, unsigned, rfl⟩
      exact ⟨number, ⟨text, rfl, unsigned⟩, rfl⟩

end Setting

/-! ### Giving a value -/

namespace Given

/-- The value that is given for a setting, if one is. -/
def value? (given : Given) : Setting → Option SettingValue
  | .logFilter => given.logFilter.map .text
  | .logFormat => given.logFormat.map .logFormat
  | .adminAddress => given.adminAddress.map .socketAddress
  | .queueCapacity => given.queueCapacity.map .number
  | .workers => given.workers.map .number
  | .sendTimeout => given.sendTimeout.map .number

variable {given : Given} {setting : Setting} {argument : Argument}
  {values : Setting → Option SettingValue}

theorem has_eq_isSome (given : Given) (setting : Setting) :
    given.has setting = (given.value? setting).isSome := by
  cases setting <;> simp [has, value?]

@[simp] theorem value?_nothing : ({} : Given).value? = fun _ => none := by
  funext setting
  cases setting <;> rfl

/-- A setting has the value given for it, and without one its standard value. -/
theorem value_settings (given : Given) (setting : Setting) :
    given.settings.value setting =
      (given.value? setting).getD (Settings.standard.value setting) := by
  obtain ⟨logFilter, logFormat, adminAddress, queueCapacity, workers, sendTimeout⟩ := given
  cases setting with
  | logFilter => cases logFilter <;> rfl
  | logFormat => cases logFormat <;> rfl
  | adminAddress => cases adminAddress <;> rfl
  | queueCapacity => cases queueCapacity <;> rfl
  | workers => cases workers <;> rfl
  | sendTimeout => cases sendTimeout <;> rfl

/-- A value that was read replaces that of its setting. -/
theorem map_value?_put (given : Given) (setting : Setting) (argument : Argument) :
    (given.put setting argument).map value? =
      (setting.read argument).map fun value =>
        Function.update given.value? setting (some value) := by
  cases setting with
  | logFilter =>
    rw [put, Setting.read]
    cases textOf argument with
    | error => rfl
    | ok => exact congrArg Except.ok (funext fun other => by cases other <;> rfl)
  | logFormat =>
    rw [put, Setting.read]
    cases logFormatOf argument with
    | error => rfl
    | ok => exact congrArg Except.ok (funext fun other => by cases other <;> rfl)
  | adminAddress =>
    rw [put, Setting.read]
    cases socketAddressOf argument with
    | error => rfl
    | ok => exact congrArg Except.ok (funext fun other => by cases other <;> rfl)
  | queueCapacity | workers | sendTimeout =>
    rw [put, Setting.read]
    cases numberOf argument with
    | error => rfl
    | ok => exact congrArg Except.ok (funext fun other => by cases other <;> rfl)

theorem map_value?_put_eq_ok_iff :
    (given.put setting argument).map value? = .ok values ↔
      ∃ value, setting.read argument = .ok value ∧
        values = Function.update given.value? setting (some value) := by
  rw [map_value?_put, Except.map_eq_ok_iff]
  simp only [eq_comm (a := values)]

theorem map_value?_putNew_eq_ok_iff :
    (given.putNew setting argument).map value? = .ok values ↔
      given.value? setting = none ∧ ∃ value, setting.read argument = .ok value ∧
        values = Function.update given.value? setting (some value) := by
  rw [putNew, has_eq_isSome]
  split
  · next there => simp [Except.map, Option.isSome_iff_ne_none.1 there]
  · next absent => simp [map_value?_put_eq_ok_iff, Option.not_isSome_iff_eq_none.1 absent]

end Given

end Attribution
