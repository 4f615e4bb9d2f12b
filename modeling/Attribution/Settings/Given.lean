import Attribution.Settings
import Attribution.Settings.Argument

/-!
# Values given for settings

The values that have been given so far, each at most once. `Given.put` reads a value for a
setting: any text for the log filter, a name for the log format, a socket address, or an
unsigned number of 64 bits, which may have a plus sign and leading zeros. What was not given has
its standard value.
-/

namespace Attribution

open Attribution.Text

/-- The values given so far. -/
structure Given where
  logFilter : Option String := none
  logFormat : Option LogFormat := none
  adminAddress : Option SocketAddress := none
  queueCapacity : Option UInt64 := none
  workers : Option UInt64 := none
  sendTimeout : Option UInt64 := none
  deriving DecidableEq

namespace Given

/-- Whether there is a value for the setting. -/
def has (given : Given) : Setting → Bool
  | .logFilter => given.logFilter.isSome
  | .logFormat => given.logFormat.isSome
  | .adminAddress => given.adminAddress.isSome
  | .queueCapacity => given.queueCapacity.isSome
  | .workers => given.workers.isSome
  | .sendTimeout => given.sendTimeout.isSome

/-- Reads an unsigned number of 64 bits. -/
def number? (text : List Char) : Option UInt64 :=
  (unsignedBelow? UInt64.size text).map UInt64.ofNat

/-- A value that has to be there. -/
def orFail {α : Type} (error : SettingsError) : Option α → Except SettingsError α
  | some value => .ok value
  | none => .error error

/-- A value that is text. -/
def textOf (value : Argument) : Except SettingsError String :=
  orFail .undecodable value.text?

/-- A value that is a number. -/
def numberOf (value : Argument) : Except SettingsError UInt64 :=
  (textOf value).bind fun text => orFail .malformed (number? text.toList)

/-- A value that is a socket address. -/
def socketAddressOf (value : Argument) : Except SettingsError SocketAddress :=
  (textOf value).bind fun text => orFail .malformed (SocketAddress.parse? text)

/-- A value that is one of the names of a log format; what is not text is none of them. -/
def logFormatOf (value : Argument) : Except SettingsError LogFormat :=
  orFail .noChoice (value.text?.bind LogFormat.parse?)

/-- Reads a value for a setting, whether or not there was one before. -/
def put (given : Given) (setting : Setting) (value : Argument) : Except SettingsError Given :=
  match setting with
  | .logFilter => (textOf value).map fun v => { given with logFilter := some v }
  | .logFormat => (logFormatOf value).map fun v => { given with logFormat := some v }
  | .adminAddress => (socketAddressOf value).map fun v => { given with adminAddress := some v }
  | .queueCapacity => (numberOf value).map fun v => { given with queueCapacity := some v }
  | .workers => (numberOf value).map fun v => { given with workers := some v }
  | .sendTimeout => (numberOf value).map fun v => { given with sendTimeout := some v }

/-- Reads a value for a setting that has none yet. -/
def putNew (given : Given) (setting : Setting) (value : Argument) : Except SettingsError Given :=
  if given.has setting then .error .repeated else given.put setting value

/-- The settings: what was given, and the standard values for the rest. -/
def settings (given : Given) : Settings :=
  let standard : Settings := {}
  { logFilter := given.logFilter.getD standard.logFilter
    logFormat := given.logFormat.getD standard.logFormat
    adminAddress := given.adminAddress.getD standard.adminAddress
    queueCapacity := given.queueCapacity.getD standard.queueCapacity
    workers := given.workers.getD standard.workers
    sendTimeout := given.sendTimeout.getD standard.sendTimeout }

end Given

end Attribution
