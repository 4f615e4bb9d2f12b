import Attribution.Delivery
import Attribution.SocketAddress
import Attribution.Text.Quoted

/-!
# Settings

What a process is started with. Every setting has a standard value; `Settings.CommandLine` reads
the others from the command line, and `Settings.Environment` from the environment where the
command line is silent.
-/

namespace Attribution

open Attribution.Text

/-- The form of log lines. -/
inductive LogFormat where
  | plain
  | json
  deriving DecidableEq

namespace LogFormat

/-- The form with the given name; case matters. -/
def parse? (text : String) : Option LogFormat :=
  if text = "plain" then some plain
  else if text = "json" then some json
  else none

/-- The form's name. -/
def text : LogFormat → String
  | plain => "plain"
  | json => "json"

/-- The form as it stands in the description of a record. -/
def inspect : LogFormat → String
  | plain => "Plain"
  | json => "Json"

@[simp] theorem parse?_text (format : LogFormat) : parse? format.text = some format := by
  cases format <;> simp [parse?, text]

end LogFormat

/-- Everything that a process is started with. -/
structure Settings where
  /-- Which log lines are written. -/
  logFilter : String := "sensor=info,warn"
  logFormat : LogFormat := .plain
  /-- Where requests over HTTP are taken. -/
  adminAddress : SocketAddress := .v4 (.of 0 0 0 0) 9090
  /-- The number of jobs that may wait for delivery. -/
  queueCapacity : UInt64 := 1024
  /-- The number of delivery workers. -/
  workers : UInt64 := 2
  /-- How long a worker waits on a full channel, in milliseconds. -/
  sendTimeout : UInt64 := 5000
  deriving DecidableEq

/-- One of the settings. -/
inductive Setting where
  | logFilter
  | logFormat
  | adminAddress
  | queueCapacity
  | workers
  | sendTimeout
  deriving DecidableEq

/-- Why settings cannot be read. -/
inductive SettingsError where
  /-- Something on the command line is neither an option nor the value of one. -/
  | unexpected
  /-- An option has no value, or none of those it can choose from. -/
  | noChoice
  /-- A value cannot be read as what the setting is. -/
  | malformed
  /-- A value is not text. -/
  | undecodable
  /-- An option is given twice. -/
  | repeated
  deriving DecidableEq

namespace SettingsError

/-- What is said of the error. -/
def message : SettingsError → String
  | unexpected => "error: unexpected argument found\n"
  | noChoice => "error: one of the values isn't valid for an argument\n"
  | malformed => "error: invalid value for one of the arguments\n"
  | undecodable => "error: invalid UTF-8 was detected in one or more arguments\n"
  | repeated =>
    "error: an argument cannot be used with one or more of the other specified arguments\n"

/-- The exit code of a process that cannot read its settings. -/
def exitCode : Nat := 2

end SettingsError

namespace Settings

/-- The limits of the delivery. -/
def limits (settings : Settings) : Limits where
  queueCapacity := settings.queueCapacity.toNat
  workers := settings.workers.toNat
  sendTimeout := settings.sendTimeout.toNat

/-- A number as it stands in the description of a record. -/
def inspectNumber (number : UInt64) : String :=
  String.ofList (decimal number.toNat)

/-- The settings as the description of a record, on one line. -/
def inspect (settings : Settings) : String :=
  "Args \x7b log_level: " ++ quote settings.logFilter ++
    ", log_format: " ++ settings.logFormat.inspect ++
    ", admin_addr: " ++ settings.adminAddress.text ++
    ", callback_queue_capacity: " ++ inspectNumber settings.queueCapacity ++
    ", callback_workers: " ++ inspectNumber settings.workers ++
    ", callback_send_timeout_ms: " ++ inspectNumber settings.sendTimeout ++ " \x7d"

end Settings

namespace Setting

/-- All settings. -/
def all : List Setting :=
  [logFilter, logFormat, adminAddress, queueCapacity, workers, sendTimeout]

/-- The name of the option for the setting. -/
def optionName : Setting → String
  | logFilter => "log-level"
  | logFormat => "log-format"
  | adminAddress => "admin-addr"
  | queueCapacity => "callback-queue-capacity"
  | workers => "callback-workers"
  | sendTimeout => "callback-send-timeout-ms"

/-- The environment variable for the setting, if it has one. -/
def variableName? : Setting → Option String
  | logFilter => some "SENSOR_LOG"
  | queueCapacity => some "SENSOR_CALLBACK_QUEUE_CAPACITY"
  | workers => some "SENSOR_CALLBACK_WORKERS"
  | sendTimeout => some "SENSOR_CALLBACK_SEND_TIMEOUT_MS"
  | logFormat => none
  | adminAddress => none

end Setting

end Attribution
