import Attribution.Settings.Given
import Attribution.Text.Cut

/-!
# The command line

A command line is a sequence of options, each with a value: `--option=value` in one argument, or
`--option` and the value in two. A value of its own may not begin with a dash, unless it is a
dash and nothing else. Two dashes alone end the options; nothing may follow them.

Arguments are read from left to right, and the first problem found is the error. A value in an
argument of its own is looked at only when the next option comes, or at the end; so whatever is
unexpected in between is found before it.
-/

namespace Attribution

open Attribution.Text

namespace CommandLine

/-- What an argument is by its form. -/
inductive Form where
  /-- Two dashes alone. -/
  | endOfOptions
  /-- Two dashes, a name, and perhaps a value after an equals sign. -/
  | option (name : Argument) (value : Option Argument)
  /-- A dash, and something other than a dash. -/
  | dashed
  /-- Anything else, the single dash among it. -/
  | plain
  deriving DecidableEq

/-- The form of an argument. -/
def form : Argument → Form
  | [some '-', some '-'] => .endOfOptions
  | some '-' :: some '-' :: rest =>
    match cutFirst (some '=') rest with
    | some (name, value) => .option name (some value)
    | none => .option rest none
  | [some '-'] => .plain
  | some '-' :: _ => .dashed
  | _ => .plain

/-- The setting whose option has the given name; names are not abbreviated. -/
def settingNamed? (name : Argument) : Option Setting :=
  Setting.all.find? fun setting => Argument.ofText setting.optionName = name

/-- An option whose value has not been looked at yet. -/
structure Open where
  setting : Setting
  /-- The value, once it has come. -/
  value : Option Argument
  deriving DecidableEq

/-- How far a command line has been read. -/
structure Progress where
  given : Given := {}
  /-- The option read last, unless its value has been looked at. -/
  opened : Option Open := none
  /-- Whether the options have ended. -/
  ended : Bool := false
  deriving DecidableEq

namespace Progress

/-- Looks at the value of the option read last. -/
def close (progress : Progress) : Except SettingsError Given :=
  match progress.opened with
  | none => .ok progress.given
  | some ⟨_, none⟩ => .error .noChoice
  | some ⟨setting, some value⟩ => progress.given.putNew setting value

/-- Reads an option, after looking at the value of the one before. -/
def readOption (progress : Progress) (setting : Setting) (value : Option Argument) :
    Except SettingsError Progress :=
  progress.close.bind fun given =>
    match value with
    | some value => (given.putNew setting value).map fun given => { given }
    | none => .ok { given, opened := some ⟨setting, none⟩ }

/-- Reads an argument that can only be the value of the option read last. -/
def readValue (progress : Progress) (argument : Argument) : Except SettingsError Progress :=
  match progress.opened with
  | some ⟨setting, none⟩ => .ok { progress with opened := some ⟨setting, some argument⟩ }
  | _ => .error .unexpected

/-- Reads one argument. -/
def read (progress : Progress) (argument : Argument) : Except SettingsError Progress :=
  if progress.ended then .error .unexpected
  else
    match form argument with
    | .endOfOptions => .ok { progress with ended := true }
    | .dashed => .error .unexpected
    | .plain => progress.readValue argument
    | .option name value =>
      match settingNamed? name with
      | some setting => progress.readOption setting value
      | none => .error .unexpected

/-- Reads the arguments in turn. -/
def readAll (progress : Progress) : List Argument → Except SettingsError Progress
  | [] => .ok progress
  | argument :: more => (progress.read argument).bind fun progress => progress.readAll more

end Progress

/-- The values that a command line gives. The name of the program is not part of it. -/
def parse (arguments : List Argument) : Except SettingsError Given :=
  (Progress.readAll {} arguments).bind Progress.close

end CommandLine

end Attribution
