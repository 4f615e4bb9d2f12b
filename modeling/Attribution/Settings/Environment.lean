import Attribution.Settings.CommandLine

/-!
# The environment

Some settings can also be given by environment variables. The command line comes first: it is
read as if there were no environment, and a variable is looked at only if the command line gives
no value for its setting. So an error on the command line does not depend on the environment,
and a variable that is hidden by an option may hold anything.
-/

namespace Attribution

/-- The variables of an environment, by name. Like an argument, a value need not be text. -/
abbrev Environment := String → Option Argument

namespace Environment

/-- The environment without variables. -/
def empty : Environment := fun _ => none

/-- The environment with the listed variables, all of them text; of several with one name the first
counts. -/
def ofList (assigned : List (String × String)) : Environment :=
  fun name => (assigned.lookup name).map Argument.ofText

end Environment

namespace Given

/-- What the environment gives for a setting, if it gives anything. -/
def variableValue? (environment : Environment) (setting : Setting) : Option Argument :=
  setting.variableName?.bind environment

/-- Reads a setting from the environment, unless it has a value already. -/
def putVariable (environment : Environment) (given : Given) (setting : Setting) :
    Except SettingsError Given :=
  if given.has setting then .ok given
  else
    match variableValue? environment setting with
    | some value => given.put setting value
    | none => .ok given

/-- Reads several settings from the environment, in the order given. -/
def putVariables (environment : Environment) (given : Given) :
    List Setting → Except SettingsError Given
  | [] => .ok given
  | setting :: more =>
    (given.putVariable environment setting).bind fun given =>
      putVariables environment given more

end Given

namespace Settings

/-- The settings given by a command line, without the name of the program, and an environment. -/
def parse (arguments : List Argument) (environment : Environment) :
    Except SettingsError Settings :=
  (CommandLine.parse arguments).bind fun given =>
    (given.putVariables environment Setting.all).map Given.settings

end Settings

end Attribution
