import Attribution.Boot
import Attribution.Settings.Environment

/-!
# The command

Reads the settings, builds the service and brings it up. Requests come on standard input, each
on a line of its own as a method and a target with a space between them; answers go to standard
output. The process stops at the end of the input. Requests bring no updates, so that nothing is
left to be delivered then.
-/

namespace Attribution.Command

/-- The environment variables that settings are read from. -/
def readEnvironment : IO Environment := do
  let mut assigned : List (String × String) := []
  for name in Setting.all.filterMap Setting.variableName? do
    if let some value ← IO.getEnv name then
      assigned := (name, value) :: assigned
  return .ofList assigned

/-- The action that a line asks for. -/
def actionOf (line : List Char) : Action :=
  match Text.cutFirst ' ' line with
  | some (method, target) => .request (String.ofList method) (String.ofList target)
  | none => .request (String.ofList line) ""

/-- What is written for an answer. -/
def reply : Answer → String
  | .response response => response.text
  | _ => "bad request\n"

/-- Answers requests until the input ends. -/
partial def serve (service : Service) (input output : IO.FS.Stream) : IO Unit := do
  let line ← input.getLine
  if line.isEmpty then return
  let reaction := service.step (actionOf (line.toList.takeWhile fun c => c ≠ '\n' ∧ c ≠ '\r'))
  output.putStr (reply reaction.answer)
  output.flush
  serve reaction.service input output

/-- Ends the process with a message. -/
def fail (message : String) (code : Nat) : IO UInt32 := do
  (← IO.getStderr).putStr message
  return UInt32.ofNat code

end Attribution.Command

open Attribution in
/-- Runs the process until its input ends. -/
def main (arguments : List String) : IO UInt32 := do
  let environment ← Command.readEnvironment
  match Settings.parse (arguments.map Argument.ofText) environment with
  | .error error => Command.fail error.message SettingsError.exitCode
  | .ok settings =>
    match Boot.build settings with
    | .error failure => Command.fail (failure.message ++ "\n") failure.exitCode
    | .ok service =>
      Command.serve (service.run Boot.startup) (← IO.getStdin) (← IO.getStdout)
      return 0
