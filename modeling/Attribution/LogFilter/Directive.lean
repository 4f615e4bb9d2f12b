import Attribution.LogFilter.FieldMatch
import Attribution.Text.BytePosition

/-!
# Directives

A directive says what is logged from where: a level alone, or a target, perhaps with a span in
brackets and fields of it in braces, and a level after an equals sign. A name that is no level
is a target; a level that is left out stands for all of them.

A directive is read from its first character to its last that is not blank, and places in it are
counted from that first character on. The text at a place is nevertheless taken from the whole
directive, blanks included. So a blank in front is harmless for a name alone, but puts a level
or a field out of place.
-/

namespace Attribution.LogFilter

open Attribution.Text

/-- Why a filter cannot be read. -/
inductive Problem where
  /-- Something is where it cannot be, or is missing. -/
  | directive
  /-- There is no such level. -/
  | level
  /-- The value of a field cannot be used. -/
  | field (error : PatternError)
  /-- A directive would have to be cut inside a character. -/
  | misplaced (misplaced : Misplaced)
  deriving DecidableEq

/-- What is said of a filter that cannot be read. -/
def Problem.message : Problem → String
  | directive => "invalid filter directive"
  | level =>
    "error parsing level filter: expected one of \"off\", \"error\", \"warn\", \"info\", " ++
      "\"debug\", \"trace\", or a number 0-5"
  | field error => "invalid field filter: " ++ error.message
  | misplaced place => place.message

/-- The levels by name, the quietest first. -/
def levelNames : List String := ["off", "error", "warn", "info", "debug", "trace"]

/-- Whether a text is a level: a name in any ASCII case, or a number up to five. -/
def isLevel (text : List Char) : Bool :=
  levelNames.any (fun name => name.toList = text.map Char.toLower) ||
    (unsignedBelow? 6 text).isSome

/-- What is being read, and at which place it began. -/
inductive Stage where
  | start
  /-- A level or the name of a target. -/
  | name
  | span (start : Nat)
  | field (start : Nat)
  /-- After the fields. -/
  | fields
  /-- After the span. -/
  | target
  | level (start : Nat)
  deriving DecidableEq

/-- What is taken from the directive between two places. -/
def excerpt (directive : List Char) (start stop : Nat) : Except Problem (List Char) :=
  (between start stop directive).mapError .misplaced

/-- Checks a field, of which there has to be something. -/
def checkFieldText (text : List Char) : Except Problem Unit :=
  if text = [] then .error .directive else (checkField text).mapError .field

/-- Checks a level, which may be left out. -/
def checkLevelText (text : List Char) : Except Problem Unit :=
  if text = [] || isLevel text then .ok () else .error .level

/-- Whether a name can begin with a character. -/
def beginsName (c : Char) : Bool :=
  "-:_".toList.contains c || isAlphanumeric c

namespace Stage

/-- Reads one character, which stands at the given place. -/
def next (directive : List Char) (place : Nat) (c : Char) : Stage → Except Problem Stage
  | start =>
    if c = '[' then .ok (span (place + 1))
    else if beginsName c then .ok name
    else .error .directive
  | name =>
    if c = '=' then (excerpt directive 0 place).map fun _ => level (place + 1)
    else if c = '[' then (excerpt directive 0 place).map fun _ => span (place + 1)
    else .ok name
  | span first =>
    if c = ']' then (excerpt directive first place).map fun _ => target
    else if c = '\x7b' then (excerpt directive first place).map fun _ => field (place + 1)
    else .ok (span first)
  | field first =>
    if c = '\x7d' then
      ((excerpt directive first place).bind checkFieldText).map fun _ => fields
    else .ok (field first)
  | fields => if c = ']' then .ok target else .error .directive
  | target => if c = '=' then .ok (level (place + 1)) else .error .directive
  | level first => .ok (level first)

/-- Reads the characters that stand from the given place on. -/
def readFrom (directive : List Char) (place : Nat) (stage : Stage) :
    List Char → Except Problem Stage
  | [] => .ok stage
  | c :: rest =>
    (stage.next directive place c).bind fun stage =>
      stage.readFrom directive (place + c.utf8Size) rest

/-- Ends a directive. -/
def finish (directive : List Char) : Stage → Except Problem Unit
  | name | target => .ok ()
  | level first =>
    ((fromByte first directive).mapError Problem.misplaced).bind checkLevelText
  | start | span _ | field _ | fields => .error .directive

end Stage

/-- Whether a directive can be read. -/
def checkDirective (directive : List Char) : Except Problem Unit :=
  (Stage.start.readFrom directive 0 (trimBlanks directive)).bind (Stage.finish directive)

end Attribution.LogFilter
