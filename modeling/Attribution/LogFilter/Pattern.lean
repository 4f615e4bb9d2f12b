import Attribution.LogFilter.Brackets
import Attribution.Text.Alphanumeric

/-!
# Patterns

A field of a span is matched by a pattern: a regular expression with groups, alternatives,
repetitions, sets in brackets, escapes and flags. Only whether a pattern can be used matters
here. `Pattern.check` reads it once from left to right and keeps the groups that are open with
what has been read of each: for every part how many levels it has, and whether it can be
repeated.

A repetition with a count cannot be written, for its closing brace would end the list of fields.
-/

namespace Attribution.LogFilter

open Attribution.Text

/-- The levels that there may be in a pattern. A group, a repetition and a set are one level above
what they hold. -/
def greatestNesting : Nat := 250

/-- Why a pattern cannot be used. -/
inductive PatternError where
  /-- It cannot be read. -/
  | illegible
  /-- It looks for the edge of a word in the sense of all scripts. -/
  | wordEdge
  deriving DecidableEq

/-- What is said of a pattern that cannot be used. -/
def PatternError.message : PatternError → String
  | illegible => "error building NFA"
  | wordEdge =>
    "unsupported regex feature for DFAs: cannot build DFAs for regexes with Unicode word " ++
      "boundaries; switch to ASCII word boundaries, or heuristically enable Unicode word " ++
      "boundaries or use a different regex engine"

/-- A part of a pattern. -/
structure Part where
  /-- The levels of the part. -/
  levels : Nat := 0
  /-- Whether the part can be repeated, which flags cannot. -/
  repeatable : Bool := true
  deriving DecidableEq

/-- What has been read of a group, or of the pattern outside all groups. -/
structure Branches where
  /-- The levels of each alternative that has ended. -/
  ended : List Nat := []
  /-- The parts of the present alternative, the last part first. -/
  parts : List Part := []
  deriving DecidableEq

namespace Branches

/-- Takes in a part. -/
def add (branches : Branches) (part : Part) : Branches :=
  { branches with parts := part :: branches.parts }

/-- The levels of the present alternative. -/
def present (branches : Branches) : Nat :=
  nestedTogether (branches.parts.map Part.levels)

/-- Begins another alternative. -/
def next (branches : Branches) : Branches :=
  { ended := branches.present :: branches.ended }

/-- The levels of all that has been read. -/
def levels (branches : Branches) : Nat :=
  nestedTogether (branches.present :: branches.ended)

/-- Repeats the last part. -/
def repeat? (branches : Branches) : Option Branches :=
  match branches.parts with
  | part :: parts =>
    if part.repeatable then
      some { branches with parts := { levels := part.levels + 1 } :: parts }
    else none
  | [] => none

end Branches

/-- How far a pattern has been read. -/
structure Pattern where
  flags : Flags := {}
  /-- What has been read of the innermost group. -/
  inner : Branches := {}
  /-- For each open group, from the innermost, what stands before it and the flags there. -/
  outer : List (Branches × Flags) := []
  /-- The names of groups so far. -/
  names : List (List Char) := []
  /-- Whether the edge of a word in the sense of all scripts has been looked for. -/
  wordEdge : Bool := false

namespace Pattern

/-- Whether a text can name a group. -/
def isName : List Char → Bool
  | [] => false
  | c :: rest =>
    (c = '_' || isAlphabetic c) &&
      rest.all fun c => "_.[]".toList.contains c || isAlphanumeric c

/-- Takes in a part. -/
def add (pattern : Pattern) (part : Part) : Pattern :=
  { pattern with inner := pattern.inner.add part }

/-- Opens a group, inside of which the given flags hold. -/
def enter (pattern : Pattern) (flags : Flags) : Pattern :=
  { pattern with flags, inner := {}, outer := (pattern.inner, pattern.flags) :: pattern.outer }

/-- Opens a group whose name comes next, up to an angle bracket. No two groups have one name. -/
def named? (pattern : Pattern) (text : List Char) : Option (Pattern × List Char) :=
  let name := text.takeWhile (· ≠ '>')
  match text.dropWhile (· ≠ '>') with
  | [] => none
  | _ :: rest =>
    if isName name && !pattern.names.contains name then
      some ({ pattern.enter pattern.flags with names := name :: pattern.names }, rest)
    else none

/-- Reads flags, for the group that they open or for what follows in the present one. -/
def flagged? (pattern : Pattern) (text : List Char) : Option (Pattern × List Char) :=
  let isEnd (c : Char) : Bool := c = ':' || c = ')'
  let letters := text.takeWhile (!isEnd ·)
  if Flags.areLegible letters then
    let flags := pattern.flags.setAll letters
    match text.dropWhile (!isEnd ·) with
    | ':' :: rest => some (pattern.enter flags, rest)
    | _ :: rest =>
      if letters = [] then none
      else some ({ pattern with flags }.add { repeatable := false }, rest)
    | [] => none
  else none

/-- Reads the opening of a group after its parenthesis. -/
def group? (pattern : Pattern) (text : List Char) : Option (Pattern × List Char) :=
  match pattern.flags.skip text with
  | '?' :: 'P' :: '<' :: rest | '?' :: '<' :: rest => pattern.named? rest
  | '?' :: rest => pattern.flagged? rest
  | rest => some (pattern.enter pattern.flags, rest)

/-- Closes the innermost group, which is one level above what it holds. -/
def leave? (pattern : Pattern) : Option Pattern :=
  match pattern.outer with
  | [] => none
  | (before, flags) :: outer =>
    some { pattern with flags, outer, inner := before.add { levels := pattern.inner.levels + 1 } }

/-- Repeats the last part. A question mark right after the sign belongs to it. -/
def repeated? (pattern : Pattern) (text : List Char) : Option (Pattern × List Char) :=
  pattern.inner.repeat?.map fun inner =>
    ({ pattern with inner }, if text.head? = some '?' then text.drop 1 else text)

/-- Takes in a part without further levels, if it is admitted. -/
def addIf? (pattern : Pattern) (admitted : Bool) : Option Pattern :=
  if admitted then some (pattern.add {}) else none

/-- Takes in an escape. -/
def escape? (pattern : Pattern) (escape : Escape) : Option Pattern :=
  { pattern with
    wordEdge := pattern.wordEdge || (pattern.flags.unicode && escape = Escape.wordEdge) }.addIf?
      (escape.isAdmitted pattern.flags)

/-- Reads on by one element that begins with the given character. A set in brackets is read in
`limit` steps at most. -/
def next? (pattern : Pattern) (limit : Nat) (c : Char) (rest : List Char) :
    Option (Pattern × List Char) :=
  match c with
  | '(' => pattern.group? rest
  | ')' => pattern.leave?.map fun pattern => (pattern, rest)
  | '|' => some ({ pattern with inner := pattern.inner.next }, rest)
  | '?' | '*' | '+' => pattern.repeated? rest
  | '{' => none
  | '[' =>
    (Brackets.read? pattern.flags limit rest).map fun (levels, rest) =>
      (pattern.add { levels }, rest)
  | '\\' =>
    (Escape.read? pattern.flags rest).bind fun (escape, rest) =>
      (pattern.escape? escape).map fun pattern => (pattern, rest)
  | '.' => (pattern.addIf? pattern.flags.unicode).map fun pattern => (pattern, rest)
  | '^' | '$' => some (pattern.add {}, rest)
  | _ => (pattern.addIf? pattern.flags.admitsCharacters).map fun pattern => (pattern, rest)

/-- Reads a text to its end, in `limit` steps at most. -/
def readUpTo? (pattern : Pattern) : Nat → List Char → Option Pattern
  | 0, _ => none
  | limit + 1, text =>
    match pattern.flags.skip text with
    | [] => some pattern
    | c :: rest =>
      (pattern.next? limit c rest).bind fun (pattern, rest) => pattern.readUpTo? limit rest

/-- Whether a pattern that has been read to its end is whole: all groups are closed, and there
are not too many levels. -/
def isWhole (pattern : Pattern) : Bool :=
  pattern.outer.isEmpty && pattern.inner.levels ≤ greatestNesting

/-- Whether a text can be used as a pattern. Each step takes a character at least, so there are
enough of them. -/
def check (text : List Char) : Except PatternError Unit :=
  match (readUpTo? {} (text.length + 1) text).filter isWhole with
  | none => .error .illegible
  | some pattern => if pattern.wordEdge then .error .wordEdge else .ok ()

end Pattern

end Attribution.LogFilter
