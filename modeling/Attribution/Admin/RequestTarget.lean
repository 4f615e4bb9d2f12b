import Attribution.Text.Cut

/-!
# Request targets

The target of an HTTP request is an absolute path with perhaps a query, an absolute URI, the
authority of one, or an asterisk. Only its path matters here. It is taken as it is written:
nothing is decoded, and neither the query nor the fragment belongs to it. A target that is none
of these forms, or holds a character that the form does not admit, is refused.
-/

namespace Attribution.Admin.RequestTarget

open Attribution.Text

/-- Targets of more bytes are refused. -/
def greatestLength : Nat := 65534

/-- Schemes that are longer are refused. -/
def greatestSchemeLength : Nat := 64

/-- Whether the code of a character lies between two others. -/
def within (c : Char) (first last : Nat) : Bool :=
  first ≤ c.toNat && c.toNat ≤ last

/-- An ASCII letter or digit. -/
def isAlphanumeric (c : Char) : Bool :=
  within c 0x30 0x39 || within c 0x41 0x5a || within c 0x61 0x7a

/-- What a path may hold: besides what need not be encoded there, quotes and braces. -/
def isPathChar (c : Char) : Bool :=
  within c 0x21 0x22 || within c 0x24 0x3b || c = '=' || within c 0x40 0x5f ||
    within c 0x61 0x7e

/-- What a query may hold: all that is visible, except quotes, angle brackets and the mark of the
fragment. -/
def isQueryChar (c : Char) : Bool :=
  c = '!' || within c 0x24 0x3b || c = '=' || within c 0x3f 0x7e

/-- What an authority may hold without further conditions. -/
def isAuthorityChar (c : Char) : Bool :=
  isAlphanumeric c || "!$&'()*+,-.;=_~".toList.contains c

/-- What a scheme may hold. -/
def isSchemeChar (c : Char) : Bool :=
  isAlphanumeric c || "+-.~".toList.contains c

/-- The path in front of a query or a fragment, if both path and query are well formed. The
fragment is not looked at. -/
def pathBefore? : List Char → Option (List Char)
  | [] => some []
  | '#' :: _ => some []
  | '?' :: rest => if (rest.takeWhile (· ≠ '#')).all isQueryChar then some [] else none
  | c :: rest => if isPathChar c then (pathBefore? rest).map (c :: ·) else none

/-- What has been seen of an authority. -/
structure Authority where
  /-- Colons that neither belong to the part before the at sign nor stand in brackets. -/
  colons : Nat := 0
  /-- Whether a bracket was opened. -/
  opened : Bool := false
  /-- Whether the bracket was closed. -/
  closed : Bool := false
  /-- Whether there is a percent sign where none belongs. -/
  percent : Bool := false
  /-- Whether the last character is an at sign. -/
  endsInAt : Bool := false
  deriving DecidableEq

namespace Authority

/-- Takes in a further character, unless it cannot stand there. -/
def next? (seen : Authority) (c : Char) : Option Authority :=
  match c with
  | ':' =>
    if seen.colons < 8 then some { seen with colons := seen.colons + 1, endsInAt := false }
    else none
  | '[' =>
    if seen.percent || seen.opened then none
    else some { seen with opened := true, endsInAt := false }
  | ']' =>
    if !seen.opened || seen.closed then none
    else some { seen with closed := true, colons := 0, percent := false, endsInAt := false }
  | '@' => some { seen with colons := 0, percent := false, endsInAt := true }
  | '%' => some { seen with percent := true, endsInAt := false }
  | c => if isAuthorityChar c then some { seen with endsInAt := false } else none

/-- Whether an authority can end here: its brackets are closed, it has at most one port, something
follows the at sign, and only what stands before it or in brackets is percent-encoded. -/
def complete (seen : Authority) : Bool :=
  seen.opened == seen.closed && seen.colons ≤ 1 && !seen.endsInAt && !seen.percent

/-- What follows the authority at the start of a text, if there is a well-formed one; it may be
empty. -/
def rest? (seen : Authority) : List Char → Option (List Char)
  | [] => if seen.complete then some [] else none
  | c :: text =>
    if c = '/' || c = '?' || c = '#' then if seen.complete then some (c :: text) else none
    else (seen.next? c).bind fun seen => rest? seen text

end Authority

/-- What follows a scheme at the start of a text. -/
inductive Scheme where
  | absent
  | tooLong
  | before (rest : List Char)
  deriving DecidableEq

/-- Looks for a scheme, which ends in a colon and two slashes. It may be empty. -/
def scheme (text : List Char) : Scheme :=
  let name := text.takeWhile isSchemeChar
  match text.drop name.length with
  | ':' :: '/' :: '/' :: rest =>
    if text.length ≤ 3 then .absent
    else if name.length ≤ greatestSchemeLength then .before rest
    else .tooLong
  | _ => .absent

/-- The path of an absolute URI, or the empty path of an authority alone. -/
def pathOfUri? (text : List Char) : Option (List Char) :=
  match scheme text with
  | .tooLong => none
  | .absent =>
    match Authority.rest? {} text with
    | some [] => some []
    | _ => none
  | .before text =>
    match Authority.rest? {} text with
    | some rest =>
      if rest.length = text.length then none
      else (pathBefore? rest).map fun path => if path = [] then ['/'] else path
    | none => none

/-- The path of a request target. -/
def path? (text : List Char) : Option (List Char) :=
  if (String.ofList text).utf8ByteSize > greatestLength then none
  else
    match text with
    | [] => none
    | ['*'] => some ['*']
    | '/' :: _ => pathBefore? text
    | _ => pathOfUri? text

end Attribution.Admin.RequestTarget
