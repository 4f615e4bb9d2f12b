import Attribution.LogFilter.Escape

/-!
# Characters in brackets

A set of characters in a pattern: single characters, ranges, named classes between colons, and
sets within the set, joined or combined by doubled signs. A bracket that closes the set stands
for itself right after the opening, and so do dashes; a dash before the closing bracket stands
for itself as well.

A set of nothing can be matched under all flags, for it has no character to be compared.

Sets stand inside one another, and so do the groups around them; it is counted how deep. Things that
stand side by side, in a row or as alternatives, are taken together by one more level; a single
thing needs none.
-/

namespace Attribution.LogFilter

open Attribution.Text

/-- The levels of several things taken together, from the levels of each. -/
def nestedTogether : List Nat → Nat
  | [] => 0
  | [levels] => levels
  | many => many.foldl max 0 + 1

/-- What has been read of a set. -/
structure OpenSet where
  /-- The levels of each member since the last operator, the last member first. -/
  members : List Nat := []
  /-- The levels of what stands before the last operator. -/
  left : Option Nat := none
  deriving DecidableEq

namespace OpenSet

/-- Takes in a member. -/
def add (set : OpenSet) (levels : Nat) : OpenSet :=
  { set with members := levels :: set.members }

/-- The levels of all that has been read; an operator is one level above its sides. -/
def levels (set : OpenSet) : Nat :=
  match set.left with
  | none => nestedTogether set.members
  | some left => max left (nestedTogether set.members) + 1

/-- Takes in an operator: all that has been read stands before it. -/
def operate (set : OpenSet) : OpenSet :=
  { left := some set.levels }

end OpenSet

namespace Brackets

/-- The named classes. -/
def classNames : List String :=
  ["alnum", "alpha", "ascii", "blank", "cntrl", "digit", "graph", "lower", "print", "punct",
    "space", "upper", "word", "xdigit"]

/-- Reads a named class after its opening bracket, and says whether it is negated. What only
looks like one is a set within the set. -/
def namedClass? : List Char → Option (Bool × List Char)
  | ':' :: rest =>
    let negated := rest.head? = some '^'
    let rest := if negated then rest.drop 1 else rest
    match rest.dropWhile (· ≠ ':') with
    | ':' :: ']' :: after =>
      if classNames.any fun name => name.toList = rest.takeWhile (· ≠ ':') then
        some (negated, after)
      else none
    | _ => none
  | _ => none

/-- Whether a set can hold a character. -/
def holdsChar (flags : Flags) (c : Char) : Bool :=
  flags.admitsCharacters && (flags.unicode || c.toNat < 0x80)

/-- Takes in the dashes that a set begins with. -/
def dashes (flags : Flags) (set : OpenSet) (text : List Char) : OpenSet × List Char :=
  match h : flags.skip text with
  | '-' :: rest =>
    have : rest.length < text.length := by
      have := flags.length_skip_le text
      rw [h, List.length_cons] at this
      omega
    dashes flags (set.add 0) rest
  | text => (set, text)
termination_by text.length

/-- Takes in what stands for itself at the beginning of a set: dashes, or else a closing bracket. -/
def beginning (flags : Flags) (text : List Char) : OpenSet × List Char :=
  match dashes flags {} text with
  | (⟨[], left⟩, ']' :: rest) => (OpenSet.add ⟨[], left⟩ 0, rest)
  | read => read

/-- Opens a set after its bracket. A negated one holds more than bytes can tell. -/
def open? (flags : Flags) (text : List Char) : Option (OpenSet × List Char) :=
  let opened := match flags.skip text with
    | '^' :: rest => if flags.unicode then some (beginning flags rest) else none
    | text => some (beginning flags text)
  opened.filter fun (set, _) => set.members.isEmpty || flags.admitsCharacters

/-- Reads a character or an escape that belongs to a set. -/
def item? (flags : Flags) : List Char → Option (Escape × List Char)
  | [] => none
  | '\\' :: rest => Escape.read? flags rest
  | c :: rest => some (.char c, rest)

/-- Whether a set can hold what an item stands for. -/
def holdsItem (flags : Flags) (item : Escape) : Bool :=
  match item.char? with
  | some c => holdsChar flags c
  | none => (item matches .characterClass _) && item.isAdmitted flags

/-- Whether two items are the ends of a range. -/
def holdsRange (flags : Flags) (first last : Escape) : Bool :=
  match first.char?, last.char? with
  | some first, some last => first ≤ last && holdsChar flags first && holdsChar flags last
  | _, _ => false

/-- Reads an item or a range. A dash with a closing bracket or another dash behind it does not
make a range. -/
def member? (flags : Flags) (text : List Char) : Option (List Char) :=
  (item? flags text).bind fun (first, rest) =>
    match flags.skip rest with
    | '-' :: more =>
      if flags.peek? more = some ']' || flags.peek? more = some '-' then
        if holdsItem flags first then some ('-' :: more) else none
      else
        (item? flags (flags.skip more)).bind fun (last, rest) =>
          if holdsRange flags first last then some rest else none
    | rest => if holdsItem flags first then some rest else none

/-- Reads a set up to its closing bracket, in `limit` steps at most. The sets around it are given
from the innermost. What is found are the levels of the outermost set. -/
def close? (flags : Flags) :
    Nat → OpenSet → List OpenSet → List Char → Option (Nat × List Char)
  | 0, _, _, _ => none
  | limit + 1, set, outer, text =>
    match flags.skip text with
    | [] => none
    | ']' :: rest =>
      match outer with
      | [] => some (set.levels + 1, rest)
      | around :: outer => close? flags limit (around.add (set.levels + 1)) outer rest
    | '[' :: rest =>
      match namedClass? rest with
      | some (negated, rest) =>
        if flags.admitsCharacters && (flags.unicode || !negated) then
          close? flags limit (set.add 0) outer rest
        else none
      | none =>
        (open? flags rest).bind fun (inner, rest) => close? flags limit inner (set :: outer) rest
    | '&' :: '&' :: rest | '-' :: '-' :: rest | '~' :: '~' :: rest =>
      close? flags limit set.operate outer rest
    | text => (member? flags text).bind fun rest => close? flags limit (set.add 0) outer rest

/-- Reads a set after its opening bracket, in `limit` steps at most, and says how many levels it
has. Each step takes a character at least. -/
def read? (flags : Flags) (limit : Nat) (text : List Char) : Option (Nat × List Char) :=
  (open? flags text).bind fun (set, rest) => close? flags limit set [] rest

end Brackets

end Attribution.LogFilter
