import Attribution.LogFilter.Flags
import Attribution.Text.Numeral

/-!
# Escapes in patterns

What may follow a backslash in a pattern: a sign that stands for itself, a letter that stands
for a control, a code point in hexadecimal, a class of characters, or a place between characters.
Other letters are kept free, and references to groups are not there; both are refused. So are
classes of characters by their properties, since there is no table of these.
-/

namespace Attribution.LogFilter

open Attribution.Text

/-- What an escape stands for. -/
inductive Escape where
  | char (c : Char)
  /-- A code point given by two hexadecimal digits, which is a byte where text is read as bytes. -/
  | byte (c : Char)
  /-- Digits, blanks or word characters, or all others. -/
  | characterClass (negated : Bool)
  /-- The beginning or the end of the text. -/
  | edge
  /-- A place where a word begins or ends, or where none does. -/
  | wordEdge
  deriving DecidableEq

namespace Escape

/-- Whether a sign stands for itself after a backslash. -/
def isSign (c : Char) : Bool :=
  c.toNat < 0x80 && !c.isAlphanum && c ≠ '<' && c ≠ '>'

/-- The control that a letter stands for. -/
def control? : Char → Option Char
  | 'a' => some '\x07'
  | 't' => some '\t'
  | 'n' => some '\n'
  | 'v' => some '\x0b'
  | 'f' => some '\x0c'
  | 'r' => some '\r'
  | _ => none

/-- What a single letter stands for. -/
def ofLetter? (c : Char) : Option Escape :=
  if "dsw".toList.contains c then some (characterClass false)
  else if "DSW".toList.contains c then some (characterClass true)
  else if "Az".toList.contains c then some edge
  else if "bB<>".toList.contains c then some wordEdge
  else (control? c).map char

/-- Takes a number of digits off a text. Where blanks do not count, they do not count between the
digits either. -/
def takeDigits? (flags : Flags) : Nat → List Char → Option (List Char × List Char)
  | 0, text => some ([], text)
  | count + 1, text =>
    match flags.skip text with
    | [] => none
    | digit :: rest =>
      (takeDigits? flags count rest).map fun (digits, rest) => (digit :: digits, rest)

/-- Reads a code point that is given by a number of hexadecimal digits. -/
def hexadecimal? (flags : Flags) (count : Nat) (text : List Char) : Option (Char × List Char) :=
  (takeDigits? flags count text).bind fun (digits, rest) =>
    ((numeral? 16 digits).filter Nat.isValidChar).map fun code => (Char.ofNat code, rest)

/-- Reads what follows a backslash. -/
def read? (flags : Flags) : List Char → Option (Escape × List Char)
  | [] => none
  | 'x' :: rest => (hexadecimal? flags 2 rest).map fun (c, rest) => (byte c, rest)
  | 'u' :: rest => (hexadecimal? flags 4 rest).map fun (c, rest) => (char c, rest)
  | 'U' :: rest => (hexadecimal? flags 8 rest).map fun (c, rest) => (char c, rest)
  | c :: rest =>
    if isSign c then some (char c, rest) else (ofLetter? c).map fun escape => (escape, rest)

/-- Whether an escape can be matched. -/
def isAdmitted (flags : Flags) : Escape → Bool
  | char _ => flags.admitsCharacters
  | byte c => flags.admitsCharacters && (flags.unicode || c.toNat < 0x80)
  | characterClass negated => !flags.unicode && !negated
  | edge | wordEdge => true

/-- The character that an escape stands for. -/
def char? : Escape → Option Char
  | char c | byte c => some c
  | _ => none

end Escape

end Attribution.LogFilter
