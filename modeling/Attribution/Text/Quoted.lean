import Attribution.Text.GraphemeExtend
import Attribution.Text.Numeral
import Attribution.Text.Unprintable

/-!
# Quoted text

Texts that come from outside are quoted before they are put into a message, so that nothing in
them can be mistaken for the message and nothing invisible is lost. A character that shows
itself stands as it is; the quote, the backslash and four controls have escapes of two
characters; every other character without a mark of its own is written as its code point.
-/

namespace Attribution.Text

/-- Whether a character is one of the halfwidth sound marks of Katakana. They extend the letter
before them, but in a cell of their own. -/
def isHalfwidthSoundMark (c : Char) : Bool :=
  c = '\uff9e' || c = '\uff9f'

/-- Whether a character attaches to the one before it. -/
def isAttached (c : Char) : Bool :=
  isIn graphemeExtend c && !isHalfwidthSoundMark c

/-- Whether a character leaves no mark of its own. -/
def isInvisible (c : Char) : Bool :=
  isIn unprintable c || isIn defaultIgnorable c

/-- Whether a character shows itself: it has a mark of its own, which does not attach to the
character before it. The space is the one separator that counts as shown. -/
def isShown (c : Char) : Bool :=
  if c.toNat < 0x7f then 0x20 ≤ c.toNat else !isInvisible c && !isAttached c

/-- A code point between braces, in hexadecimal without leading zeros. -/
def escapeCode (c : Char) : List Char :=
  ['\\', 'u', '{'] ++ hexadecimal c.toNat ++ ['}']

/-- What stands for a character inside quotes. -/
def escape (c : Char) : List Char :=
  if c = '"' then ['\\', '"']
  else if c = '\\' then ['\\', '\\']
  else if c = '\n' then ['\\', 'n']
  else if c = '\r' then ['\\', 'r']
  else if c = '\t' then ['\\', 't']
  else if c = '\x00' then ['\\', '0']
  else if isShown c then [c]
  else escapeCode c

/-- The text between quotes, each character escaped. -/
def quoted (text : List Char) : List Char :=
  '"' :: (text.flatMap escape ++ ['"'])

/-- The quoted form of a string. -/
def quote (text : String) : String :=
  String.ofList (quoted text.toList)

@[simp] theorem toList_quote (text : String) : (quote text).toList = quoted text.toList := by
  simp [quote]

end Attribution.Text
