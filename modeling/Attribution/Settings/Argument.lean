/-!
# Arguments

The arguments of a process are sequences of bytes, which need not be text. They are kept
character by character, so that what surrounds a value can be recognised even where the value is
not text.
-/

namespace Attribution

/-- Something on the command line, character by character; a byte that belongs to no character
stands as nothing. -/
abbrev Argument := List (Option Char)

namespace Argument

/-- The argument with the given text. -/
def ofText (text : String) : Argument :=
  text.toList.map some

/-- The argument with the given bytes. If they are not text as a whole, those of ASCII are taken
for characters: option names and the signs around them are made of these. -/
def ofBytes (bytes : ByteArray) : Argument :=
  match String.fromUTF8? bytes with
  | some text => ofText text
  | none =>
    bytes.toList.map fun byte => if byte < 128 then some (Char.ofNat byte.toNat) else none

/-- The text of the argument, if it is text. -/
def text? (argument : Argument) : Option String :=
  (argument.mapM id).map String.ofList

theorem mapM_map_some (text : List Char) :
    (text.map some).mapM (id : Option Char → Option Char) = some text := by
  induction text with
  | nil => rfl
  | cons c rest ih => simp [ih]

@[simp] theorem text?_ofText (text : String) : (ofText text).text? = some text := by
  simp only [text?, ofText, mapM_map_some, Option.map_some, String.ofList_toList]

end Argument

end Attribution
