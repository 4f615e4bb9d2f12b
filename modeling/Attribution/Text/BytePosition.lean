import Attribution.Text.Quoted

/-!
# Byte positions

A place in a text can be given by the number of bytes before it, as the text is written in
UTF-8. Not every number is a place: inside a character of several bytes a text cannot be cut.
`between` cuts out what lies between two positions, or says which of them is inside a character.
-/

namespace Attribution.Text

/-- A position at which a text cannot be cut. -/
structure Misplaced where
  /-- Whether the end of the cut is meant, and not its start. -/
  isEnd : Bool
  position : Nat
  /-- The character that the position is inside of. -/
  char : Char
  /-- Where this character begins. -/
  first : Nat
  deriving DecidableEq

namespace Misplaced

/-- What is said of the position. -/
def message (misplaced : Misplaced) : String :=
  (if misplaced.isEnd then "end" else "start") ++ " byte index " ++
    String.ofList (decimal misplaced.position) ++ " is not a char boundary; it is inside '" ++
    String.ofList (escape misplaced.char) ++ "' (bytes " ++
    String.ofList (decimal misplaced.first) ++ ".." ++
    String.ofList (decimal (misplaced.first + misplaced.char.utf8Size)) ++ " of string)"

end Misplaced

/-- Splits a text at a position. The text itself begins at `offset`; a position behind its end
counts as its end. -/
def splitAtByte (isEnd : Bool) (position offset : Nat) :
    List Char → Except Misplaced (List Char × List Char)
  | [] => .ok ([], [])
  | c :: rest =>
    if position ≤ offset then .ok ([], c :: rest)
    else if position < offset + c.utf8Size then .error ⟨isEnd, position, c, offset⟩
    else
      (splitAtByte isEnd position (offset + c.utf8Size) rest).map fun (before, after) =>
        (c :: before, after)

/-- The text from a position on. -/
def fromByte (start : Nat) (text : List Char) : Except Misplaced (List Char) :=
  (splitAtByte false start 0 text).map Prod.snd

/-- The text between two positions, the first of which is not behind the second. -/
def between (start stop : Nat) (text : List Char) : Except Misplaced (List Char) :=
  (fromByte start text).bind fun after => (splitAtByte true stop start after).map Prod.fst

end Attribution.Text
