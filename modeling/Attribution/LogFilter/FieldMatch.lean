import Attribution.LogFilter.Pattern

/-!
# Matching a field

A span is picked out by its fields: by the name of a field, or by a name and a value after an
equals sign. A value that is a number or a truth value is compared as such; any other value is a
pattern. What comes after a second equals sign does not count.
-/

namespace Attribution.LogFilter

open Attribution.Text

/-- The text without a sign in front. -/
def withoutSign : List Char → List Char
  | '+' :: rest | '-' :: rest => rest
  | text => text

/-- Whether a text is empty or an exponent with its letter. -/
def isExponent : List Char → Bool
  | [] => true
  | c :: rest =>
    let digits := withoutSign rest
    (c = 'e' || c = 'E') && !digits.isEmpty && digits.all Char.isDigit

/-- Whether a text is a decimal number without a sign. There is a digit before or after the
point; both the point and the exponent may be missing. -/
def isDecimal (text : List Char) : Bool :=
  let whole := text.takeWhile Char.isDigit
  match text.dropWhile Char.isDigit with
  | '.' :: rest =>
    let fraction := rest.takeWhile Char.isDigit
    !(whole.isEmpty && fraction.isEmpty) && isExponent (rest.dropWhile Char.isDigit)
  | rest => !whole.isEmpty && isExponent rest

/-- Whether a text is a number: a decimal number, an infinity or not a number at all by name. -/
def isNumber (text : List Char) : Bool :=
  let magnitude := withoutSign text
  ["inf", "infinity", "nan"].any (fun name => name.toList = magnitude.map Char.toLower) ||
    isDecimal magnitude

/-- Whether a field can be matched in the given way. Truth values are patterns as well. -/
def checkField (text : List Char) : Except PatternError Unit :=
  match (text.splitOn '=')[1]? with
  | none => .ok ()
  | some value => if isNumber value then .ok () else Pattern.check value

end Attribution.LogFilter
