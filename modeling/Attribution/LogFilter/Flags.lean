import Attribution.Text.CharClass

/-!
# Flags of a pattern

How the characters of a pattern are to be taken. Flags are set for a group or for the rest of
the group they stand in. There is no table of cases and none of word characters: where letters
are taken without regard to case, or classes of characters by the scripts of the world, nothing
can be matched, and the pattern is refused. A pattern that reads text as bytes must not match
part of a character.

Blanks and comments can be made not to count. `Flags.skip` passes over them; `Flags.peek` looks
ahead for the next character that counts, but does not tell the text of a comment from what
follows it.
-/

namespace Attribution.LogFilter

open Attribution.Text

/-- The flags that decide whether a pattern can be read. -/
structure Flags where
  /-- Whether text is read by characters, and not by bytes. -/
  unicode : Bool := true
  /-- Whether upper and lower case are the same. -/
  caseless : Bool := false
  /-- Whether blanks and comments are skipped. -/
  spaced : Bool := false
  deriving DecidableEq

namespace Flags

/-- Sets one flag. Flags that only concern matching are passed over. -/
def set (flags : Flags) (letter : Char) (value : Bool) : Flags :=
  match letter with
  | 'u' => { flags with unicode := value }
  | 'i' => { flags with caseless := value }
  | 'x' => { flags with spaced := value }
  | _ => flags

/-- Sets the listed flags; those after a dash are taken back. -/
def setAll (flags : Flags) (letters : List Char) : Flags :=
  let flags := (letters.takeWhile (· ≠ '-')).foldl (fun flags c => flags.set c true) flags
  (letters.dropWhile (· ≠ '-')).foldl (fun flags c => flags.set c false) flags

/-- Whether a list of flags can be read: known letters and at most one dash, none of them twice,
and a flag after the dash. -/
def areLegible (letters : List Char) : Bool :=
  letters.all "imsUuRx-".toList.contains && letters.Nodup && letters.getLast? ≠ some '-'

/-- Skips blanks, and comments from a number sign to the end of the line. -/
def skipSpace : Bool → List Char → List Char
  | _, [] => []
  | true, c :: rest => skipSpace (c ≠ '\n') rest
  | false, c :: rest =>
    if isBlank c then skipSpace false rest
    else if c = '#' then skipSpace true rest
    else c :: rest

/-- Skips blanks and comments where they do not count. -/
def skip (flags : Flags) (text : List Char) : List Char :=
  if flags.spaced then skipSpace false text else text

/-- The next character that is neither blank nor the first number sign. -/
def nextMark? : Bool → List Char → Option Char
  | _, [] => none
  | passed, c :: rest =>
    if isBlank c then nextMark? passed rest
    else if !passed && c = '#' then nextMark? true rest
    else some c

/-- Looks ahead for the character that comes next. Where blanks do not count, they are passed
over together with the sign that begins a comment, unless nothing else follows. -/
def peek? (flags : Flags) (text : List Char) : Option Char :=
  if flags.spaced then (nextMark? false text).or text.head? else text.head?

/-- Whether single characters can be matched. -/
def admitsCharacters (flags : Flags) : Bool :=
  !(flags.unicode && flags.caseless)

theorem length_skipSpace_le (inComment : Bool) (text : List Char) :
    (skipSpace inComment text).length ≤ text.length := by
  induction text generalizing inComment with
  | nil => cases inComment <;> simp [skipSpace]
  | cons c rest ih =>
    cases inComment with
    | true =>
      have := ih (c ≠ '\n')
      simp only [skipSpace, List.length_cons]
      omega
    | false =>
      have blank := ih false
      have comment := ih true
      simp only [skipSpace, List.length_cons]
      split
      · omega
      · split
        · omega
        · simp

/-- Skipping does not make a text longer. -/
theorem length_skip_le (flags : Flags) (text : List Char) :
    (flags.skip text).length ≤ text.length := by
  rw [skip]
  split
  · exact length_skipSpace_le false text
  · exact Nat.le_refl _

end Flags

end Attribution.LogFilter
