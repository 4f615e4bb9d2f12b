import Attribution.Proofs.Text.Numeral
import Attribution.Text.Cut
import Attribution.Text.Quoted

/-!
# Quoted text is told from what follows it

Every character of a quoted text can be read back from its escape without looking further: a
backslash begins an escape and nothing else, the letter after it says what kind of escape it is, and
a code point ends at the brace. A quote that is part of the text is escaped. So the text can be read
back character by character, and it is known where it ends, whatever comes after.
-/

namespace Attribution.Text

/-- What a letter after a backslash stands for. -/
def mnemonic? : Char → Option Char
  | '"' => some '"'
  | '\\' => some '\\'
  | 'n' => some '\n'
  | 'r' => some '\r'
  | 't' => some '\t'
  | '0' => some '\x00'
  | _ => none

/-- Reads a code point in hexadecimal up to the closing brace, and tells what follows. -/
def codePoint? (text : List Char) : Option (Char × List Char) :=
  (cutFirst '}' text).bind fun (digits, after) =>
    (numeral? 16 digits).map fun code => (Char.ofNat code, after)

/-- Reads one character of a quoted text, and tells what follows. The quote that ends the text is no
character of it. -/
def character? : List Char → Option (Char × List Char)
  | [] => none
  | '"' :: _ => none
  | '\\' :: 'u' :: '{' :: rest => codePoint? rest
  | ['\\'] => none
  | '\\' :: letter :: rest => (mnemonic? letter).map fun c => (c, rest)
  | c :: rest => some (c, rest)

theorem codePoint?_hexadecimal (c : Char) (rest : List Char) :
    codePoint? (hexadecimal c.toNat ++ '}' :: rest) = some (c, rest) := by
  have numeral : numeral? 16 (hexadecimal c.toNat) = some c.toNat :=
    numeral?_toDigits (by decide) (by decide) c.toNat
  have no_brace : '}' ∉ hexadecimal c.toNat :=
    ((numeral?_eq_some_iff (by decide)).1 numeral).not_mem (by decide) rfl
  rw [codePoint?, cutFirst_eq_some_iff.2 ⟨rfl, no_brace⟩, Option.bind_some]
  dsimp only
  rw [numeral, Option.map_some, Char.ofNat_toNat]

/-- A character that stands as it is neither ends the text nor begins an escape. -/
theorem character?_cons {c : Char} (no_quote : c ≠ '"') (no_backslash : c ≠ '\\')
    (rest : List Char) : character? (c :: rest) = some (c, rest) := by
  rw [character?.eq_def]
  split <;> simp_all

/-- A character is read back from its escape, and nothing beyond. -/
theorem character?_escape (c : Char) (rest : List Char) :
    character? (escape c ++ rest) = some (c, rest) := by
  rw [escape]
  split_ifs with quote backslash newline carriage tab null
  · subst quote
    rfl
  · subst backslash
    rfl
  · subst newline
    rfl
  · subst carriage
    rfl
  · subst tab
    rfl
  · subst null
    rfl
  · exact character?_cons quote backslash rest
  · have escaped : escapeCode c ++ rest =
        '\\' :: 'u' :: '{' :: (hexadecimal c.toNat ++ '}' :: rest) := by
      simp [escapeCode]
    rw [escaped]
    exact codePoint?_hexadecimal c rest

/-- The brace that follows the code point is a character of the text. -/
example : character? (quoted ['\xad', '}']).tail = some ('\xad', ['}', '"']) := by
  decide +kernel

theorem character?_flatMap_escape (c : Char) (text rest : List Char) :
    character? ((c :: text).flatMap escape ++ rest) = some (c, text.flatMap escape ++ rest) := by
  rw [List.flatMap_cons, List.append_assoc, character?_escape]

variable {s t x y : List Char}

/-- Of two escaped texts before a quote neither can end within the other, since each step reads a
character from both or the end of both. -/
theorem flatMap_escape_append_inj
    (same : s.flatMap escape ++ '"' :: x = t.flatMap escape ++ '"' :: y) : s = t ∧ x = y := by
  induction s generalizing t with
  | nil =>
    cases t with
    | nil => exact ⟨rfl, (List.cons.inj same).2⟩
    | cons d t =>
      have read := congrArg character? same
      rw [character?_flatMap_escape] at read
      cases read
  | cons c s ih =>
    have read := congrArg character? same
    rw [character?_flatMap_escape] at read
    cases t with
    | nil => cases read
    | cons d t =>
      rw [character?_flatMap_escape] at read
      obtain ⟨rfl, rest⟩ := Prod.mk.inj (Option.some.inj read)
      obtain ⟨rfl, after⟩ := ih rest
      exact ⟨rfl, after⟩

theorem quoted_append_inj : quoted s ++ x = quoted t ++ y ↔ s = t ∧ x = y := by
  constructor
  · intro same
    simp only [quoted, List.cons_append, List.append_assoc, List.nil_append, List.cons.injEq,
      true_and] at same
    exact flatMap_escape_append_inj same
  · rintro ⟨rfl, rfl⟩
    rfl

theorem quote_append_inj {s t x y : String} : quote s ++ x = quote t ++ y ↔ s = t ∧ x = y := by
  rw [← String.toList_inj, String.toList_append, String.toList_append, toList_quote, toList_quote,
    quoted_append_inj, String.toList_inj, String.toList_inj]

theorem quote_injective : Function.Injective quote := by
  intro s t same
  exact (quote_append_inj.1 (congrArg (· ++ "") same)).1

end Attribution.Text
