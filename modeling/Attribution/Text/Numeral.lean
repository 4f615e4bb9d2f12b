/-!
# Numerals

Reading and writing natural numbers in bases up to sixteen. A numeral is one or more digits,
with any number of leading zeros; letters count as digits in either case and are written in
lower case. There is no separator and no upper limit: where a format bounds a value,
`numeralBelow?` refuses what is too large, and where it admits a plus sign, `unsignedBelow?`
skips it. `numeral?_toDigits` says that what is written is read back.
-/

namespace Attribution.Text

/-- The value of a digit, letters standing for ten to fifteen. -/
def digitValue? (c : Char) : Option Nat :=
  if '0' ≤ c ∧ c ≤ '9' then some (c.toNat - '0'.toNat)
  else if 'a' ≤ c ∧ c ≤ 'f' then some (c.toNat - 'a'.toNat + 10)
  else if 'A' ≤ c ∧ c ≤ 'F' then some (c.toNat - 'A'.toNat + 10)
  else none

/-- The value of a digit in the given base. -/
def digitIn? (base : Nat) (c : Char) : Option Nat :=
  (digitValue? c).filter (· < base)

/-- Reads on after the digits that gave `value` so far; any other character refuses the text. -/
def numeralFrom? (base value : Nat) : List Char → Option Nat
  | [] => some value
  | c :: rest => (digitIn? base c).bind fun digit => numeralFrom? base (base * value + digit) rest

/-- The value of a numeral; the empty text is none. -/
def numeral? (base : Nat) : List Char → Option Nat
  | [] => none
  | text => numeralFrom? base 0 text

/-- The value of a numeral that is smaller than `bound`. -/
def numeralBelow? (base bound : Nat) (text : List Char) : Option Nat :=
  (numeral? base text).filter (· < bound)

/-- The value of a decimal numeral that is smaller than `bound`, perhaps after a plus sign. -/
def unsignedBelow? (bound : Nat) : List Char → Option Nat
  | '+' :: digits => numeralBelow? 10 bound digits
  | digits => numeralBelow? 10 bound digits

/-- The shortest decimal numeral of a number. -/
def decimal (n : Nat) : List Char :=
  Nat.toDigits 10 n

/-- The shortest hexadecimal numeral of a number, in lower case. -/
def hexadecimal (n : Nat) : List Char :=
  Nat.toDigits 16 n

@[simp] theorem digitValue?_digitChar {n : Nat} (h : n < 16) :
    digitValue? n.digitChar = some n := by
  have all : ∀ m : Fin 16, digitValue? m.val.digitChar = some m.val := by decide
  exact all ⟨n, h⟩

theorem digitIn?_digitChar {base n : Nat} (hb : base ≤ 16) (h : n < base) :
    digitIn? base n.digitChar = some n := by
  simp [digitIn?, digitValue?_digitChar (Nat.lt_of_lt_of_le h hb), h]

theorem numeralFrom?_append {base value : Nat} {first second : List Char} :
    numeralFrom? base value (first ++ second) =
      (numeralFrom? base value first).bind fun middle => numeralFrom? base middle second := by
  induction first generalizing value with
  | nil => rfl
  | cons c rest ih =>
    cases h : digitIn? base c <;> simp [numeralFrom?, h, ih]

theorem numeralFrom?_toDigits {base : Nat} (hb : 1 < base) (hs : base ≤ 16) (n : Nat) :
    numeralFrom? base 0 (Nat.toDigits base n) = some n := by
  induction n using Nat.strongRecOn with
  | ind n ih =>
    by_cases small : n < base
    · simp [Nat.toDigits_of_lt_base small, numeralFrom?, digitIn?_digitChar hs small]
    · have le : base ≤ n := Nat.le_of_not_lt small
      have digit : n % base < base := Nat.mod_lt n (by omega)
      rw [Nat.toDigits_of_base_le hb le, numeralFrom?_append,
        ih (n / base) (Nat.div_lt_self (by omega) hb)]
      simp [numeralFrom?, digitIn?_digitChar hs digit, Nat.div_add_mod]

/-- A written number is read back. -/
theorem numeral?_toDigits {base : Nat} (hb : 1 < base) (hs : base ≤ 16) (n : Nat) :
    numeral? base (Nat.toDigits base n) = some n := by
  have h := numeralFrom?_toDigits hb hs n
  cases hd : Nat.toDigits base n with
  | nil => exact absurd hd Nat.toDigits_ne_nil
  | cons c rest => rwa [hd] at h

@[simp] theorem numeralBelow?_hexadecimal {n bound : Nat} (h : n < bound) :
    numeralBelow? 16 bound (hexadecimal n) = some n := by
  simp [numeralBelow?, hexadecimal, numeral?_toDigits, h]

/-- A decimal numeral holds nothing but digits. -/
theorem not_mem_decimal {c : Char} (h : c.isDigit = false) (n : Nat) : c ∉ decimal n := by
  intro there
  have := Nat.isDigit_of_mem_toDigits (by decide) (by decide) there
  simp [h] at this

end Attribution.Text
