import Attribution.Text.Numeral
import Mathlib.Data.List.Forall2
import Mathlib.Data.Nat.Digits.Defs

/-!
# What a numeral denotes

A numeral is a row of digits, and its value is that of the digits in its base. This is said here
without regard to how numerals are read: a digit is the sign of a number below the base, letters in
either case, and the value is `Nat.ofDigits`. Reading finds exactly this value, and where it is
bounded it refuses a numeral for nothing but its value; leading zeros never matter.
-/

namespace Attribution.Text

/-- The character is a digit of the base, and stands for the number. -/
def IsDigit (base : Nat) (c : Char) (digit : Nat) : Prop :=
  digit < base ∧ (c = digit.digitChar ∨ c = digit.digitChar.toUpper)

/-- The text consists of one or more digits, of which the number is the value. -/
def IsNumeral (base : Nat) (text : List Char) (n : Nat) : Prop :=
  text ≠ [] ∧
    ∃ digits, List.Forall₂ (IsDigit base) text digits ∧ n = Nat.ofDigits base digits.reverse

/-- The text is a decimal numeral, perhaps after a plus sign. -/
def IsUnsigned (text : List Char) (n : Nat) : Prop :=
  ∃ digits, (text = digits ∨ text = '+' :: digits) ∧ IsNumeral 10 digits n

variable {base n : Nat} {text : List Char}

/-! ### Digits -/

theorem toNat_lt_of_digitValue? {c : Char} {digit : Nat} (h : digitValue? c = some digit) :
    c.toNat < 128 := by
  have below {bound : Char} (le : c ≤ bound) (ascii : bound.toNat < 128) : c.toNat < 128 :=
    Nat.lt_of_le_of_lt (UInt32.le_iff_toNat_le.1 (Char.le_def.1 le)) ascii
  rw [digitValue?] at h
  split at h
  · next range => exact below range.2 (by decide)
  · split at h
    · next range => exact below range.2 (by decide)
    · split at h
      · next range => exact below range.2 (by decide)
      · cases h

theorem digitValue?_eq_some_iff {c : Char} {digit : Nat} :
    digitValue? c = some digit ↔
      digit < 16 ∧ (c = digit.digitChar ∨ c = digit.digitChar.toUpper) := by
  -- Digits are ASCII signs, so all of them can be looked at.
  have signs : ∀ code : Fin 128, ∀ digit ∈ digitValue? (.ofNat code), digit < 16 ∧
      (Char.ofNat code = digit.digitChar ∨ Char.ofNat code = digit.digitChar.toUpper) := by
    decide +kernel
  have upper : ∀ digit : Fin 16, digitValue? digit.val.digitChar.toUpper = some digit.val := by
    decide
  constructor
  · intro value
    have same : Char.ofNat c.toNat = c := Char.ofNat_toNat c
    have := signs ⟨c.toNat, toNat_lt_of_digitValue? value⟩ digit
    rw [same] at this
    exact this value
  · rintro ⟨bound, rfl | rfl⟩
    · exact digitValue?_digitChar bound
    · exact upper ⟨digit, bound⟩

theorem digitIn?_eq_some_iff (hs : base ≤ 16) {c : Char} {digit : Nat} :
    digitIn? base c = some digit ↔ IsDigit base c digit := by
  rw [digitIn?, Option.filter_eq_some_iff, digitValue?_eq_some_iff, IsDigit]
  simp only [decide_eq_true_eq]
  constructor
  · rintro ⟨⟨-, sign⟩, bound⟩
    exact ⟨bound, sign⟩
  · rintro ⟨bound, sign⟩
    exact ⟨⟨Nat.lt_of_lt_of_le bound hs, sign⟩, bound⟩

/-- The signs of digits are letters and the ten digits proper; none is a separator. -/
theorem IsDigit.isAlphanum (hs : base ≤ 16) {c : Char} {digit : Nat} (h : IsDigit base c digit) :
    c.isAlphanum = true := by
  have all : ∀ digit : Fin 16, digit.val.digitChar.isAlphanum = true ∧
      digit.val.digitChar.toUpper.isAlphanum = true := by
    decide
  obtain ⟨bound, rfl | rfl⟩ := h
  · exact (all ⟨digit, Nat.lt_of_lt_of_le bound hs⟩).1
  · exact (all ⟨digit, Nat.lt_of_lt_of_le bound hs⟩).2

/-! ### Numerals -/

theorem numeralFrom?_eq_some_iff (hs : base ≤ 16) {value : Nat} :
    numeralFrom? base value text = some n ↔
      ∃ digits, List.Forall₂ (IsDigit base) text digits ∧
        n = digits.foldl (fun value digit => base * value + digit) value := by
  induction text generalizing value with
  | nil => simp [numeralFrom?, eq_comm]
  | cons c rest ih =>
    simp only [numeralFrom?, Option.bind_eq_some_iff, digitIn?_eq_some_iff hs, ih,
      List.forall₂_cons_left_iff]
    constructor
    · rintro ⟨digit, sign, digits, signs, rfl⟩
      exact ⟨digit :: digits, ⟨digit, digits, sign, signs, rfl⟩, rfl⟩
    · rintro ⟨_, ⟨digit, digits, sign, signs, rfl⟩, rfl⟩
      exact ⟨digit, sign, digits, signs, rfl⟩

theorem ofDigits_reverse (digits : List Nat) :
    Nat.ofDigits base digits.reverse =
      digits.foldl (fun value digit => base * value + digit) 0 := by
  rw [Nat.ofDigits_eq_foldr, List.foldr_reverse]
  simp only [Nat.cast_id, Nat.add_comm]

theorem numeral?_eq_some_iff (hs : base ≤ 16) :
    numeral? base text = some n ↔ IsNumeral base text n := by
  cases text with
  | nil => simp [numeral?, IsNumeral]
  | cons c rest =>
    rw [numeral?, numeralFrom?_eq_some_iff hs]
    · simp only [IsNumeral, ofDigits_reverse, ne_eq, reduceCtorEq, not_false_eq_true, true_and]
    · exact List.cons_ne_nil c rest

theorem numeralBelow?_eq_some_iff (hs : base ≤ 16) {bound : Nat} :
    numeralBelow? base bound text = some n ↔ IsNumeral base text n ∧ n < bound := by
  rw [numeralBelow?, Option.filter_eq_some_iff, numeral?_eq_some_iff hs, decide_eq_true_eq]

/-- A numeral is read as a machine word exactly if its value is one. -/
theorem map_numeralBelow?_eq_some_iff (hs : base ≤ 16) {Word : Type} {ofNat : Nat → Word}
    {toNat : Word → Nat} {bound : Nat} {word : Word} (below : toNat word < bound)
    (inverse : ∀ word, ofNat (toNat word) = word) (exact : ∀ n < bound, toNat (ofNat n) = n) :
    (numeralBelow? base bound text).map ofNat = some word ↔ IsNumeral base text (toNat word) := by
  simp only [Option.map_eq_some_iff, numeralBelow?_eq_some_iff hs]
  constructor
  · rintro ⟨n, ⟨numeral, small⟩, rfl⟩
    rwa [exact n small]
  · exact fun numeral => ⟨toNat word, ⟨numeral, below⟩, inverse word⟩

theorem IsNumeral.not_mem (hs : base ≤ 16) (h : IsNumeral base text n) {c : Char}
    (apart : c.isAlphanum = false) : c ∉ text := by
  obtain ⟨-, digits, signs, -⟩ := h
  induction signs with
  | nil => simp
  | cons sign _ ih =>
    rw [List.mem_cons, not_or]
    refine ⟨?_, ih⟩
    rintro rfl
    rw [sign.isAlphanum hs] at apart
    cases apart

/-- A plus sign is no digit, so there is only one way to take it. -/
theorem unsignedBelow?_eq_some_iff {bound : Nat} :
    unsignedBelow? bound text = some n ↔ IsUnsigned text n ∧ n < bound := by
  have sign_apart {digits : List Char} : ¬ IsNumeral 10 ('+' :: digits) n := fun numeral =>
    numeral.not_mem (by decide) rfl List.mem_cons_self
  rw [unsignedBelow?.eq_def, IsUnsigned]
  split
  · next digits =>
    rw [numeralBelow?_eq_some_iff (by decide)]
    refine and_congr_left fun _ => ⟨fun numeral => ⟨digits, .inr rfl, numeral⟩, ?_⟩
    rintro ⟨_, rfl | signed, numeral⟩
    · exact absurd numeral sign_apart
    · cases signed
      exact numeral
  · next unsigned =>
    rw [numeralBelow?_eq_some_iff (by decide)]
    refine and_congr_left fun _ => ⟨fun numeral => ⟨_, .inl rfl, numeral⟩, ?_⟩
    rintro ⟨digits, rfl | signed, numeral⟩
    · exact numeral
    · exact absurd signed (unsigned digits)

theorem isNumeral_decimal (n : Nat) : IsNumeral 10 (decimal n) n :=
  (numeral?_eq_some_iff (by decide)).1 (numeral?_toDigits (by decide) (by decide) n)

theorem decimal_injective : Function.Injective decimal := by
  intro n m same
  have read (n : Nat) : numeral? 10 (decimal n) = some n :=
    numeral?_toDigits (by decide) (by decide) n
  exact Option.some.inj ((read n).symm.trans ((congrArg _ same).trans (read m)))

end Attribution.Text
