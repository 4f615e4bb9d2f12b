import Attribution.Endpoint
import Attribution.Identity
import Attribution.Target
import Attribution.Proofs.Text.Encoding
import Mathlib.Data.Prod.Lex
import Mathlib.Order.Compare
import Mathlib.Order.WithBot

/-!
# What the orders are

A comparison is understood through a key of each value: comparing values is comparing their keys.
Keys are numbers, rows of numbers, and pairs of keys of which the first decides first. The key of an
address is its version and the address read as one number, so that comparing octet by octet, or
group by group, is comparing numbers.
-/

namespace Attribution

/-- Comparing values is comparing their keys. -/
def Ranks {α κ : Type} [Ord α] [LT κ] (key : α → κ) : Prop :=
  ∀ x y, (compare x y).Compares (key x) (key y)

/-- Where the first components differ they decide, and the second ones otherwise. -/
theorem compares_then {κ ι : Type} [LT κ] [LT ι] {first second : Ordering} {a b : κ} {c d : ι}
    (h : first.Compares a b) (otherwise : second.Compares c d) :
    (first.then second).Compares (toLex (a, c)) (toLex (b, d)) := by
  cases first with
  | lt => exact Prod.Lex.left _ _ h
  | gt => exact Prod.Lex.left _ _ h
  | eq =>
    obtain rfl : a = b := h
    cases second with
    | lt => exact Prod.Lex.right _ otherwise
    | gt => exact Prod.Lex.right _ otherwise
    | eq =>
      obtain rfl : c = d := otherwise
      rfl

/-- Among values that only compare equal when they are, it is enough to know when one comes
first. -/
theorem ranks_of_lt_iff {α κ : Type} [Ord α] [Std.TransOrd α] [Std.LawfulEqOrd α] [LT κ]
    {key : α → κ} (first : ∀ x y, compare x y = .lt ↔ key x < key y) : Ranks key := fun x y => by
  cases h : compare x y with
  | lt => exact (first x y).1 h
  | eq => exact congrArg key (Std.LawfulEqOrd.eq_of_compare h)
  | gt => exact (first y x).1 (Std.OrientedCmp.lt_of_gt h)

/-! ### Words and texts -/

theorem ranks_uint8 : Ranks UInt8.toNat := ranks_of_lt_iff fun x y => by
  rw [UInt8.compare_eq_toNat_compare_toNat, Nat.compare_eq_lt]

theorem ranks_uint16 : Ranks UInt16.toNat := ranks_of_lt_iff fun x y => by
  rw [UInt16.compare_eq_toNat_compare_toNat, Nat.compare_eq_lt]

theorem compare_string_eq_lt (x y : String) : compare x y = .lt ↔ x < y :=
  compareOfLessAndEq_eq_lt

theorem ranks_scalars : Ranks Text.scalars := ranks_of_lt_iff fun x y => by
  rw [compare_string_eq_lt, Text.scalars_strictMono.lt_iff_lt]

theorem ranks_bytes : Ranks Text.bytes := ranks_of_lt_iff fun x y => by
  rw [compare_string_eq_lt, Text.bytes_strictMono.lt_iff_lt]

/-- Values are compared as their texts are, by scalar values or by bytes. -/
structure RanksText {α : Type} [Ord α] (text : α → String) : Prop where
  scalars : Ranks fun x => Text.scalars (text x)
  bytes : Ranks fun x => Text.bytes (text x)

theorem ranksText {α : Type} [Ord α] {text : α → String}
    (h : ∀ x y, compare x y = compare (text x) (text y)) : RanksText text where
  scalars x y := by
    rw [h]
    exact ranks_scalars (text x) (text y)
  bytes x y := by
    rw [h]
    exact ranks_bytes (text x) (text y)

/-! ### Addresses -/

section Words

variable {α : Type} {toNat : α → Nat} {base : Nat}

/-- Of two rows of one length after different numbers, the larger number remains the larger. -/
theorem foldl_lt (bound : ∀ x, toNat x < base) {xs ys : List α} (same : xs.length = ys.length)
    {v w : Nat} (h : v < w) :
    xs.foldl (fun value x => base * value + toNat x) v <
      ys.foldl (fun value y => base * value + toNat y) w := by
  induction xs generalizing ys v w with
  | nil =>
    obtain rfl := List.length_eq_zero_iff.1 same.symm
    exact h
  | cons x xs ih =>
    obtain ⟨y, ys, rfl⟩ := List.exists_cons_of_length_eq_add_one same.symm
    refine ih (Nat.succ.inj same) ?_
    calc base * v + toNat x < base * v + base := Nat.add_lt_add_left (bound x) _
      _ = base * (v + 1) := (Nat.mul_succ base v).symm
      _ ≤ base * w := Nat.mul_le_mul_left base h
      _ ≤ base * w + toNat y := Nat.le_add_right _ _

/-- Rows of digits of one length compare as the numbers that they stand for. -/
theorem compares_foldl [Ord α] (ranks : Ranks toNat) (bound : ∀ x, toNat x < base)
    {xs ys : List α} (same : xs.length = ys.length) (value : Nat) :
    (compare xs ys).Compares (xs.foldl (fun value x => base * value + toNat x) value)
      (ys.foldl (fun value y => base * value + toNat y) value) := by
  induction xs generalizing ys value with
  | nil =>
    obtain rfl := List.length_eq_zero_iff.1 same.symm
    rfl
  | cons x xs ih =>
    obtain ⟨y, ys, rfl⟩ := List.exists_cons_of_length_eq_add_one same.symm
    have rest : xs.length = ys.length := Nat.succ.inj same
    have first := ranks x y
    rw [List.compare_cons_cons]
    cases h : compare x y with
    | lt =>
      rw [h] at first
      exact foldl_lt bound rest (Nat.add_lt_add_left first _)
    | gt =>
      rw [h] at first
      exact foldl_lt bound rest.symm (Nat.add_lt_add_left first _)
    | eq =>
      rw [h] at first
      have equal : toNat x = toNat y := first
      simp only [List.foldl_cons, equal]
      exact ih rest _

end Words

theorem Ipv4.ranks_value : Ranks Ipv4.value := fun x y =>
  compares_foldl ranks_uint8 UInt8.toNat_lt (x.length_octets.trans y.length_octets.symm) 0

theorem Ipv6.ranks_value : Ranks Ipv6.value := fun x y =>
  compares_foldl ranks_uint16 UInt16.toNat_lt (x.length_groups.trans y.length_groups.symm) 0

namespace Address

/-- The address as a number. -/
def value : Address → Nat
  | v4 address => address.value
  | v6 address => address.value

/-- Addresses are compared by version, the earlier one first, then by value; what follows decides
between equal ones. -/
theorem compares_version_value {κ : Type} [LT κ] (x y : Address) {otherwise : Ordering} {c d : κ}
    (h : otherwise.Compares c d) :
    ((compare x y).then otherwise).Compares (toLex (x.isV6, toLex (x.value, c)))
      (toLex (y.isV6, toLex (y.value, d))) := by
  cases x with
  | v4 x =>
    cases y with
    | v4 y =>
      have version : Ordering.eq.Compares (v4 x).isV6 (v4 y).isV6 := rfl
      have after := compares_then version (compares_then (Ipv4.ranks_value x y) h)
      exact after
    | v6 y => exact Prod.Lex.left _ _ Bool.false_lt_true
  | v6 x =>
    cases y with
    | v4 y => exact Prod.Lex.left _ _ Bool.false_lt_true
    | v6 y =>
      have version : Ordering.eq.Compares (v6 x).isV6 (v6 y).isV6 := rfl
      have after := compares_then version (compares_then (Ipv6.ranks_value x y) h)
      exact after

end Address

/-! ### Endpoints and targets -/

theorem Protocol.ranks_rank : Ranks Protocol.rank := ranks_of_lt_iff fun x y => by
  rw [compare_def, Nat.compare_eq_lt]

/-- The version of an endpoint's address, the value of the address, the port, and the place of the
protocol. -/
def Endpoint.key (endpoint : Endpoint) : Bool ×ₗ Nat ×ₗ Nat ×ₗ Nat :=
  toLex (endpoint.address.isV6, toLex (endpoint.address.value,
    toLex (endpoint.port.toNat, endpoint.protocol.rank)))

theorem Endpoint.ranks_key : Ranks Endpoint.key := fun x y =>
  Address.compares_version_value x.address y.address
    (compares_then (ranks_uint16 x.port y.port) (Protocol.ranks_rank x.protocol y.protocol))

/-- The scalar values of a name; the absent name comes before any other. -/
def nameKey : Option String → WithBot (List Nat)
  | none => ⊥
  | some name => Text.scalars name

theorem ranks_nameKey : Ranks nameKey
  | none, none => rfl
  | none, some _ => WithBot.bot_lt_coe _
  | some _, none => WithBot.bot_lt_coe _
  | some name, some other => WithBot.coe_strictMono.compares.2 (ranks_scalars name other)

/-- The port of a target, then its name. -/
def Target.key (target : Target) : Nat ×ₗ WithBot (List Nat) :=
  toLex (target.port.toNat, nameKey target.name)

theorem Target.ranks_key : Ranks Target.key := fun x y =>
  compares_then (ranks_uint16 x.port y.port) (ranks_nameKey x.name y.name)

end Attribution
