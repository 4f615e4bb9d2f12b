import Attribution.Address
import Attribution.Text.Numeral

/-!
# The text of addresses

An IPv4 address is written as four decimal octets between dots. An IPv6 address is written as
groups of lower-case hexadecimal digits between colons, its longest run of zero groups as `::`;
only the addresses that map IPv4 addresses end in a dotted part. Reading is wider than writing:
digits of either case, leading zeros within a group, any run of zero groups as `::`, and a
dotted end in every IPv6 address.
-/

namespace Attribution

open Attribution.Text

namespace Ipv4

/-- Four decimal octets between dots. -/
def chars (address : Ipv4) : List Char :=
  ['.'].intercalate (address.octets.map fun octet => decimal octet.toNat)

/-- An octet has one to three decimal digits, no leading zero, and is at most 255. -/
def octet? (text : List Char) : Option UInt8 :=
  if text.length ≤ 3 ∧ (text.head? ≠ some '0' ∨ text.length = 1) then
    (numeralBelow? 10 UInt8.size text).map UInt8.ofNat
  else none

/-- Reads exactly four octets between dots. -/
def ofChars? (text : List Char) : Option Ipv4 :=
  ((text.splitOn '.').mapM octet?).bind ofOctets?

theorem octet?_decimal (octet : UInt8) : octet? (decimal octet.toNat) = some octet := by
  have all : ∀ n : Fin 256, octet? (decimal n) = some (UInt8.ofNat n) := by decide +kernel
  have := all ⟨octet.toNat, octet.toNat_lt⟩
  simpa using this

theorem mapM_octet?_decimal (octets : List UInt8) :
    (octets.map fun octet => decimal octet.toNat).mapM octet? = some octets := by
  induction octets with
  | nil => rfl
  | cons octet more ih => simp [octet?_decimal, ih]

/-- A written IPv4 address is read back. -/
@[simp] theorem ofChars?_chars (address : Ipv4) : ofChars? address.chars = some address := by
  have nonempty : (address.octets.map fun octet => decimal octet.toNat) ≠ [] := by
    have := address.length_octets
    intro none_there
    simp_all
  have apart : ∀ part ∈ address.octets.map fun octet => decimal octet.toNat, '.' ∉ part := by
    intro part there
    obtain ⟨octet, -, rfl⟩ := List.mem_map.1 there
    exact not_mem_decimal rfl _
  rw [ofChars?, chars, List.splitOn_intercalate '.' apart nonempty, mapM_octet?_decimal]
  exact ofOctets?_octets address

/-- The address as the two groups that embed it in an IPv6 address. -/
def groups (address : Ipv4) : List UInt16 :=
  match address.octets with
  | [a, b, c, d] => [a.toUInt16 * 256 + b.toUInt16, c.toUInt16 * 256 + d.toUInt16]
  | _ => []

end Ipv4

namespace Ipv6

/-- The IPv4 address that the address maps, if it is one of `::ffff:a.b.c.d`. -/
def mapped? (address : Ipv6) : Option Ipv4 :=
  match address.groups with
  | [0, 0, 0, 0, 0, 0xffff, high, low] =>
    some (.of (high >>> 8).toUInt8 high.toUInt8 (low >>> 8).toUInt8 low.toUInt8)
  | _ => none

/-- Start and length of the longest run of zero groups, the first of several equally long ones. -/
def longestZeroRun : List UInt16 → Nat × Nat
  | [] => (0, 0)
  | group :: more =>
    let here := ((group :: more).takeWhile (· = 0)).length
    let later := longestZeroRun more
    if later.2 ≤ here then (0, here) else (later.1 + 1, later.2)

/-- Groups of lower-case hexadecimal digits between colons. -/
def groupChars (groups : List UInt16) : List Char :=
  [':'].intercalate (groups.map fun group => hexadecimal group.toNat)

/-- All groups in a row, except that the longest run of two or more zero groups is left out
between two colons. -/
def shortened (groups : List UInt16) : List Char :=
  let run := longestZeroRun groups
  if run.2 < 2 then groupChars groups
  else groupChars (groups.take run.1) ++ [':', ':'] ++ groupChars (groups.drop (run.1 + run.2))

/-- The shortened groups; a mapped IPv4 address keeps its dots. -/
def chars (address : Ipv6) : List Char :=
  match address.mapped? with
  | some mapped => [':', ':', 'f', 'f', 'f', 'f', ':'] ++ mapped.chars
  | none => shortened address.groups

/-- A group has one to four hexadecimal digits. -/
def group? (text : List Char) : Option UInt16 :=
  if text.length ≤ 4 then (numeralBelow? 16 UInt16.size text).map UInt16.ofNat else none

theorem group?_hexadecimal (group : UInt16) : group? (hexadecimal group.toNat) = some group := by
  have bound : group.toNat < UInt16.size := group.toNat_lt_size
  have short : (hexadecimal group.toNat).length ≤ 4 :=
    (Nat.length_toDigits_le_iff (by decide) (by decide)).2 bound
  simp [group?, short, numeralBelow?_hexadecimal bound]

/-- The parts before and after the first two colons in a row. -/
def cutDoubleColon : List Char → Option (List Char × List Char)
  | [] => none
  | ':' :: ':' :: rest => some ([], rest)
  | c :: rest => (cutDoubleColon rest).map fun parts => (c :: parts.1, parts.2)

/-- The groups of the pieces between colons, where the last piece may be a dotted IPv4 address. -/
def groupsOfPieces? : List (List Char) → Option (List UInt16)
  | [] => some []
  | [last] =>
    match Ipv4.ofChars? last with
    | some dotted => some dotted.groups
    | none => (group? last).map fun group => [group]
  | piece :: more => (group? piece).bind fun group => (groupsOfPieces? more).map (group :: ·)

/-- The groups after `::`; there may be none. -/
def groupsAfter? (text : List Char) : Option (List UInt16) :=
  if text = [] then some [] else groupsOfPieces? (text.splitOn ':')

/-- The groups before `::`; there may be none, and none is dotted. -/
def groupsBefore? (text : List Char) : Option (List UInt16) :=
  if text = [] then some [] else (text.splitOn ':').mapM group?

/-- Puts zero groups between the two parts, at least one. -/
def fillZeros? (before after : List UInt16) : Option Ipv6 :=
  if before.length + after.length < 8 then
    ofGroups? (before ++ List.replicate (8 - (before.length + after.length)) 0 ++ after)
  else none

/-- Reads eight groups, or fewer around one `::` that stands for the missing ones. -/
def ofChars? (text : List Char) : Option Ipv6 :=
  match cutDoubleColon text with
  | none => (groupsOfPieces? (text.splitOn ':')).bind ofGroups?
  | some (before, after) =>
    (groupsBefore? before).bind fun first => (groupsAfter? after).bind (fillZeros? first)

end Ipv6

namespace Address

/-- The written form of an address. -/
def chars : Address → List Char
  | v4 address => address.chars
  | v6 address => address.chars

/-- The written form of an address, as a string. -/
def text (address : Address) : String :=
  String.ofList address.chars

/-- Reads an address of either version. -/
def ofChars? (text : List Char) : Option Address :=
  match Ipv4.ofChars? text with
  | some address => some (v4 address)
  | none => (Ipv6.ofChars? text).map v6

/-- Reads an address of either version from a string. -/
def parse? (text : String) : Option Address :=
  ofChars? text.toList

/-- What is said of a text that is no address. -/
def syntaxMessage : String := "invalid IP address syntax"

end Address

end Attribution
