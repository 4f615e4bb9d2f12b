/-!
# Addresses

IPv4 and IPv6 addresses as sequences of words of fixed length, most significant first. An IPv4
address and the IPv6 address that embeds it are different addresses. All IPv4 addresses come
before all IPv6 addresses, and within a version the order is the lexicographic one of the words,
which is the order of the addresses read as numbers.
-/

namespace Attribution

/-- An IPv4 address: four octets. -/
structure Ipv4 where
  octets : List UInt8
  length_octets : octets.length = 4
  deriving DecidableEq

/-- An IPv6 address: eight groups of sixteen bits. -/
structure Ipv6 where
  groups : List UInt16
  length_groups : groups.length = 8
  deriving DecidableEq

/-- The address of a host, of either version. -/
inductive Address where
  | v4 (address : Ipv4)
  | v6 (address : Ipv6)
  deriving DecidableEq

namespace Ipv4

/-- The address with the given octets, if there are four. -/
def ofOctets? (octets : List UInt8) : Option Ipv4 :=
  if h : octets.length = 4 then some ⟨octets, h⟩ else none

/-- The address `a.b.c.d`. -/
def of (a b c d : UInt8) : Ipv4 := ⟨[a, b, c, d], rfl⟩

/-- The address as a number below `2 ^ 32`. -/
def value (address : Ipv4) : Nat :=
  address.octets.foldl (fun value octet => 256 * value + octet.toNat) 0

instance : Ord Ipv4 := ⟨compareOn octets⟩

instance : Inhabited Ipv4 := ⟨of 0 0 0 0⟩

theorem octets_injective {x y : Ipv4} (h : x.octets = y.octets) : x = y := by
  cases x; cases y; simp_all

theorem compare_def (x y : Ipv4) : compare x y = compare x.octets y.octets := rfl

@[simp] theorem ofOctets?_octets (address : Ipv4) : ofOctets? address.octets = some address := by
  simp [ofOctets?, address.length_octets]

instance : Std.TransOrd Ipv4 := inferInstanceAs (Std.TransCmp (compareOn octets))

instance : Std.LawfulEqOrd Ipv4 where
  eq_of_compare h := octets_injective (Std.LawfulEqCmp.eq_of_compare h)

end Ipv4

namespace Ipv6

/-- The address with the given groups, if there are eight. -/
def ofGroups? (groups : List UInt16) : Option Ipv6 :=
  if h : groups.length = 8 then some ⟨groups, h⟩ else none

/-- The address as a number below `2 ^ 128`. -/
def value (address : Ipv6) : Nat :=
  address.groups.foldl (fun value group => 65536 * value + group.toNat) 0

instance : Ord Ipv6 := ⟨compareOn groups⟩

instance : Inhabited Ipv6 := ⟨⟨[0, 0, 0, 0, 0, 0, 0, 0], rfl⟩⟩

theorem groups_injective {x y : Ipv6} (h : x.groups = y.groups) : x = y := by
  cases x; cases y; simp_all

theorem compare_def (x y : Ipv6) : compare x y = compare x.groups y.groups := rfl

@[simp] theorem ofGroups?_groups (address : Ipv6) : ofGroups? address.groups = some address := by
  simp [ofGroups?, address.length_groups]

instance : Std.TransOrd Ipv6 := inferInstanceAs (Std.TransCmp (compareOn groups))

instance : Std.LawfulEqOrd Ipv6 where
  eq_of_compare h := groups_injective (Std.LawfulEqCmp.eq_of_compare h)

end Ipv6

namespace Address

/-- Whether the address is an IPv6 address. -/
def isV6 : Address → Bool
  | v4 _ => false
  | v6 _ => true

instance : Inhabited Address := ⟨v4 default⟩

instance : Ord Address where
  compare
    | v4 x, v4 y => compare x y
    | v4 _, v6 _ => .lt
    | v6 _, v4 _ => .gt
    | v6 x, v6 y => compare x y

@[simp] theorem compare_v4_v4 (x y : Ipv4) : compare (v4 x) (v4 y) = compare x y := rfl
@[simp] theorem compare_v4_v6 (x : Ipv4) (y : Ipv6) : compare (v4 x) (v6 y) = .lt := rfl
@[simp] theorem compare_v6_v4 (x : Ipv6) (y : Ipv4) : compare (v6 x) (v4 y) = .gt := rfl
@[simp] theorem compare_v6_v6 (x y : Ipv6) : compare (v6 x) (v6 y) = compare x y := rfl

instance : Std.TransOrd Address where
  eq_swap {a b} := by
    cases a <;> cases b <;> simp [← Std.OrientedOrd.eq_swap]
  isLE_trans {a b c} hab hbc := by
    cases a <;> cases b <;> cases c <;> simp_all
    all_goals exact Std.TransOrd.isLE_trans hab hbc

instance : Std.LawfulEqOrd Address where
  eq_of_compare {a b} h := by
    cases a <;> cases b <;> simp_all

end Address

end Attribution
