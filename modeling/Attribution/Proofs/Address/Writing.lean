import Attribution.Proofs.Address.Grammar
import Mathlib.Data.List.TakeWhile

/-!
# What is written for an address

Of the many texts that denote an IPv6 address one is written: the longest run of zero groups is
left out, and the addresses that map IPv4 addresses end in a dotted part. Whatever the pattern of
zero groups, the groups that are left and the zeros in between are those of the address, and the
dotted part stands for its last two groups. So what is written denotes the address.
-/

namespace Attribution

open Attribution.Text

theorem Ipv4.denotes_chars (address : Ipv4) : Denotes address.chars address :=
  ofChars?_eq_some_iff.1 (ofChars?_chars address)

namespace Ipv6

/-- The longest run of zero groups consists of zeros, wherever it is. -/
theorem eq_append_longestZeroRun (groups : List UInt16) :
    groups = groups.take (longestZeroRun groups).1 ++
      List.replicate (longestZeroRun groups).2 0 ++
      groups.drop ((longestZeroRun groups).1 + (longestZeroRun groups).2) := by
  induction groups with
  | nil => rfl
  | cons group more ih =>
    have zeros : (group :: more).take ((group :: more).takeWhile (· = 0)).length =
        List.replicate ((group :: more).takeWhile (· = 0)).length 0 := by
      rw [← List.prefix_iff_eq_take.1 (List.takeWhile_prefix _), List.eq_replicate_iff]
      exact ⟨rfl, fun x there => by simpa using List.mem_takeWhile_imp there⟩
    rw [longestZeroRun]
    split
    · dsimp only
      rw [List.take_zero, List.nil_append, Nat.zero_add, ← zeros]
      exact (List.take_append_drop _ _).symm
    · dsimp only
      rw [List.take_succ_cons, Nat.add_right_comm, List.drop_succ_cons]
      exact congrArg (group :: ·) ih

theorem forall₂_hexadecimal (groups : List UInt16) :
    List.Forall₂ IsGroup (groups.map fun group => hexadecimal group.toNat) groups := by
  rw [List.forall₂_map_left_iff, List.forall₂_same]
  exact fun group _ => (group?_eq_some_iff _ group).1 (group?_hexadecimal group)

theorem eq_of_mapped? {address : Ipv6} {mapped : Ipv4} (h : address.mapped? = some mapped) :
    ∃ (a b c d : UInt8) (high low : UInt16), mapped = .of a b c d ∧
      address.groups = [0, 0, 0, 0, 0, 0xffff, high, low] ∧
      high.toNat = 256 * a.toNat + b.toNat ∧ low.toNat = 256 * c.toNat + d.toNat := by
  have halves (group : UInt16) :
      group.toNat = 256 * (group >>> 8).toUInt8.toNat + group.toUInt8.toNat := by
    have := group.toNat_lt
    simp [UInt16.toNat_shiftRight, Nat.shiftRight_eq_div_pow]
    omega
  rw [mapped?] at h
  split at h
  · next high low groups_eq =>
    cases h
    exact ⟨_, _, _, _, high, low, rfl, groups_eq, halves high, halves low⟩
  · cases h

theorem denotes_chars (address : Ipv6) : Denotes address.chars address := by
  rw [chars]
  split
  · next mapped maps =>
    obtain ⟨a, b, c, d, high, low, rfl, groups_eq, high_eq, low_eq⟩ := eq_of_mapped? maps
    have dotted : IsRow [(Ipv4.of a b c d).chars] [high, low] :=
      .dotted (Ipv4.denotes_chars _) high_eq low_eq
    have ones : IsGroup ['f', 'f', 'f', 'f'] 0xffff := (group?_eq_some_iff _ _).1 (by decide)
    have zeros : address.groups = [] ++ List.replicate (4 + 1) 0 ++ [0xffff, high, low] := groups_eq
    have denotes : Denotes ([':'].intercalate [] ++ [':', ':'] ++
        [':'].intercalate [['f', 'f', 'f', 'f'], (Ipv4.of a b c d).chars]) address :=
      .shortened .nil (.cons ones dotted) zeros
    rw [List.intercalate_cons_cons, List.intercalate_singleton] at denotes
    exact denotes
  · rw [shortened]
    split
    · exact .full (IsRow.of_forall₂ (forall₂_hexadecimal _))
    · next long =>
      obtain ⟨zeros, run⟩ : ∃ zeros, (longestZeroRun address.groups).2 = zeros + 1 :=
        Nat.exists_eq_succ_of_ne_zero (by omega)
      have groups_eq := eq_append_longestZeroRun address.groups
      rw [run] at groups_eq ⊢
      exact .shortened (forall₂_hexadecimal _) (IsRow.of_forall₂ (forall₂_hexadecimal _)) groups_eq

end Ipv6

end Attribution
