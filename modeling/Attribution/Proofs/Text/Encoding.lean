import Mathlib.Data.String.Basic
import Mathlib.Order.Monotone.Basic

/-!
# The order of texts

Texts are compared by their characters, and a store may compare their bytes instead. Both are the
same order: the UTF-8 encoding keeps the order of the scalar values, since a larger scalar value has
a larger byte at the first place where the encodings differ, whatever comes after.
-/

namespace Attribution.Text

/-- The Unicode scalar values of a text. -/
def scalars (text : String) : List Nat :=
  text.toList.map Char.toNat

/-- The bytes of a text in UTF-8, as numbers. -/
def bytes (text : String) : List Nat :=
  text.toUTF8.data.toList.map UInt8.toNat

/-- The bytes that encode a scalar value. -/
def units (scalar : Nat) : List Nat :=
  if scalar ≤ 0x7f then [scalar]
  else if scalar ≤ 0x7ff then [0xc0 + scalar / 64, 0x80 + scalar % 64]
  else if scalar ≤ 0xffff then
    [0xe0 + scalar / 4096, 0x80 + scalar / 64 % 64, 0x80 + scalar % 64]
  else
    [0xf0 + scalar / 262144, 0x80 + scalar / 4096 % 64, 0x80 + scalar / 64 % 64,
      0x80 + scalar % 64]

theorem map_utf8EncodeChar (c : Char) :
    (String.utf8EncodeChar c).map UInt8.toNat = units c.toNat := by
  have bound : c.val.toNat < 0x110000 := by
    rcases c.valid with low | high
    · exact Nat.lt_of_lt_of_le low (by decide)
    · exact high.2
  simp only [String.utf8EncodeChar, units, Char.toNat]
  split_ifs <;> simp only [List.map_cons, List.map_nil, UInt8.toNat_ofNat', List.cons.injEq,
    and_true] <;> omega

theorem toList_utf8Encode (text : List Char) :
    text.utf8Encode.data.toList = text.flatMap String.utf8EncodeChar := by
  simp [List.utf8Encode]

theorem bytes_eq_flatMap (text : String) : bytes text = (scalars text).flatMap units := by
  rw [bytes, scalars, String.toUTF8_eq_toByteArray, ← String.utf8Encode_toList, toList_utf8Encode,
    List.map_flatMap, List.flatMap_map]
  simp only [map_utf8EncodeChar]

/-! ### The encoding keeps the order -/

/-- The first bytes decide, or the bytes after equal first ones. -/
theorem units_lt {v w : Nat} (h : v < w) (rest other : List Nat) :
    units v ++ rest < units w ++ other := by
  simp only [units]
  split_ifs <;>
    simp only [List.cons_append, List.nil_append, List.cons_lt_cons_iff] <;> omega

theorem units_ne_nil (scalar : Nat) : units scalar ≠ [] := by
  simp only [units]
  split_ifs <;> exact List.cons_ne_nil _ _

theorem flatMap_units_strictMono : StrictMono fun scalars : List Nat => scalars.flatMap units := by
  intro x y less
  induction x generalizing y with
  | nil =>
    cases y with
    | nil => exact absurd less (lt_irrefl _)
    | cons w y =>
      obtain ⟨first, more, hu⟩ := List.exists_cons_of_ne_nil (units_ne_nil w)
      simp [hu]
  | cons v x ih =>
    cases y with
    | nil => exact absurd less (by simp)
    | cons w y =>
      rcases List.cons_lt_cons_iff.1 less with below | ⟨rfl, after⟩
      · exact units_lt below _ _
      · exact List.append_left_lt (ih after)

theorem scalars_strictMono : StrictMono scalars := fun _ _ less =>
  List.map_lt (fun _ _ below => below) (String.lt_iff_toList_lt.1 less)

theorem bytes_strictMono : StrictMono bytes := by
  rw [funext bytes_eq_flatMap]
  exact flatMap_units_strictMono.comp scalars_strictMono

end Attribution.Text
