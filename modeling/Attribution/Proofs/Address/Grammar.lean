import Attribution.Address.Text
import Attribution.Proofs.Text.Numeral
import Attribution.Proofs.Text.Reading

/-!
# Which texts denote addresses

The grammar of addresses as relations between texts and what they denote. They say which parts a
text is put together from, not how the parts are found. Reading an address finds parts exactly if
there are any, so a text is read exactly if it is in the grammar, and as what it denotes.
-/

namespace Attribution

open Attribution.Text

namespace Ipv4

/-- The text consists of one to three decimal digits, the first no leading zero, and the octet is
their value; so the value is at most 255. -/
def IsOctet (text : List Char) (octet : UInt8) : Prop :=
  IsNumeral 10 text octet.toNat ∧ text.length ≤ 3 ∧ (text.head? = some '0' → text.length = 1)

/-- The text consists of four octets between dots, those of the address. -/
def Denotes (text : List Char) (address : Ipv4) : Prop :=
  ∃ parts, text = ['.'].intercalate parts ∧ List.Forall₂ IsOctet parts address.octets

variable {text : List Char} {address : Ipv4}

theorem octet?_eq_some_iff (text : List Char) (octet : UInt8) :
    octet? text = some octet ↔ IsOctet text octet := by
  have word : (numeralBelow? 10 UInt8.size text).map UInt8.ofNat = some octet ↔
      IsNumeral 10 text octet.toNat :=
    map_numeralBelow?_eq_some_iff (by decide) octet.toNat_lt_size (fun _ => UInt8.ofNat_toNat)
      fun _ => UInt8.toNat_ofNat_of_lt'
  rw [octet?]
  split
  · next short =>
    rw [word]
    constructor
    · exact fun numeral => ⟨numeral, short.1, fun zero => short.2.resolve_left (absurd zero)⟩
    · exact And.left
  · next long =>
    constructor
    · exact nofun
    · rintro ⟨-, short, zero⟩
      exact absurd ⟨short, or_iff_not_imp_left.2 fun leading => zero (not_not.1 leading)⟩ long

/-- What stands between the dots holds none. -/
theorem not_mem_of_forall₂ {parts : List (List Char)} {octets : List UInt8}
    (h : List.Forall₂ IsOctet parts octets) {c : Char} (apart : c.isAlphanum = false) :
    ∀ part ∈ parts, c ∉ part :=
  ((List.forall₂_and_left parts octets).1
    (h.imp fun _ _ octet => ⟨octet.1.not_mem (by decide) apart, octet⟩)).1

theorem Denotes.not_mem (h : Denotes text address) {c : Char} (apart : c.isAlphanum = false)
    (other : c ≠ '.') : c ∉ text := by
  obtain ⟨parts, rfl, octets⟩ := h
  exact not_mem_intercalate other (not_mem_of_forall₂ octets apart)

theorem Denotes.dot_mem (h : Denotes text address) : '.' ∈ text := by
  obtain ⟨parts, rfl, octets⟩ := h
  have four := octets.length_eq
  rw [address.length_octets] at four
  match parts, four with
  | first :: second :: more, _ => simp [List.intercalate_cons_cons]

theorem ofOctets?_eq_some_iff {octets : List UInt8} :
    ofOctets? octets = some address ↔ octets = address.octets := by
  constructor
  · intro whole
    rw [ofOctets?] at whole
    split at whole
    · cases whole
      rfl
    · cases whole
  · rintro rfl
    exact ofOctets?_octets address

/-- A text is read as an IPv4 address exactly if it denotes it. -/
theorem ofChars?_eq_some_iff : ofChars? text = some address ↔ Denotes text address := by
  simp only [ofChars?, Option.bind_eq_some_iff, mapM_eq_some_iff_forall₂ octet?_eq_some_iff,
    ofOctets?_eq_some_iff]
  constructor
  · rintro ⟨_, octets, rfl⟩
    exact ⟨text.splitOn '.', (List.intercalate_splitOn '.').symm, octets⟩
  · rintro ⟨parts, rfl, octets⟩
    have nonempty : parts ≠ [] := by
      rintro rfl
      have := octets.length_eq
      rw [address.length_octets] at this
      cases this
    rw [List.splitOn_intercalate '.' (not_mem_of_forall₂ octets rfl) nonempty]
    exact ⟨address.octets, octets, rfl⟩

theorem exists_eq_of (address : Ipv4) : ∃ a b c d, address = of a b c d := by
  obtain ⟨octets, four⟩ := address
  match octets, four with
  | [a, b, c, d], _ => exact ⟨a, b, c, d, rfl⟩

end Ipv4

namespace Ipv6

/-- The text consists of one to four hexadecimal digits, and the group is their value. -/
def IsGroup (text : List Char) (group : UInt16) : Prop :=
  IsNumeral 16 text group.toNat ∧ text.length ≤ 4

/-- The parts stand for the groups, one each; but the last part may be a dotted IPv4 address, which
stands for two. -/
inductive IsRow : List (List Char) → List UInt16 → Prop
  | nil : IsRow [] []
  | dotted {part : List Char} {a b c d : UInt8} {high low : UInt16}
      (address : Ipv4.Denotes part (.of a b c d)) (high_eq : high.toNat = 256 * a.toNat + b.toNat)
      (low_eq : low.toNat = 256 * c.toNat + d.toNat) : IsRow [part] [high, low]
  | cons {part : List Char} {group : UInt16} {parts : List (List Char)} {groups : List UInt16}
      (first : IsGroup part group) (rest : IsRow parts groups) :
      IsRow (part :: parts) (group :: groups)

/-- The text consists of groups between colons, those of the address. -/
inductive Denotes : List Char → Ipv6 → Prop
  /-- All eight groups are there. -/
  | full {parts : List (List Char)} {address : Ipv6} (row : IsRow parts address.groups) :
      Denotes ([':'].intercalate parts) address
  /-- Two colons stand for one or more zero groups. None of the groups before them is dotted. -/
  | shortened {before after : List (List Char)} {first second : List UInt16} {zeros : Nat}
      {address : Ipv6} (row_before : List.Forall₂ IsGroup before first)
      (row_after : IsRow after second)
      (groups_eq : address.groups = first ++ List.replicate (zeros + 1) 0 ++ second) :
      Denotes ([':'].intercalate before ++ [':', ':'] ++ [':'].intercalate after) address

variable {text : List Char} {parts : List (List Char)} {groups : List UInt16} {address : Ipv6}

/-! ### Groups -/

theorem group?_eq_some_iff (text : List Char) (group : UInt16) :
    group? text = some group ↔ IsGroup text group := by
  have word : (numeralBelow? 16 UInt16.size text).map UInt16.ofNat = some group ↔
      IsNumeral 16 text group.toNat :=
    map_numeralBelow?_eq_some_iff (by decide) group.toNat_lt_size (fun _ => UInt16.ofNat_toNat)
      fun _ => UInt16.toNat_ofNat_of_lt'
  rw [group?]
  split
  · next short =>
    rw [word]
    exact ⟨fun numeral => ⟨numeral, short⟩, And.left⟩
  · next long =>
    constructor
    · intro found
      cases found
    · exact fun group => absurd group.2 long

/-- The two groups that a dotted address stands for. -/
theorem groups_of_eq_iff {a b c d : UInt8} :
    (Ipv4.of a b c d).groups = groups ↔ ∃ high low : UInt16, groups = [high, low] ∧
      high.toNat = 256 * a.toNat + b.toNat ∧ low.toNat = 256 * c.toNat + d.toNat := by
  have value (x y : UInt8) : (x.toUInt16 * 256 + y.toUInt16).toNat = 256 * x.toNat + y.toNat := by
    have := x.toNat_lt
    have := y.toNat_lt
    simp [UInt16.toNat_add, UInt16.toNat_mul]
    omega
  constructor
  · rintro rfl
    exact ⟨_, _, rfl, value a b, value c d⟩
  · rintro ⟨high, low, rfl, high_eq, low_eq⟩
    rw [← value, UInt16.toNat_inj] at high_eq low_eq
    rw [high_eq, low_eq]
    rfl

theorem IsRow.eq_nil (h : IsRow [] groups) : groups = [] := by
  cases h
  rfl

/-- What stands between colons is not empty, and there are no others within it. -/
def IsSolid (part : List Char) : Prop :=
  part ≠ [] ∧ ':' ∉ part

theorem IsRow.of_forall₂ (h : List.Forall₂ IsGroup parts groups) : IsRow parts groups := by
  induction h with
  | nil => exact .nil
  | cons first _ ih => exact .cons first ih

/-- What holds of groups and of dotted addresses holds of all parts of a row. -/
theorem IsRow.forall_mem {property : List Char → Prop} (h : IsRow parts groups)
    (of_group : ∀ {part group}, IsGroup part group → property part)
    (of_dotted : ∀ {part address}, Ipv4.Denotes part address → property part) :
    ∀ part ∈ parts, property part := by
  induction h with
  | nil => exact List.forall_mem_nil _
  | dotted address => exact List.forall_mem_singleton.2 (of_dotted address)
  | cons first _ ih => exact List.forall_mem_cons.2 ⟨of_group first, ih⟩

theorem IsRow.isSolid (h : IsRow parts groups) : ∀ part ∈ parts, IsSolid part :=
  h.forall_mem (fun group => ⟨group.1.1, group.1.not_mem (by decide) rfl⟩)
    fun dotted => ⟨List.ne_nil_of_mem dotted.dot_mem, dotted.not_mem rfl (by decide)⟩

theorem IsRow.not_mem_intercalate (h : IsRow parts groups) {c : Char}
    (apart : c.isAlphanum = false) (dot : c ≠ '.') (colon : c ≠ ':') :
    c ∉ [':'].intercalate parts :=
  Text.not_mem_intercalate colon
    (h.forall_mem (fun group => group.1.not_mem (by decide) apart)
      fun dotted => dotted.not_mem apart dot)

theorem groupsOfPieces?_singleton_eq_some_iff {part : List Char} :
    groupsOfPieces? [part] = some groups ↔ IsRow [part] groups := by
  rw [groupsOfPieces?]
  split
  · next found dotted =>
    obtain ⟨a, b, c, d, rfl⟩ := found.exists_eq_of
    have address := Ipv4.ofChars?_eq_some_iff.1 dotted
    rw [Option.some.injEq, groups_of_eq_iff]
    constructor
    · rintro ⟨high, low, rfl, high_eq, low_eq⟩
      exact .dotted address high_eq low_eq
    · intro row
      cases row with
      | dotted other high_eq low_eq =>
        rw [Ipv4.ofChars?_eq_some_iff.2 other] at dotted
        cases dotted
        exact ⟨_, _, rfl, high_eq, low_eq⟩
      | cons group _ => exact absurd address.dot_mem (group.1.not_mem (by decide) rfl)
  · next undotted =>
    simp only [Option.map_eq_some_iff, group?_eq_some_iff]
    constructor
    · rintro ⟨group, is_group, rfl⟩
      exact .cons is_group .nil
    · intro row
      cases row with
      | dotted address =>
        rw [Ipv4.ofChars?_eq_some_iff.2 address] at undotted
        cases undotted
      | cons is_group rest =>
        obtain rfl := rest.eq_nil
        exact ⟨_, is_group, rfl⟩

theorem groupsOfPieces?_eq_some_iff : groupsOfPieces? parts = some groups ↔ IsRow parts groups := by
  induction parts generalizing groups with
  | nil =>
    rw [groupsOfPieces?, Option.some.injEq]
    refine ⟨?_, fun row => row.eq_nil.symm⟩
    rintro rfl
    exact .nil
  | cons part more ih =>
    cases more with
    | nil => exact groupsOfPieces?_singleton_eq_some_iff
    | cons next more =>
      simp only [groupsOfPieces?, Option.bind_eq_some_iff, Option.map_eq_some_iff,
        group?_eq_some_iff, ih]
      constructor
      · rintro ⟨group, first, others, rest, rfl⟩
        exact .cons first rest
      · intro row
        cases row with
        | cons first rest => exact ⟨_, first, _, rest, rfl⟩

/-! ### Double colons -/

theorem cutDoubleColon_cons {c : Char} (other : c ≠ ':') (rest : List Char) :
    cutDoubleColon (c :: rest) = (cutDoubleColon rest).map fun cut => (c :: cut.1, cut.2) := by
  rw [cutDoubleColon]
  exact fun _ colon => absurd colon other

theorem cutDoubleColon_colon {c : Char} (other : c ≠ ':') (rest : List Char) :
    cutDoubleColon (':' :: c :: rest) =
      (cutDoubleColon (c :: rest)).map fun cut => (':' :: cut.1, cut.2) := by
  rw [cutDoubleColon]
  rintro _ - same
  exact other (List.cons.inj same).1

theorem cutDoubleColon_append {part : List Char} (apart : ':' ∉ part) (rest : List Char) :
    cutDoubleColon (part ++ rest) =
      (cutDoubleColon rest).map fun cut => (part ++ cut.1, cut.2) := by
  induction part with
  | nil => simp
  | cons c more ih =>
    rw [List.mem_cons, not_or] at apart
    rw [List.cons_append, cutDoubleColon_cons (Ne.symm apart.1), ih apart.2, Option.map_map]
    rfl

theorem exists_intercalate_eq_cons (solid : ∀ part ∈ parts, IsSolid part)
    (nonempty : parts ≠ []) :
    ∃ c rest, [':'].intercalate parts = c :: rest ∧ c ≠ ':' := by
  match parts, nonempty with
  | part :: more, _ =>
    obtain ⟨something, apart⟩ := solid part List.mem_cons_self
    obtain ⟨c, rest, rfl⟩ := List.exists_cons_of_ne_nil something
    have other : c ≠ ':' := fun same => apart (same ▸ List.mem_cons_self)
    cases more with
    | nil => exact ⟨c, rest, List.intercalate_singleton, other⟩
    | cons next more => exact ⟨c, _, List.intercalate_cons_cons, other⟩

/-- Single colons are passed over. -/
theorem cutDoubleColon_intercalate (solid : ∀ part ∈ parts, IsSolid part) (rest : List Char) :
    cutDoubleColon ([':'].intercalate parts ++ rest) =
      (cutDoubleColon rest).map fun cut => ([':'].intercalate parts ++ cut.1, cut.2) := by
  induction parts with
  | nil => simp
  | cons part more ih =>
    have apart := (solid part List.mem_cons_self).2
    have later := fun other there => solid other (List.mem_cons_of_mem part there)
    cases more with
    | nil =>
      rw [List.intercalate_singleton]
      exact cutDoubleColon_append apart rest
    | cons next more =>
      -- The rest of the row does not begin with a colon, so the one before it stands alone.
      obtain ⟨c, start, same, other⟩ :=
        exists_intercalate_eq_cons later (List.cons_ne_nil next more)
      have step := ih later
      rw [List.intercalate_cons_cons]
      rw [same] at step ⊢
      rw [List.append_assoc, List.append_assoc, cutDoubleColon_append apart, List.singleton_append,
        List.cons_append, cutDoubleColon_colon other, ← List.cons_append, step, Option.map_map,
        Option.map_map]
      refine congrArg (Option.map · _) (funext fun cut => ?_)
      simp

theorem eq_of_cutDoubleColon {before after : List Char}
    (h : cutDoubleColon text = some (before, after)) : text = before ++ [':', ':'] ++ after := by
  fun_induction cutDoubleColon text generalizing before with
  | case1 => cases h
  | case2 rest =>
    cases h
    rfl
  | case3 c rest _ ih =>
    obtain ⟨⟨first, second⟩, cut, same⟩ := Option.map_eq_some_iff.1 h
    cases same
    rw [ih cut]
    rfl

/-- What reads rows of pieces also reads texts that are rows between colons, or empty. -/
theorem eq_some_iff_exists_intercalate {read : List (List Char) → Option (List UInt16)}
    {IsRead : List (List Char) → List UInt16 → Prop}
    (reads : ∀ {parts groups}, read parts = some groups ↔ IsRead parts groups)
    (solid : ∀ {parts groups}, IsRead parts groups → ∀ part ∈ parts, IsSolid part)
    (nothing : ∀ {groups}, IsRead [] groups ↔ groups = []) :
    (if text = [] then some [] else read (text.splitOn ':')) = some groups ↔
      ∃ parts, text = [':'].intercalate parts ∧ IsRead parts groups := by
  constructor
  · split
    · next empty =>
      rintro ⟨⟩
      exact ⟨[], empty, nothing.2 rfl⟩
    · next there =>
      exact fun row => ⟨text.splitOn ':', (List.intercalate_splitOn ':').symm, reads.1 row⟩
  · rintro ⟨parts, rfl, row⟩
    by_cases empty : parts = []
    · subst empty
      rw [nothing.1 row]
      rfl
    · obtain ⟨c, rest, start, -⟩ := exists_intercalate_eq_cons (solid row) empty
      rw [if_neg (start ▸ List.cons_ne_nil c rest),
        List.splitOn_intercalate ':' (fun part there => (solid row part there).2) empty]
      exact reads.2 row

theorem groupsBefore?_eq_some_iff :
    groupsBefore? text = some groups ↔
      ∃ parts, text = [':'].intercalate parts ∧ List.Forall₂ IsGroup parts groups :=
  eq_some_iff_exists_intercalate (mapM_eq_some_iff_forall₂ group?_eq_some_iff)
    (fun row => (IsRow.of_forall₂ row).isSolid) List.forall₂_nil_left_iff

theorem groupsAfter?_eq_some_iff :
    groupsAfter? text = some groups ↔
      ∃ parts, text = [':'].intercalate parts ∧ IsRow parts groups :=
  eq_some_iff_exists_intercalate groupsOfPieces?_eq_some_iff IsRow.isSolid
    ⟨IsRow.eq_nil, fun nothing => nothing ▸ .nil⟩

/-! ### Addresses -/

theorem ofGroups?_eq_some_iff : ofGroups? groups = some address ↔ groups = address.groups := by
  constructor
  · intro whole
    rw [ofGroups?] at whole
    split at whole
    · cases whole
      rfl
    · cases whole
  · rintro rfl
    exact ofGroups?_groups address

theorem fillZeros?_eq_some_iff {first second : List UInt16} :
    fillZeros? first second = some address ↔
      ∃ zeros, address.groups = first ++ List.replicate (zeros + 1) 0 ++ second := by
  rw [fillZeros?]
  split
  · next fits =>
    rw [ofGroups?_eq_some_iff]
    constructor
    · intro whole
      refine ⟨8 - (first.length + second.length) - 1, ?_⟩
      rw [← whole, Nat.sub_add_cancel (by omega)]
    · rintro ⟨zeros, whole⟩
      have eight := address.length_groups
      rw [whole, List.length_append, List.length_append, List.length_replicate] at eight
      rw [whole, ← eight]
      congr 3
      omega
  · next full =>
    refine ⟨nofun, ?_⟩
    rintro ⟨zeros, whole⟩
    have eight := address.length_groups
    rw [whole, List.length_append, List.length_append, List.length_replicate] at eight
    omega

/-- A text is read as an IPv6 address exactly if it denotes it. -/
theorem ofChars?_eq_some_iff : ofChars? text = some address ↔ Denotes text address := by
  constructor
  · intro read
    rw [ofChars?] at read
    split at read
    · obtain ⟨groups, row, whole⟩ := Option.bind_eq_some_iff.1 read
      obtain rfl := ofGroups?_eq_some_iff.1 whole
      have cut : [':'].intercalate (text.splitOn ':') = text := List.intercalate_splitOn ':'
      rw [← cut]
      exact .full (groupsOfPieces?_eq_some_iff.1 row)
    · next before after cut =>
      simp only [Option.bind_eq_some_iff, groupsBefore?_eq_some_iff, groupsAfter?_eq_some_iff,
        fillZeros?_eq_some_iff] at read
      obtain ⟨first, ⟨parts, rfl, row⟩, second, ⟨others, rfl, row'⟩, zeros, whole⟩ := read
      rw [eq_of_cutDoubleColon cut]
      exact .shortened row row' whole
  · intro denotes
    cases denotes with
    | @full parts _ row =>
      have nonempty : parts ≠ [] := by
        rintro rfl
        have eight := address.length_groups
        rw [row.eq_nil] at eight
        cases eight
      -- Parts are not empty, so no two colons meet and the text is cut at every colon.
      have single := cutDoubleColon_intercalate row.isSolid []
      rw [List.append_nil] at single
      rw [ofChars?, single,
        List.splitOn_intercalate ':' (fun part there => (row.isSolid part there).2) nonempty,
        groupsOfPieces?_eq_some_iff.2 row]
      exact ofGroups?_groups address
    | @shortened before after _ _ _ _ row row' whole =>
      -- The first two colons that meet are those after the groups before.
      have here : cutDoubleColon ([':', ':'] ++ [':'].intercalate after) =
          some ([], [':'].intercalate after) := cutDoubleColon.eq_2 _
      have solid := (IsRow.of_forall₂ row).isSolid
      have cut := cutDoubleColon_intercalate solid ([':', ':'] ++ [':'].intercalate after)
      rw [here, ← List.append_assoc, Option.map_some, List.append_nil] at cut
      rw [ofChars?, cut]
      simp only [Option.bind_eq_some_iff, groupsBefore?_eq_some_iff, groupsAfter?_eq_some_iff,
        fillZeros?_eq_some_iff]
      exact ⟨_, ⟨before, rfl, row⟩, _, ⟨after, rfl, row'⟩, _, whole⟩

/-- An address consists of letters and digits, dots and colons. -/
theorem Denotes.not_mem (h : Denotes text address) {c : Char} (apart : c.isAlphanum = false)
    (dot : c ≠ '.') (colon : c ≠ ':') : c ∉ text := by
  cases h with
  | full row => exact row.not_mem_intercalate apart dot colon
  | shortened row row' =>
    simp only [List.mem_append, List.mem_cons, List.not_mem_nil, colon, or_self, or_false, not_or]
    exact ⟨(IsRow.of_forall₂ row).not_mem_intercalate apart dot colon,
      row'.not_mem_intercalate apart dot colon⟩

end Ipv6

end Attribution
