import Attribution.Proofs.Address.Writing
import Attribution.SocketAddress

/-!
# Which texts denote socket addresses

The grammar of socket addresses, over that of addresses. No part of a socket address holds the sign
that ends it, so cutting at the first colon, bracket or percent sign finds the parts. A scope may be
given as zero, but it is only written if it is not; what is written denotes what it was written for.
-/

namespace Attribution.SocketAddress

open Attribution.Text

/-- The text is empty, or it names the scope in decimal digits after a percent sign. -/
inductive IsScope : List Char → UInt32 → Prop
  | absent : IsScope [] 0
  | given {digits : List Char} {scope : UInt32} (numeral : IsNumeral 10 digits scope.toNat) :
      IsScope ('%' :: digits) scope

/-- The text consists of an address, in brackets and perhaps with a scope if it is an IPv6 address,
and of a port. -/
inductive Denotes : List Char → SocketAddress → Prop
  | v4 {host digits : List Char} {address : Ipv4} {port : UInt16}
      (is_address : Ipv4.Denotes host address) (is_port : IsNumeral 10 digits port.toNat) :
      Denotes (host ++ ':' :: digits) (.v4 address port)
  | v6 {host suffix digits : List Char} {address : Ipv6} {scope : UInt32} {port : UInt16}
      (is_address : Ipv6.Denotes host address) (is_scope : IsScope suffix scope)
      (is_port : IsNumeral 10 digits port.toNat) :
      Denotes ('[' :: (host ++ suffix ++ [']', ':'] ++ digits)) (.v6 address scope port)

variable {text : List Char} {socket : SocketAddress}

theorem port?_eq_some_iff {port : UInt16} : port? text = some port ↔ IsNumeral 10 text port.toNat :=
  map_numeralBelow?_eq_some_iff (by decide) port.toNat_lt_size (fun _ => UInt16.ofNat_toNat)
    fun _ => UInt16.toNat_ofNat_of_lt'

theorem scope?_eq_some_iff {scope : UInt32} :
    scope? text = some scope ↔ IsNumeral 10 text scope.toNat :=
  map_numeralBelow?_eq_some_iff (by decide) scope.toNat_lt_size (fun _ => UInt32.ofNat_toNat)
    fun _ => UInt32.toNat_ofNat_of_lt'

theorem IsScope.not_mem {scope : UInt32} (h : IsScope text scope) {c : Char}
    (apart : c.isAlphanum = false) (other : c ≠ '%') : c ∉ text := by
  cases h with
  | absent => exact List.not_mem_nil
  | given numeral =>
    rw [List.mem_cons, not_or]
    exact ⟨other, numeral.not_mem (by decide) apart⟩

theorem v4OfChars?_eq_some_iff :
    v4OfChars? text = some socket ↔ ∃ host digits address port, text = host ++ ':' :: digits ∧
      Ipv4.Denotes host address ∧ IsNumeral 10 digits port.toNat ∧ socket = .v4 address port := by
  simp only [v4OfChars?, Option.bind_eq_some_iff, Option.map_eq_some_iff, Prod.exists,
    cutFirst_eq_some_iff, Ipv4.ofChars?_eq_some_iff, port?_eq_some_iff]
  constructor
  · rintro ⟨host, digits, ⟨rfl, -⟩, address, is_address, port, is_port, rfl⟩
    exact ⟨host, digits, address, port, rfl, is_address, is_port, rfl⟩
  · rintro ⟨host, digits, address, port, rfl, is_address, is_port, rfl⟩
    exact ⟨host, digits, ⟨rfl, is_address.not_mem rfl (by decide)⟩, address, is_address, port,
      is_port, rfl⟩

/-- What begins with a bracket is no IPv4 socket address. -/
theorem v4OfChars?_bracket (rest : List Char) : v4OfChars? ('[' :: rest) = none := by
  rw [Option.eq_none_iff_forall_ne_some]
  intro socket read
  obtain ⟨host, digits, address, port, whole, is_address, -, -⟩ := v4OfChars?_eq_some_iff.1 read
  cases host with
  | nil => cases is_address.dot_mem
  | cons c more =>
    cases whole
    exact is_address.not_mem rfl (by decide) List.mem_cons_self

theorem hostOfChars?_eq_some_iff {address : Ipv6} {scope : UInt32} :
    hostOfChars? text = some (address, scope) ↔ ∃ host suffix, text = host ++ suffix ∧
      Ipv6.Denotes host address ∧ IsScope suffix scope := by
  constructor
  · intro read
    rw [hostOfChars?] at read
    split at read
    · obtain ⟨found, is_address, same⟩ := Option.map_eq_some_iff.1 read
      cases same
      exact ⟨text, [], (List.append_nil text).symm, Ipv6.ofChars?_eq_some_iff.1 is_address, .absent⟩
    · next host digits cut =>
      simp only [Option.bind_eq_some_iff, Option.map_eq_some_iff, Ipv6.ofChars?_eq_some_iff,
        scope?_eq_some_iff] at read
      obtain ⟨found, is_address, number, is_scope, same⟩ := read
      cases same
      exact ⟨host, '%' :: digits, (cutFirst_eq_some_iff.1 cut).1, is_address, .given is_scope⟩
  · rintro ⟨host, suffix, rfl, is_address, is_scope⟩
    have apart := is_address.not_mem (c := '%') rfl (by decide) (by decide)
    cases is_scope with
    | absent =>
      rw [List.append_nil, hostOfChars?, cutFirst_eq_none_iff.2 apart]
      exact Option.map_eq_some_iff.2 ⟨address, Ipv6.ofChars?_eq_some_iff.2 is_address, rfl⟩
    | given numeral =>
      rw [hostOfChars?, cutFirst_eq_some_iff.2 ⟨rfl, apart⟩]
      dsimp only
      rw [Ipv6.ofChars?_eq_some_iff.2 is_address, scope?_eq_some_iff.2 numeral]
      rfl

theorem v6OfChars?_eq_some_iff :
    v6OfChars? text = some socket ↔ ∃ host suffix digits address scope port,
      text = '[' :: (host ++ suffix ++ [']', ':'] ++ digits) ∧ Ipv6.Denotes host address ∧
        IsScope suffix scope ∧ IsNumeral 10 digits port.toNat ∧
        socket = .v6 address scope port := by
  constructor
  · intro read
    rw [v6OfChars?.eq_def] at read
    split at read
    · split at read
      · next inside digits cut =>
        simp only [Option.bind_eq_some_iff, Option.map_eq_some_iff, Prod.exists,
          hostOfChars?_eq_some_iff, port?_eq_some_iff] at read
        obtain ⟨address, scope, ⟨host, suffix, rfl, is_address, is_scope⟩, port, is_port, rfl⟩ :=
          read
        rw [(cutFirst_eq_some_iff.1 cut).1]
        exact ⟨host, suffix, digits, address, scope, port, by simp, is_address, is_scope, is_port,
          rfl⟩
      · cases read
    · cases read
  · rintro ⟨host, suffix, digits, address, scope, port, rfl, is_address, is_scope, is_port, rfl⟩
    have cut : cutFirst ']' (host ++ suffix ++ [']', ':'] ++ digits) =
        some (host ++ suffix, ':' :: digits) := by
      rw [cutFirst_eq_some_iff, List.mem_append, not_or]
      exact ⟨by simp, is_address.not_mem rfl (by decide) (by decide),
        is_scope.not_mem rfl (by decide)⟩
    rw [v6OfChars?, cut]
    simp only [Option.bind_eq_some_iff, Option.map_eq_some_iff, Prod.exists,
      hostOfChars?_eq_some_iff, port?_eq_some_iff]
    exact ⟨address, scope, ⟨host, suffix, rfl, is_address, is_scope⟩, port, is_port, rfl⟩

/-- A text is read as a socket address exactly if it denotes it. -/
theorem ofChars?_eq_some_iff : ofChars? text = some socket ↔ Denotes text socket := by
  rw [ofChars?, Option.or_eq_some_iff, v4OfChars?_eq_some_iff, v6OfChars?_eq_some_iff]
  constructor
  · rintro (⟨host, digits, address, port, rfl, is_address, is_port, rfl⟩ |
      ⟨-, host, suffix, digits, address, scope, port, rfl, is_address, is_scope, is_port, rfl⟩)
    · exact .v4 is_address is_port
    · exact .v6 is_address is_scope is_port
  · intro denotes
    cases denotes with
    | v4 is_address is_port => exact .inl ⟨_, _, _, _, rfl, is_address, is_port, rfl⟩
    | v6 is_address is_scope is_port =>
      exact .inr ⟨v4OfChars?_bracket _, _, _, _, _, _, _, rfl, is_address, is_scope, is_port, rfl⟩

/-- Apart from letters and digits a socket address holds nothing but the signs between its parts. -/
theorem Denotes.not_mem (h : Denotes text socket) {c : Char} (apart : c.isAlphanum = false)
    (other : c ∉ ['.', ':', '%', '[', ']']) : c ∉ text := by
  simp only [List.mem_cons, List.not_mem_nil, or_false, not_or] at other
  obtain ⟨dot, colon, percent, opening, closing⟩ := other
  cases h with
  | v4 is_address is_port =>
    rw [List.mem_append, List.mem_cons, not_or, not_or]
    exact ⟨is_address.not_mem apart dot, colon, is_port.not_mem (by decide) apart⟩
  | v6 is_address is_scope is_port =>
    simp only [List.mem_cons, List.mem_append, List.not_mem_nil, or_false, not_or]
    exact ⟨opening, ⟨⟨is_address.not_mem apart dot colon, is_scope.not_mem apart percent⟩,
      closing, colon⟩, is_port.not_mem (by decide) apart⟩

/-- A socket address holds no slash. -/
theorem Denotes.slash_not_mem (h : Denotes text socket) : '/' ∉ text :=
  h.not_mem rfl (by decide)

theorem isScope_scopeChars (scope : UInt32) : IsScope (scopeChars scope) scope := by
  rw [scopeChars]
  split
  · next zero =>
    rw [zero]
    exact .absent
  · exact .given (isNumeral_decimal scope.toNat)

/-- What is written for a socket address denotes it. -/
theorem denotes_chars (socket : SocketAddress) : Denotes socket.chars socket := by
  cases socket with
  | v4 address port => exact .v4 address.denotes_chars (isNumeral_decimal port.toNat)
  | v6 address scope port =>
    exact .v6 address.denotes_chars (isScope_scopeChars scope) (isNumeral_decimal port.toNat)

end Attribution.SocketAddress
