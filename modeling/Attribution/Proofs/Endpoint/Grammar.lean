import Attribution.Endpoint
import Attribution.Proofs.Address.Socket

/-!
# Which texts denote endpoints

An endpoint is a socket address, and a protocol after a slash where it is not TCP. Since neither of
the two holds a slash, the last slash of a text is the one that counts. Where a text is no endpoint
the error tells which of its parts is to blame: what follows the last slash, if that is no protocol,
and the rest otherwise.
-/

namespace Attribution

open Attribution.Text

namespace Protocol

/-- The text is the name of the protocol, each letter in either case. -/
def Denotes (text : List Char) (protocol : Protocol) : Prop :=
  List.Forall₂ (fun c letter => c = letter ∨ c = letter.toUpper) text protocol.chars

variable {text : List Char} {protocol : Protocol}

theorem denotes_iff : Denotes text protocol ↔ text.map Char.toLower = protocol.chars := by
  have lower : ∀ letter ∈ protocol.chars, letter.isLower = true := by
    cases protocol <;> simp [chars]
  exact (map_toLower_eq_iff lower).symm

/-- A text is read as a protocol exactly if it denotes it. -/
theorem ofChars?_eq_some_iff : ofChars? text = some protocol ↔ Denotes text protocol := by
  rw [denotes_iff, ofChars?]
  cases protocol with
  | tcp => simp
  | udp =>
    by_cases other : text.map Char.toLower = tcp.chars
    · simp [other, chars]
    · simp [other]

theorem denotes_chars (protocol : Protocol) : Denotes protocol.chars protocol :=
  List.forall₂_same.2 fun _ _ => .inl rfl

theorem Denotes.slash_not_mem (h : Denotes text protocol) : '/' ∉ text := by
  intro there
  have lower := List.mem_map_of_mem (f := Char.toLower) there
  rw [denotes_iff.1 h] at lower
  cases protocol <;> exact absurd lower (by decide)

end Protocol

namespace Endpoint

/-- The text consists of a socket address, of which a scope is ignored, and of a protocol after a
slash; or of the socket address alone, and the protocol is TCP. -/
inductive Denotes : List Char → Endpoint → Prop
  | bare {part : List Char} {socket : SocketAddress} (no_slash : '/' ∉ part)
      (is_socket : SocketAddress.Denotes part socket) :
      Denotes part ⟨socket.address, socket.port, .tcp⟩
  | named {part name : List Char} {socket : SocketAddress} {protocol : Protocol}
      (no_slash : '/' ∉ part) (is_socket : SocketAddress.Denotes part socket)
      (is_protocol : Protocol.Denotes name protocol) :
      Denotes (part ++ '/' :: name) ⟨socket.address, socket.port, protocol⟩

/-- The part is what has to be a socket address for the text to be an endpoint. -/
def IsAddressPart (text part : List Char) : Prop :=
  ('/' ∉ text ∧ text = part) ∨
    ∃ name protocol, text = part ++ '/' :: name ∧ Protocol.Denotes name protocol

variable {text part : List Char} {endpoint : Endpoint} {protocol : Protocol}
  {name : Option (List Char)} {error : ParseError}

theorem parts_eq_none_iff : parts text = (part, none) ↔ '/' ∉ text ∧ text = part := by
  rw [parts]
  cases cut : cutLast '/' text with
  | none => simp [cutLast_eq_none_iff.1 cut]
  | some found =>
    obtain ⟨before, after⟩ := found
    simp [(cutLast_eq_some_iff.1 cut).1]

theorem parts_eq_some_iff {name : List Char} :
    parts text = (part, some name) ↔ text = part ++ '/' :: name ∧ '/' ∉ name := by
  rw [← cutLast_eq_some_iff, parts]
  cases cutLast '/' text <;> simp [Prod.ext_iff]

/-- A protocol that is not named is TCP. -/
def IsProtocolPart : Option (List Char) → Protocol → Prop
  | none, protocol => protocol = .tcp
  | some name, protocol => Protocol.Denotes name protocol

theorem protocolOf_eq_ok_iff : protocolOf name = .ok protocol ↔ IsProtocolPart name protocol := by
  cases name with
  | none => simp [protocolOf, IsProtocolPart, eq_comm]
  | some name =>
    rw [protocolOf, Protocol.parse, IsProtocolPart, ← Protocol.ofChars?_eq_some_iff,
      String.toList_ofList]
    cases Protocol.ofChars? name <;> simp [Except.mapError]

theorem protocolOf_eq_error_iff :
    protocolOf name = .error error ↔
      ∃ unknown, name = some unknown ∧ (∀ protocol, ¬ Protocol.Denotes unknown protocol) ∧
        error = .protocol ⟨String.ofList unknown⟩ := by
  cases name with
  | none => simp [protocolOf]
  | some name =>
    simp only [← Protocol.ofChars?_eq_some_iff, Option.some.injEq, exists_eq_left']
    rw [protocolOf, Protocol.parse, String.toList_ofList]
    cases Protocol.ofChars? name <;> simp [Except.mapError, eq_comm]

theorem ofSocketAddress_eq_ok_iff :
    ofSocketAddress part protocol = .ok endpoint ↔
      ∃ socket, SocketAddress.Denotes part socket ∧
        endpoint = ⟨socket.address, socket.port, protocol⟩ := by
  simp only [← SocketAddress.ofChars?_eq_some_iff]
  rw [ofSocketAddress]
  cases SocketAddress.ofChars? part <;> simp [eq_comm]

theorem ofSocketAddress_eq_error_iff :
    ofSocketAddress part protocol = .error error ↔
      (∀ socket, ¬ SocketAddress.Denotes part socket) ∧
        error = .socketAddress (String.ofList part) := by
  simp only [← SocketAddress.ofChars?_eq_some_iff]
  rw [ofSocketAddress]
  cases SocketAddress.ofChars? part <;> simp [eq_comm]

/-- What is tried first is the protocol. -/
theorem parse_eq_iff {text : String} {outcome : Except ParseError Endpoint} :
    parse text = outcome ↔ ∃ part name, parts text.toList = (part, name) ∧
      (protocolOf name).bind (ofSocketAddress part) = outcome := by
  rw [parse]
  constructor
  · exact fun tried => ⟨_, _, rfl, tried⟩
  · rintro ⟨part, name, cut, tried⟩
    rw [cut]
    exact tried

theorem parse_eq_ok_iff {text : String} :
    parse text = .ok endpoint ↔ Denotes text.toList endpoint := by
  simp only [parse_eq_iff, Except.bind_eq_ok_iff, protocolOf_eq_ok_iff, ofSocketAddress_eq_ok_iff]
  constructor
  · rintro ⟨part, name, cut, protocol, is_protocol, socket, is_socket, rfl⟩
    cases name with
    | none =>
      obtain ⟨no_slash, rfl⟩ := parts_eq_none_iff.1 cut
      obtain rfl := is_protocol
      exact .bare no_slash is_socket
    | some name =>
      rw [(parts_eq_some_iff.1 cut).1]
      exact .named is_socket.slash_not_mem is_socket is_protocol
  · generalize text.toList = chars
    intro denotes
    cases denotes with
    | bare no_slash is_socket =>
      exact ⟨_, none, parts_eq_none_iff.2 ⟨no_slash, rfl⟩, _, rfl, _, is_socket, rfl⟩
    | named _ is_socket is_protocol =>
      exact ⟨_, some _, parts_eq_some_iff.2 ⟨rfl, is_protocol.slash_not_mem⟩, _, is_protocol, _,
        is_socket, rfl⟩

theorem isAddressPart_iff :
    IsAddressPart text part ↔
      ∃ name protocol, parts text = (part, name) ∧ protocolOf name = .ok protocol := by
  simp only [protocolOf_eq_ok_iff]
  constructor
  · rintro (⟨no_slash, rfl⟩ | ⟨name, protocol, rfl, is_protocol⟩)
    · exact ⟨none, .tcp, parts_eq_none_iff.2 ⟨no_slash, rfl⟩, rfl⟩
    · exact ⟨some name, protocol, parts_eq_some_iff.2 ⟨rfl, is_protocol.slash_not_mem⟩, is_protocol⟩
  · rintro ⟨name, protocol, cut, is_protocol⟩
    cases name with
    | none => exact .inl (parts_eq_none_iff.1 cut)
    | some name => exact .inr ⟨name, protocol, (parts_eq_some_iff.1 cut).1, is_protocol⟩

theorem parse_eq_unknown_iff {text : String} {unknown : Protocol.Unknown} :
    parse text = .error (.protocol unknown) ↔
      ∃ before name, text.toList = before ++ '/' :: name ∧ '/' ∉ name ∧
        (∀ protocol, ¬ Protocol.Denotes name protocol) ∧ unknown = ⟨String.ofList name⟩ := by
  simp only [parse_eq_iff, Except.bind_eq_error_iff, protocolOf_eq_error_iff,
    ofSocketAddress_eq_error_iff]
  constructor
  · rintro ⟨part, _, cut, ⟨name, rfl, none_denoted, same⟩ | ⟨_, _, _, same⟩⟩
    · cases same
      obtain ⟨whole, last⟩ := parts_eq_some_iff.1 cut
      exact ⟨part, name, whole, last, none_denoted, rfl⟩
    · cases same
  · rintro ⟨before, name, whole, last, none_denoted, rfl⟩
    have cut := parts_eq_some_iff.2 ⟨whole, last⟩
    exact ⟨before, some name, cut, .inl ⟨name, rfl, none_denoted, rfl⟩⟩

theorem parse_eq_unreadable_iff {text part : String} :
    parse text = .error (.socketAddress part) ↔
      IsAddressPart text.toList part.toList ∧
        ∀ socket, ¬ SocketAddress.Denotes part.toList socket := by
  simp only [parse_eq_iff, Except.bind_eq_error_iff, protocolOf_eq_error_iff,
    ofSocketAddress_eq_error_iff, isAddressPart_iff]
  constructor
  · rintro ⟨chars, name, cut, ⟨_, _, _, same⟩ | ⟨protocol, named, none_denoted, same⟩⟩
    · cases same
    · cases same
      rw [String.toList_ofList]
      exact ⟨⟨name, protocol, cut, named⟩, none_denoted⟩
  · rintro ⟨⟨name, protocol, cut, named⟩, none_denoted⟩
    refine ⟨part.toList, name, cut, .inr ⟨protocol, named, none_denoted, ?_⟩⟩
    rw [String.ofList_toList]

/-- A text is read as an endpoint exactly if it denotes one, and as the one that it denotes. A text
with a slash fails for what follows the last one exactly if that is no protocol, whatever precedes
it. In all other cases it fails for its address part, exactly if that is no socket address. -/
theorem parse_denotes (text : String) :
    (∀ endpoint, parse text = .ok endpoint ↔ Denotes text.toList endpoint) ∧
      (∀ unknown, parse text = .error (.protocol unknown) ↔
        ∃ before name, text.toList = before ++ '/' :: name ∧ '/' ∉ name ∧
          (∀ protocol, ¬ Protocol.Denotes name protocol) ∧ unknown = ⟨String.ofList name⟩) ∧
      ∀ part, parse text = .error (.socketAddress part) ↔
        IsAddressPart text.toList part.toList ∧
          ∀ socket, ¬ SocketAddress.Denotes part.toList socket :=
  ⟨fun _ => parse_eq_ok_iff, fun _ => parse_eq_unknown_iff, fun _ => parse_eq_unreadable_iff⟩

/-- The colons stand for five groups, and the address at the end for two; the scope is ignored. -/
example : parse "[1::10.0.0.5%07]:0080/UdP" =
    .ok ⟨.v6 ⟨[1, 0, 0, 0, 0, 0, 0x0a00, 5], rfl⟩, 80, .udp⟩ := by
  decide +kernel

end Endpoint

end Attribution
