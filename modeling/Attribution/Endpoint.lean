import Attribution.Protocol
import Attribution.SocketAddress

/-!
# Endpoints

A reachable network destination: an address, a port and a protocol. It is written as a socket
address and a protocol around a slash, and read from the same form; the protocol may be left
out. Endpoints are ordered by address, then port, then protocol.
-/

namespace Attribution

open Attribution.Text

/-- A reachable network destination. -/
structure Endpoint where
  address : Address
  port : UInt16
  protocol : Protocol
  deriving DecidableEq

namespace Endpoint

instance : Inhabited Endpoint := ⟨⟨default, 0, default⟩⟩

/-- The TCP endpoint at an address and port. -/
def tcp (address : Address) (port : UInt16) : Endpoint := ⟨address, port, .tcp⟩

/-- The UDP endpoint at an address and port. -/
def udp (address : Address) (port : UInt16) : Endpoint := ⟨address, port, .udp⟩

/-- The endpoint without its protocol. -/
def socketAddress (endpoint : Endpoint) : SocketAddress :=
  .of endpoint.address endpoint.port

/-- The socket address and the protocol around a slash. -/
def chars (endpoint : Endpoint) : List Char :=
  endpoint.socketAddress.chars ++ '/' :: endpoint.protocol.chars

/-- The written form of an endpoint. -/
def text (endpoint : Endpoint) : String :=
  String.ofList endpoint.chars

/-- An endpoint is written in full whatever the field: neither width nor precision reach its
parts. -/
def format (_ : Field) (endpoint : Endpoint) : String :=
  endpoint.text

/-- The endpoint as the description of a record. -/
def inspect (endpoint : Endpoint) : String :=
  "Endpoint \x7b ip: " ++ endpoint.address.text ++
    ", port: " ++ String.ofList (decimal endpoint.port.toNat) ++
    ", protocol: " ++ endpoint.protocol.inspect ++ " \x7d"

/-- Why a text is no endpoint. -/
inductive ParseError where
  /-- The part before the protocol is no socket address. -/
  | socketAddress (part : String)
  /-- The part after the last slash is no protocol. -/
  | protocol (unknown : Protocol.Unknown)
  deriving DecidableEq

namespace ParseError

/-- What is said of a text that is no endpoint. -/
def message : ParseError → String
  | socketAddress part => "invalid socket address " ++ quote part
  | protocol unknown => unknown.message

/-- The cause behind the error, where there is one besides the error itself. -/
def source? : ParseError → Option String
  | socketAddress _ => some SocketAddress.syntaxMessage
  | protocol _ => none

end ParseError

/-- The part of a text that is to be a socket address, and the part that is to be a protocol. -/
def parts (text : List Char) : List Char × Option (List Char) :=
  match cutLast '/' text with
  | some (before, after) => (before, some after)
  | none => (text, none)

/-- Reads an optional protocol; an endpoint that names none speaks TCP. -/
def protocolOf : Option (List Char) → Except ParseError Protocol
  | none => .ok .tcp
  | some name => (Protocol.parse (String.ofList name)).mapError .protocol

/-- Reads an endpoint of the given protocol. -/
def ofSocketAddress (part : List Char) (protocol : Protocol) : Except ParseError Endpoint :=
  match SocketAddress.ofChars? part with
  | some socket => .ok ⟨socket.address, socket.port, protocol⟩
  | none => .error (.socketAddress (String.ofList part))

/-- Reads an endpoint. The protocol is read first, so its error is the one reported where both
parts are wrong. A scope is read and dropped. -/
def parse (text : String) : Except ParseError Endpoint :=
  let (part, name) := parts text.toList
  (protocolOf name).bind (ofSocketAddress part)

/-- The order of endpoints: by address, then port, then protocol. -/
def order : Endpoint → Endpoint → Ordering :=
  compareLex (compareOn address) (compareLex (compareOn port) (compareOn protocol))

instance : Ord Endpoint := ⟨order⟩

theorem compare_def (x y : Endpoint) :
    compare x y =
      (compare x.address y.address).then
        ((compare x.port y.port).then (compare x.protocol y.protocol)) := rfl

instance : Std.TransOrd Endpoint :=
  inferInstanceAs (Std.TransCmp
    (compareLex (compareOn address) (compareLex (compareOn port) (compareOn protocol))))

instance : Std.LawfulEqOrd Endpoint where
  eq_of_compare {a b} h := by
    cases a; cases b
    simp_all [compare_def, Ordering.then_eq_eq]

end Endpoint

end Attribution
