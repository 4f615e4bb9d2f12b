import Attribution.Address.Text
import Attribution.Text.Cut

/-!
# Socket addresses

An address with a port. IPv6 addresses stand in brackets and may name a scope, the interface
that a link-local address belongs to; scope zero is the absence of one and is not written.
-/

namespace Attribution

open Attribution.Text

/-- An address with a port, and for IPv6 the scope of the address. -/
inductive SocketAddress where
  | v4 (address : Ipv4) (port : UInt16)
  | v6 (address : Ipv6) (scope : UInt32) (port : UInt16)
  deriving DecidableEq

namespace SocketAddress

/-- The socket address without a scope. -/
def of (address : Address) (port : UInt16) : SocketAddress :=
  match address with
  | .v4 address => v4 address port
  | .v6 address => v6 address 0 port

/-- The address alone, its scope dropped. -/
def address : SocketAddress → Address
  | v4 address _ => .v4 address
  | v6 address _ _ => .v6 address

/-- The port. -/
def port : SocketAddress → UInt16
  | v4 _ port => port
  | v6 _ _ port => port

@[simp] theorem address_of (host : Address) (port : UInt16) : (of host port).address = host := by
  cases host <;> rfl

@[simp] theorem port_of (host : Address) (port : UInt16) : (of host port).port = port := by
  cases host <;> rfl

/-- A scope is written after a percent sign, unless it is zero. -/
def scopeChars (scope : UInt32) : List Char :=
  if scope = 0 then [] else '%' :: decimal scope.toNat

/-- The address and the port around a colon, an IPv6 address in brackets. -/
def chars : SocketAddress → List Char
  | v4 address port => address.chars ++ ':' :: decimal port.toNat
  | v6 address scope port =>
    '[' :: (address.chars ++ scopeChars scope ++ [']', ':'] ++ decimal port.toNat)

/-- The written form of a socket address. -/
def text (socket : SocketAddress) : String :=
  String.ofList socket.chars

/-- A port is a decimal numeral of at most 65535. -/
def port? (text : List Char) : Option UInt16 :=
  (numeralBelow? 10 UInt16.size text).map UInt16.ofNat

/-- A scope is a decimal numeral of at most `2 ^ 32 - 1`. -/
def scope? (text : List Char) : Option UInt32 :=
  (numeralBelow? 10 UInt32.size text).map UInt32.ofNat

/-- Reads an IPv4 socket address. -/
def v4OfChars? (text : List Char) : Option SocketAddress :=
  (cutFirst ':' text).bind fun (host, after) =>
    (Ipv4.ofChars? host).bind fun address => (port? after).map (v4 address)

/-- Reads what stands between the brackets: an address and perhaps a scope. -/
def hostOfChars? (text : List Char) : Option (Ipv6 × UInt32) :=
  match cutFirst '%' text with
  | none => (Ipv6.ofChars? text).map fun address => (address, 0)
  | some (host, after) =>
    (Ipv6.ofChars? host).bind fun address => (scope? after).map fun scope => (address, scope)

/-- Reads an IPv6 socket address. -/
def v6OfChars? : List Char → Option SocketAddress
  | '[' :: text =>
    match cutFirst ']' text with
    | some (inside, ':' :: after) =>
      (hostOfChars? inside).bind fun (address, scope) => (port? after).map (v6 address scope)
    | _ => none
  | _ => none

/-- Reads a socket address of either version. -/
def ofChars? (text : List Char) : Option SocketAddress :=
  (v4OfChars? text).or (v6OfChars? text)

/-- Reads a socket address of either version from a string. -/
def parse? (text : String) : Option SocketAddress :=
  ofChars? text.toList

/-- What is said of a text that is no socket address. -/
def syntaxMessage : String := "invalid socket address syntax"

end SocketAddress

end Attribution
