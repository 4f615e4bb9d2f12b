import Attribution.Text.Padding
import Attribution.Text.Quoted

/-!
# Transport protocols

The two protocols an endpoint can speak. Their names are written in lower case and read in any
ASCII case.
-/

namespace Attribution

open Attribution.Text

/-- The transport protocol of an endpoint. -/
inductive Protocol where
  | tcp
  | udp
  deriving DecidableEq

namespace Protocol

/-- An endpoint that names no protocol speaks TCP. -/
instance : Inhabited Protocol := ⟨tcp⟩

/-- The protocol's name. -/
def chars : Protocol → List Char
  | tcp => ['t', 'c', 'p']
  | udp => ['u', 'd', 'p']

/-- The protocol's name, as a string. -/
def text (protocol : Protocol) : String :=
  String.ofList protocol.chars

/-- The name fitted into a field. -/
def format (field : Field) (protocol : Protocol) : String :=
  String.ofList (field.fit protocol.chars)

/-- The protocol as it stands in the description of a record. -/
def inspect : Protocol → String
  | tcp => "Tcp"
  | udp => "Udp"

/-- A text that names no protocol. -/
structure Unknown where
  name : String
  deriving DecidableEq

/-- What is said of a text that names no protocol. -/
def Unknown.message (unknown : Unknown) : String :=
  "unknown protocol " ++ quote unknown.name ++ "; expected tcp or udp"

/-- The protocol with the given name, in any ASCII case. -/
def ofChars? (text : List Char) : Option Protocol :=
  let lower := text.map Char.toLower
  if lower = tcp.chars then some tcp
  else if lower = udp.chars then some udp
  else none

/-- Reads a protocol's name. -/
def parse (text : String) : Except Unknown Protocol :=
  match ofChars? text.toList with
  | some protocol => .ok protocol
  | none => .error ⟨text⟩

/-- TCP comes before UDP. -/
def rank : Protocol → Nat
  | tcp => 0
  | udp => 1

instance : Ord Protocol := ⟨compareOn rank⟩

theorem compare_def (x y : Protocol) : compare x y = compare x.rank y.rank := rfl

instance : Std.TransOrd Protocol := inferInstanceAs (Std.TransCmp (compareOn rank))

instance : Std.LawfulEqOrd Protocol where
  eq_of_compare {a b} h := by
    cases a <;> cases b <;> simp_all [compare_def, rank]

end Protocol

end Attribution
