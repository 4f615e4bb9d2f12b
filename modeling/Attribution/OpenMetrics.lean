import Attribution.Text.Numeral

/-!
# OpenMetrics text

Metrics are published as families of samples. Every family has a help line and a type line, then
one line per sample; a line that says that there is no more ends the text. Lines are kept apart
until the text is put together, so that they can also be listed.
-/

namespace Attribution.OpenMetrics

open Attribution.Text

/-- What the samples of a family measure. -/
inductive Kind where
  /-- Something that only grows; its samples carry the suffix `_total`. -/
  | counter
  /-- A value at the moment. -/
  | gauge
  deriving DecidableEq

/-- One value of a family, told from the others by the value of a label. -/
structure Sample where
  label : Option (String × String)
  value : Nat
  deriving DecidableEq

/-- Samples that measure the same thing. -/
structure Family where
  name : String
  help : String
  kind : Kind
  samples : List Sample
  deriving DecidableEq

namespace Kind

/-- The name of the kind. -/
def text : Kind → String
  | counter => "counter"
  | gauge => "gauge"

/-- What is added to a family's name in its sample lines. -/
def suffix : Kind → String
  | counter => "_total"
  | gauge => ""

end Kind

/-- A label with its value, between braces. -/
def labelText : Option (String × String) → String
  | none => ""
  | some (name, value) => "\x7b" ++ name ++ "=\"" ++ value ++ "\"\x7d"

namespace Family

/-- The lines that describe the family. -/
def header (family : Family) : List String :=
  ["# HELP " ++ family.name ++ " " ++ family.help,
   "# TYPE " ++ family.name ++ " " ++ family.kind.text]

/-- The line of one sample. -/
def line (family : Family) (sample : Sample) : String :=
  family.name ++ family.kind.suffix ++ labelText sample.label ++ " " ++
    String.ofList (decimal sample.value)

/-- The lines of the samples. -/
def sampleLines (family : Family) : List String :=
  family.samples.map family.line

/-- All lines of the family. -/
def lines (family : Family) : List String :=
  family.header ++ family.sampleLines

end Family

/-- The lines of a publication. -/
def lines (families : List Family) : List String :=
  families.flatMap Family.lines ++ ["# EOF"]

/-- The text of a publication: every line ends in a line feed. -/
def text (families : List Family) : String :=
  String.join ((lines families).map fun line => line ++ "\n")

end Attribution.OpenMetrics
