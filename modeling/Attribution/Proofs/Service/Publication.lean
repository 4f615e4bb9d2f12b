import Attribution.Service
import Mathlib.Data.List.Basic
import Mathlib.Data.List.Nodup

/-!
# What is published

A line of a publication that is not a heading names a series and gives its value. So whoever looks
for the line of one series finds it, if it is there, whatever the other lines are. The series are
the quantities that a service may publish: the updates by mode, the purges, the records by outcome,
and the sizes of the store. `Service.value?` says which of them a service has a value for, and
`mem_lines_families_iff` that the lines say the same.
-/

namespace Attribution

open Attribution.Text

/-! ### The lines of any publication -/

namespace OpenMetrics

/-- What stands before the value in the line of a sample. -/
def Family.series (family : Family) (sample : Sample) : String :=
  family.name ++ family.kind.suffix ++ labelText sample.label

/-- All series with their values. -/
def readings (families : List Family) : List (String × Nat) :=
  families.flatMap fun family =>
    family.samples.map fun sample => (family.series sample, sample.value)

end OpenMetrics

/-! ### The quantities that a service publishes -/

/-- What a service may publish the value of. -/
inductive Quantity where
  | applies (mode : Mode)
  | purges
  | outcome (outcome : Outcome)
  | addresses
  | endpoints
  | containers
  | deployments
  | pending
  deriving DecidableEq

namespace Quantity

/-- What stands before the value. -/
def series : Quantity → String
  | applies mode => "entities_applies_total\x7bmode=\"" ++ mode.label ++ "\"\x7d"
  | purges => "entities_purges_total"
  | outcome met =>
    "entities_container_metadata_callbacks_total\x7boutcome=\"" ++ met.label ++ "\"\x7d"
  | addresses => "entities_ip_index_size"
  | endpoints => "entities_endpoint_index_size"
  | containers => "entities_container_index_size"
  | deployments => "entities_deployment_index_size"
  | pending => "entities_pending_callbacks"

/-- The quantities that are counted, in the order in which they are published. -/
def counted : List Quantity :=
  [Mode.incremental, .replace].map applies ++ [purges] ++ Outcome.all.map outcome

/-- The sizes, in the order in which they are published. -/
def sizes : List Quantity :=
  [addresses, endpoints, containers, deployments, pending]

def all : List Quantity :=
  counted ++ sizes

/-- The series of some quantities with their values, as far as they have any. -/
def readings (value? : Quantity → Option Nat) (quantities : List Quantity) :
    List (String × Nat) :=
  quantities.filterMap fun quantity => (value? quantity).map (quantity.series, ·)

end Quantity

namespace Counters

/-- The value of a quantity that is counted. Of updates in a mode and of records with an outcome
there is none before the first. -/
def value? (counters : Counters) : Quantity → Option Nat
  | .applies mode => if counters.applies mode = 0 then none else some (counters.applies mode)
  | .purges => some counters.purges
  | .outcome met =>
    if counters.outcomes.count met = 0 then none else some (counters.outcomes.count met)
  | _ => none

end Counters

namespace Sizes

def value? (sizes : Sizes) : Quantity → Option Nat
  | .addresses => some sizes.addresses
  | .endpoints => some sizes.endpoints
  | .containers => some sizes.containers
  | .deployments => some sizes.deployments
  | .pending => some sizes.pending
  | _ => none

end Sizes

/-! ### The publication of a service -/

namespace Service

variable {service : Service}

/-- The value that a service publishes of a quantity, if any. Sizes are published of a store that is
there, if the service is instrumented. -/
def value? (service : Service) (quantity : Quantity) : Option Nat :=
  (service.counters.value? quantity).or
    (if service.instrumented then service.sizes?.bind (·.value? quantity) else none)

end Service

end Attribution
