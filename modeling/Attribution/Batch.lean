import Attribution.Endpoint
import Attribution.Metadata
import Attribution.Target
import Std.Data.ExtTreeMap
import Std.Data.ExtTreeSet

/-!
# Batches

What a producer reports for one deployment in one go: the addresses it owns, the endpoints it
exposes with the container ports behind them, and its containers. A batch is built up one report
at a time, and of several metadata for one container the last is kept.

A producer may well report a container port behind an endpoint more than once. Nothing is made of
the repetition: to merge a batch is to enter the reports that built it up one after the other,
repeated ones included, which `Index.merge_ofReports` says. So it is enough that a batch keeps the
set of what was reported.
-/

namespace Attribution

/-- An endpoint with one of the container ports behind it. -/
structure Exposure where
  endpoint : Endpoint
  target : Target
  deriving DecidableEq

namespace Exposure

instance : Ord Exposure := ⟨compareLex (compareOn endpoint) (compareOn target)⟩

theorem compare_def (x y : Exposure) :
    compare x y = (compare x.endpoint y.endpoint).then (compare x.target y.target) := rfl

instance : Std.TransOrd Exposure :=
  inferInstanceAs (Std.TransCmp (compareLex (compareOn endpoint) (compareOn target)))

instance : Std.LawfulEqOrd Exposure where
  eq_of_compare {a b} h := by
    cases a; cases b
    simp_all [compare_def, Ordering.then_eq_eq]

end Exposure

/-- One thing that ties a network identifier or a container to a deployment. -/
inductive Association where
  | address (address : Address)
  | exposure (exposure : Exposure)
  | container (id : ContainerId) (metadata : Metadata)
  deriving DecidableEq

/-- What is reported for one deployment. -/
structure Batch where
  addresses : Std.ExtTreeSet Address := ∅
  exposures : Std.ExtTreeSet Exposure := ∅
  containers : Std.ExtTreeMap ContainerId Metadata := ∅

namespace Batch

/-- The batch that reports nothing. -/
def empty : Batch := {}

instance : Inhabited Batch := ⟨empty⟩

/-- Reports an address of the deployment. -/
def addAddress (batch : Batch) (address : Address) : Batch :=
  { batch with addresses := batch.addresses.insert address }

/-- Reports an endpoint of the deployment, and a container port behind it. -/
def addEndpoint (batch : Batch) (endpoint : Endpoint) (target : Target) : Batch :=
  { batch with exposures := batch.exposures.insert ⟨endpoint, target⟩ }

/-- Reports a container of the deployment. The last metadata for an identifier is kept. -/
def addContainer (batch : Batch) (id : ContainerId) (metadata : Metadata) : Batch :=
  { batch with containers := batch.containers.insert id metadata }

/-- Reports one association. -/
def add (batch : Batch) : Association → Batch
  | .address address => batch.addAddress address
  | .exposure exposure => batch.addEndpoint exposure.endpoint exposure.target
  | .container id metadata => batch.addContainer id metadata

/-- The batch that a sequence of reports builds up. -/
def ofReports (reports : List Association) : Batch :=
  reports.foldl add empty

/-- Whether the batch reports nothing. -/
def isEmpty (batch : Batch) : Bool :=
  batch.addresses.isEmpty && batch.exposures.isEmpty && batch.containers.isEmpty

/-- Everything that the batch reports, each association once. -/
def associations (batch : Batch) : List Association :=
  batch.addresses.toList.map .address ++ batch.exposures.toList.map .exposure ++
    batch.containers.toList.map fun (id, metadata) => .container id metadata

/-- The containers that the batch reports. -/
def containerIds (batch : Batch) : List ContainerId :=
  batch.containers.keys

/-- The batch with every metadata replaced by its image. -/
def mapMetadata (f : Metadata → Metadata) (batch : Batch) : Batch :=
  { batch with containers := batch.containers.map fun _ metadata => f metadata }

@[simp] theorem isEmpty_empty : empty.isEmpty = true := rfl

/-- A batch is empty exactly when there is nothing in it to merge. -/
theorem associations_eq_nil_iff {batch : Batch} :
    batch.associations = [] ↔ batch.isEmpty = true := by
  simp only [associations, isEmpty, List.append_eq_nil_iff, List.map_eq_nil_iff, Bool.and_eq_true,
    ← Std.ExtTreeSet.isEmpty_toList, ← Std.ExtTreeMap.isEmpty_toList, List.isEmpty_iff]

theorem ofReports_append (first second : List Association) :
    ofReports (first ++ second) = second.foldl add (ofReports first) :=
  List.foldl_append

end Batch

end Attribution
