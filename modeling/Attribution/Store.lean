import Attribution.Index.Associate
import Attribution.Index.Lookup
import Attribution.Index.Purge

/-!
# The store

The index together with the containers that someone has asked to be told about. Updates name
deployments and may carry a batch for each. In replace mode every named deployment is purged
before any batch is merged, so that the outcome does not depend on the order of the updates;
then the batches are merged in order, and of several deployments that report one container the
last one keeps it.

An asker is told once: the first update that reports the container clears the request, whether
or not the container was known before. What is told is the metadata at the end of that update.
-/

namespace Attribution

/-- How an update treats what the named deployments own already. -/
inductive Mode where
  /-- Batches are merged into it. -/
  | incremental
  /-- It is discarded first; a deployment without a batch is removed. -/
  | replace
  deriving DecidableEq

/-- One deployment's part of an update. -/
structure Update where
  deployment : DeploymentId
  batch : Option Batch

namespace Update

/-- The containers that the update reports. -/
def containerIds (update : Update) : List ContainerId :=
  (update.batch.map Batch.containerIds).getD []

/-- For an update with a batch, whether the batch is empty. -/
def isEmpty? (update : Update) : Option Bool :=
  update.batch.map Batch.isEmpty

end Update

namespace Index

/-- Merges an update's batch, if it has one. -/
def mergeUpdate (index : Index) (update : Update) : Index :=
  match update.batch with
  | some batch => index.merge update.deployment batch
  | none => index

/-- Merges the batches of several updates, in the order given. -/
def mergeAll (index : Index) (updates : List Update) : Index :=
  updates.foldl mergeUpdate index

/-- What is left before the batches are merged, and how many deployments were purged to get
there. -/
def prepare (index : Index) (mode : Mode) (updates : List Update) : Index × Nat :=
  match mode with
  | .incremental => (index, 0)
  | .replace => index.purgeAll (updates.map Update.deployment)

end Index

/-- The containers that someone has asked to be told about. -/
abbrev Pending := Std.ExtTreeSet ContainerId

namespace Pending

/-- Clears the requests for the given containers, and collects the metadata of those that were
asked for, in the order given. A container that is listed twice is collected once. -/
def resolve (pending : Pending) (index : Index) : List ContainerId → List Metadata × Pending
  | [] => ([], pending)
  | id :: more =>
    if id ∈ pending then
      let (records, left) := resolve (pending.erase id) index more
      ((index.metadata? id).toList ++ records, left)
    else resolve pending index more

/-- Exactly the requests for the given containers are cleared. -/
theorem mem_resolve_snd {pending : Pending} {index : Index} {ids : List ContainerId}
    {id : ContainerId} :
    id ∈ (pending.resolve index ids).2 ↔ id ∈ pending ∧ id ∉ ids := by
  induction ids generalizing pending with
  | nil => simp [resolve]
  | cons first more ih =>
    rw [resolve]
    split
    · simp only [ih, Std.ExtTreeSet.mem_erase, List.mem_cons, not_or, ne_eq,
        Std.LawfulEqOrd.compare_eq_iff_eq]
      grind
    · simp only [ih, List.mem_cons, not_or]
      grind

end Pending

/-- The number of entries of each kind. -/
structure Sizes where
  addresses : Nat
  endpoints : Nat
  containers : Nat
  deployments : Nat
  pending : Nat
  deriving DecidableEq

/-- The index and the requests that are still open. -/
structure Store where
  index : Index := .empty
  pending : Pending := ∅

/-- What an update leaves behind. -/
structure Applied where
  store : Store
  /-- The number of deployments that were purged. -/
  purged : Nat
  /-- The metadata to tell the askers. -/
  resolved : List Metadata

namespace Store

/-- The store at the start. -/
def empty : Store := {}

instance : Inhabited Store := ⟨empty⟩

/-- Applies an update. -/
def apply (store : Store) (mode : Mode) (updates : List Update) : Applied :=
  let (prepared, purged) := store.index.prepare mode updates
  let index := prepared.mergeAll updates
  let (resolved, pending) := store.pending.resolve index (updates.flatMap Update.containerIds)
  { store := { index, pending }, purged, resolved }

/-- Asks to be told about a container. -/
def want (store : Store) (id : ContainerId) : Store :=
  { store with pending := store.pending.insert id }

/-- The deployments that may own an endpoint. -/
def lookup (store : Store) (endpoint : Endpoint) : List Candidate :=
  store.index.lookup endpoint

/-- The metadata of a container. -/
def metadata? (store : Store) (id : ContainerId) : Option Metadata :=
  store.index.metadata? id

/-- The number of entries of each kind. -/
def sizes (store : Store) : Sizes where
  addresses := store.index.byAddress.size
  endpoints := store.index.byEndpoint.size
  containers := store.index.byContainer.size
  deployments := store.index.owned.size
  pending := store.pending.size

@[simp] theorem index_want (store : Store) (id : ContainerId) :
    (store.want id).index = store.index := rfl

@[simp] theorem mem_pending_want {store : Store} {id other : ContainerId} :
    other ∈ (store.want id).pending ↔ id = other ∨ other ∈ store.pending := by
  simp [want, Std.ExtTreeSet.mem_insert]

end Store

end Attribution
