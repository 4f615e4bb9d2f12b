import Attribution.Index.Relations
import Attribution.Store

/-!
# Metadata is opaque to the index

Metadata names a deployment and a container, which usually are the deployment and the container that
it is reported for. The index never looks there: whose a container is and where it is kept follows
from what it is reported for alone. So another metadata in its place, by any function whatever,
makes no difference but where metadata is handed out. For each operation of the store there is a
lemma that says that it commutes with the replacement.
-/

namespace Attribution

variable (f : Metadata → Metadata)

/-! ### Replacing metadata -/

/-- The association with its metadata replaced, if it has any. -/
def Association.mapMetadata : Association → Association
  | .container id metadata => .container id (f metadata)
  | other => other

def Update.mapMetadata (update : Update) : Update :=
  { update with batch := update.batch.map (Batch.mapMetadata f) }

def Holding.mapMetadata (holding : Holding) : Holding :=
  { holding with metadata := f holding.metadata }

def Index.mapMetadata (index : Index) : Index :=
  { index with byContainer := index.byContainer.map fun _ => Holding.mapMetadata f }

def Store.mapMetadata (store : Store) : Store :=
  { store with index := store.index.mapMetadata f }

def Applied.mapMetadata (applied : Applied) : Applied :=
  { applied with
    store := applied.store.mapMetadata f
    resolved := applied.resolved.map f }

/-! ### Maps with their values replaced -/

section Maps

variable {K V : Type} [Ord K] [Std.TransOrd K] [Std.LawfulEqOrd K]

theorem map_insert (map : Std.ExtTreeMap K V) (g : V → V) (key : K) (value : V) :
    (map.insert key value).map (fun _ value => g value) =
      (map.map fun _ value => g value).insert key (g value) := by
  apply Std.ExtTreeMap.ext_getElem?
  intro other
  simp only [Std.ExtTreeMap.getElem?_map, Std.ExtTreeMap.getElem?_insert]
  split <;> rfl

theorem map_erase (map : Std.ExtTreeMap K V) (g : V → V) (key : K) :
    (map.erase key).map (fun _ value => g value) = (map.map fun _ value => g value).erase key := by
  apply Std.ExtTreeMap.ext_getElem?
  intro other
  simp only [Std.ExtTreeMap.getElem?_map, Std.ExtTreeMap.getElem?_erase]
  split <;> rfl

end Maps

/-! ### Batches -/

namespace Batch

theorem mapMetadata_add (batch : Batch) (reported : Association) :
    (batch.add reported).mapMetadata f =
      (batch.mapMetadata f).add (reported.mapMetadata f) := by
  cases reported with
  | container id metadata =>
    simp only [mapMetadata, add, addContainer, Association.mapMetadata, map_insert]
  | _ => rfl

/-- To replace the metadata in a batch is to replace it in the reports that built up the batch. -/
theorem mapMetadata_ofReports (reports : List Association) :
    (ofReports reports).mapMetadata f = ofReports (reports.map (Association.mapMetadata f)) := by
  have further (batch : Batch) : (reports.foldl add batch).mapMetadata f =
      (reports.map (Association.mapMetadata f)).foldl add (batch.mapMetadata f) := by
    induction reports generalizing batch with
    | nil => rfl
    | cons reported more ih =>
      rw [List.foldl_cons, ih, mapMetadata_add, List.map_cons, List.foldl_cons]
  have nothing : empty.mapMetadata f = empty := by simp [mapMetadata, empty]
  rw [ofReports, further, nothing, ofReports]

@[simp] theorem associations_mapMetadata (batch : Batch) :
    (batch.mapMetadata f).associations = batch.associations.map (Association.mapMetadata f) := by
  simp [associations, mapMetadata, Std.ExtTreeMap.toList_map, Function.comp_def,
    Association.mapMetadata]

@[simp] theorem containerIds_mapMetadata (batch : Batch) :
    (batch.mapMetadata f).containerIds = batch.containerIds :=
  Std.ExtTreeMap.keys_map

@[simp] theorem isEmpty_mapMetadata (batch : Batch) :
    (batch.mapMetadata f).isEmpty = batch.isEmpty := by
  rw [Bool.eq_iff_iff, ← associations_eq_nil_iff, ← associations_eq_nil_iff,
    associations_mapMetadata, List.map_eq_nil_iff]

end Batch

namespace Update

@[simp] theorem containerIds_mapMetadata (update : Update) :
    (update.mapMetadata f).containerIds = update.containerIds := by
  cases given : update.batch <;> simp [containerIds, mapMetadata, given]

@[simp] theorem isEmpty?_mapMetadata (update : Update) :
    (update.mapMetadata f).isEmpty? = update.isEmpty? := by
  cases given : update.batch <;> simp [isEmpty?, mapMetadata, given]

end Update

/-! ### The index -/

namespace Index

variable (index : Index)

@[simp] theorem owned_mapMetadata : (index.mapMetadata f).owned = index.owned := rfl

@[simp] theorem getElem?_byContainer_mapMetadata (id : ContainerId) :
    (index.mapMetadata f).byContainer[id]? = index.byContainer[id]?.map (Holding.mapMetadata f) :=
  Std.ExtTreeMap.getElem?_map

/-- Whose a container is does not depend on its metadata. -/
theorem holdsContainer_mapMetadata (deployment : DeploymentId) (id : ContainerId) :
    (index.mapMetadata f).HoldsContainer deployment id ↔ index.HoldsContainer deployment id := by
  simp only [HoldsContainer, getElem?_byContainer_mapMetadata, Option.map_eq_some_iff]
  constructor
  · rintro ⟨-, ⟨holding, there, rfl⟩, owner⟩
    exact ⟨holding, there, owner⟩
  · rintro ⟨holding, there, owner⟩
    exact ⟨_, ⟨holding, there, rfl⟩, owner⟩

@[simp] theorem formerOwner?_mapMetadata (deployment : DeploymentId) (id : ContainerId) :
    (index.mapMetadata f).formerOwner? deployment id = index.formerOwner? deployment id := by
  rw [formerOwner?, getElem?_byContainer_mapMetadata, Option.map_map]
  rfl

@[simp] theorem moved?_mapMetadata (deployment : DeploymentId) (association : Association) :
    (index.mapMetadata f).moved? deployment (association.mapMetadata f) =
      index.moved? deployment association := by
  cases association with
  | container id metadata => simp [Association.mapMetadata]
  | _ => rfl

theorem enter_mapMetadata (deployment : DeploymentId) (association : Association) :
    (index.mapMetadata f).enter deployment (association.mapMetadata f) =
      (index.enter deployment association).mapMetadata f := by
  cases association with
  | container id metadata =>
    simp only [mapMetadata, enter, Association.mapMetadata, own, map_insert, Owned.add]
    rfl
  | _ => rfl

theorem enterAll_mapMetadata (deployment : DeploymentId) (associations : List Association) :
    (index.mapMetadata f).enterAll deployment (associations.map (Association.mapMetadata f)) =
      ((index.enterAll deployment associations).1.mapMetadata f,
        (index.enterAll deployment associations).2) := by
  induction associations generalizing index with
  | nil => rfl
  | cons association more ih =>
    simp only [List.map_cons, enterAll, enter_mapMetadata, ih, moved?_mapMetadata]

theorem disownAll_mapMetadata (moved : List (DeploymentId × ContainerId)) :
    (index.mapMetadata f).disownAll moved = (index.disownAll moved).mapMetadata f := by
  induction moved generalizing index with
  | nil => rfl
  | cons move more ih => exact ih (index.disown move.1 move.2)

theorem merge_mapMetadata (deployment : DeploymentId) (batch : Batch) :
    (index.mapMetadata f).merge deployment (batch.mapMetadata f) =
      (index.merge deployment batch).mapMetadata f := by
  simp only [merge, Batch.associations_mapMetadata, enterAll_mapMetadata, disownAll_mapMetadata]

theorem mergeUpdate_mapMetadata (update : Update) :
    (index.mapMetadata f).mergeUpdate (update.mapMetadata f) =
      (index.mergeUpdate update).mapMetadata f := by
  cases given : update.batch with
  | none => simp [mergeUpdate, Update.mapMetadata, given]
  | some batch => simp [mergeUpdate, Update.mapMetadata, given, merge_mapMetadata]

theorem mergeAll_mapMetadata (updates : List Update) :
    (index.mapMetadata f).mergeAll (updates.map (Update.mapMetadata f)) =
      (index.mergeAll updates).mapMetadata f := by
  induction updates generalizing index with
  | nil => rfl
  | cons update more ih =>
    change ((index.mapMetadata f).mergeUpdate (update.mapMetadata f)).mergeAll _ = _
    rw [mergeUpdate_mapMetadata, ih]
    rfl

theorem removeContainers_map (byContainer : Std.ExtTreeMap ContainerId Holding)
    (ids : List ContainerId) :
    removeContainers (byContainer.map fun _ => Holding.mapMetadata f) ids =
      (removeContainers byContainer ids).map fun _ => Holding.mapMetadata f := by
  induction ids generalizing byContainer with
  | nil => rfl
  | cons id more ih =>
    change removeContainers ((byContainer.map _).erase id) more = _
    rw [← map_erase, ih]
    rfl

theorem purge_mapMetadata (deployment : DeploymentId) :
    (index.mapMetadata f).purge deployment = (index.purge deployment).mapMetadata f := by
  cases there : index.owned[deployment]? with
  | none => simp [purge, there]
  | some owned => simp only [purge, there, mapMetadata, removeContainers_map]

theorem purgeAll_mapMetadata (deployments : List DeploymentId) :
    (index.mapMetadata f).purgeAll deployments =
      ((index.purgeAll deployments).1.mapMetadata f, (index.purgeAll deployments).2) := by
  induction deployments generalizing index with
  | nil => rfl
  | cons deployment more ih =>
    simp only [purgeAll, purge_mapMetadata, ih]
    rfl

theorem prepare_mapMetadata (mode : Mode) (updates : List Update) :
    (index.mapMetadata f).prepare mode (updates.map (Update.mapMetadata f)) =
      ((index.prepare mode updates).1.mapMetadata f, (index.prepare mode updates).2) := by
  cases mode with
  | incremental => rfl
  | replace =>
    simp only [prepare, List.map_map]
    exact purgeAll_mapMetadata f index _

@[simp] theorem lookup_mapMetadata (endpoint : Endpoint) :
    (index.mapMetadata f).lookup endpoint = index.lookup endpoint := rfl

@[simp] theorem metadata?_mapMetadata (id : ContainerId) :
    (index.mapMetadata f).metadata? id = (index.metadata? id).map f := by
  rw [metadata?, getElem?_byContainer_mapMetadata, Option.map_map, metadata?, Option.map_map]
  rfl

end Index

/-! ### The store -/

theorem Pending.resolve_mapMetadata (pending : Pending) (index : Index) (ids : List ContainerId) :
    pending.resolve (index.mapMetadata f) ids =
      ((pending.resolve index ids).1.map f, (pending.resolve index ids).2) := by
  induction ids generalizing pending with
  | nil => rfl
  | cons id more ih =>
    rw [resolve, resolve]
    split
    · simp only [ih, Index.metadata?_mapMetadata, List.map_append, Option.toList_map]
    · exact ih pending

namespace Store

variable (store : Store)

/-- An update whose metadata is replaced does the same to a store whose metadata is replaced, and
resolves the same records with their metadata replaced. -/
theorem apply_mapMetadata (mode : Mode) (updates : List Update) :
    (store.mapMetadata f).apply mode (updates.map (Update.mapMetadata f)) =
      (store.apply mode updates).mapMetadata f := by
  have ids : (updates.map (Update.mapMetadata f)).flatMap Update.containerIds =
      updates.flatMap Update.containerIds := by
    simp only [List.flatMap_map, Update.containerIds_mapMetadata]
  simp only [apply, mapMetadata, Index.prepare_mapMetadata, Index.mergeAll_mapMetadata, ids,
    Pending.resolve_mapMetadata, Applied.mapMetadata]

@[simp] theorem lookup_mapMetadata (endpoint : Endpoint) :
    (store.mapMetadata f).lookup endpoint = store.lookup endpoint := rfl

@[simp] theorem metadata?_mapMetadata (id : ContainerId) :
    (store.mapMetadata f).metadata? id = (store.metadata? id).map f :=
  store.index.metadata?_mapMetadata f id

@[simp] theorem sizes_mapMetadata : (store.mapMetadata f).sizes = store.sizes := by
  simp [sizes, mapMetadata, Index.mapMetadata, Std.ExtTreeMap.size_map]

@[simp] theorem mapMetadata_empty : empty.mapMetadata f = empty := by
  simp [mapMetadata, Index.mapMetadata, empty, Index.empty]

end Store

end Attribution
