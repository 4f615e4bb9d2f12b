import Attribution.Proofs.Index.Merging
import Attribution.Proofs.Index.Purging
import Attribution.Store

/-!
# What the index attributes to whom

Addresses and exposures are shared: several deployments can have the same one, and a merge never
takes one away. So after updates the index attributes a shared association to a deployment exactly
if it did so before and the deployment was not purged, or if one of the batches reports it. A
container is not shared; it goes with the last batch that reports it.
-/

namespace Attribution

/-- Whether several deployments can have the association at once. -/
def Association.IsShared : Association → Prop
  | .container _ _ => False
  | _ => True

namespace Update

/-- The update has a batch for the deployment that reports the association. -/
def Reports (update : Update) (deployment : DeploymentId) (association : Association) : Prop :=
  update.deployment = deployment ∧
    ∃ batch, update.batch = some batch ∧ association ∈ batch.associations

/-- What the update reports of a container. -/
def metadata? (update : Update) (id : ContainerId) : Option Metadata :=
  update.batch.bind fun batch => batch.containers[id]?

/-- What the update makes of a container. -/
def holding? (update : Update) (id : ContainerId) : Option Holding :=
  (update.metadata? id).map fun metadata => ⟨update.deployment, metadata⟩

end Update

/-- What updates make of a container: the last one that reports it decides. -/
def lastHolding? (id : ContainerId) : List Update → Option Holding
  | [] => none
  | update :: more => (lastHolding? id more).or (update.holding? id)

theorem lastHolding?_append (id : ContainerId) (first second : List Update) :
    lastHolding? id (first ++ second) = (lastHolding? id second).or (lastHolding? id first) := by
  induction first with
  | nil => exact Option.or_none.symm
  | cons update more ih => rw [List.cons_append, lastHolding?, ih, Option.or_assoc, lastHolding?]

theorem lastHolding?_eq_none_iff {id : ContainerId} {updates : List Update} :
    lastHolding? id updates = none ↔ ∀ update ∈ updates, update.metadata? id = none := by
  induction updates with
  | nil => simp [lastHolding?]
  | cons update more ih =>
    rw [lastHolding?, Option.or_eq_none_iff, ih, Update.holding?, Option.map_eq_none_iff,
      List.forall_mem_cons, and_comm]

namespace Index

/-- The index ties the association to the deployment. -/
def Attributes (index : Index) (deployment : DeploymentId) : Association → Prop
  | .address address => index.OwnsAddress deployment address
  | .exposure exposure => index.ExposesTarget deployment exposure.endpoint exposure.target
  | .container id metadata => index.byContainer[id]? = some ⟨deployment, metadata⟩

variable {index : Index} {deployment other : DeploymentId} {association : Association}

/-! ### Shared associations -/

theorem attributes_associate (shared : association.IsShared) (reported : Association) :
    (index.associate deployment reported).Attributes other association ↔
      index.Attributes other association ∨ (deployment = other ∧ reported = association) := by
  cases association with
  | address address => exact ownsAddress_associate
  | exposure exposure => exact exposesTarget_associate
  | container id metadata => exact shared.elim

theorem attributes_associateAll (shared : association.IsShared)
    (reported : List Association) :
    (index.associateAll deployment reported).Attributes other association ↔
      index.Attributes other association ∨ (deployment = other ∧ association ∈ reported) := by
  induction reported generalizing index with
  | nil => simp
  | cons first more ih =>
    rw [associateAll_cons, ih, attributes_associate shared, List.mem_cons, or_assoc,
      ← and_or_left, @eq_comm _ first]

theorem attributes_mergeUpdate (shared : association.IsShared) (update : Update) :
    (index.mergeUpdate update).Attributes other association ↔
      index.Attributes other association ∨ update.Reports other association := by
  rw [mergeUpdate, Update.Reports]
  cases update.batch with
  | none => simp
  | some batch =>
    change (index.merge update.deployment batch).Attributes other association ↔ _
    rw [merge_eq_associateAll, attributes_associateAll shared]
    simp

theorem attributes_mergeAll (shared : association.IsShared) (updates : List Update) :
    (index.mergeAll updates).Attributes other association ↔
      index.Attributes other association ∨
        ∃ update ∈ updates, update.Reports other association := by
  induction updates generalizing index with
  | nil => simp [mergeAll]
  | cons update more ih =>
    change ((index.mergeUpdate update).mergeAll more).Attributes other association ↔ _
    rw [ih, attributes_mergeUpdate shared]
    simp only [List.mem_cons, exists_eq_or_imp, or_assoc]

/-- A purge takes away what the index attributes to the deployment, and nothing else. -/
theorem attributes_purge (h : index.Consistent) :
    (index.purge deployment).Attributes other association ↔
      index.Attributes other association ∧ other ≠ deployment := by
  cases association with
  | address address => exact ownsAddress_purge h
  | exposure exposure => exact exposesTarget_purge h
  | container id metadata =>
    rw [Attributes, getElem?_byContainer_purge h, Option.filter_eq_some_iff]
    simp [Attributes]

theorem attributes_purgeAll (h : index.Consistent) (deployments : List DeploymentId) :
    (index.purgeAll deployments).1.Attributes other association ↔
      index.Attributes other association ∧ other ∉ deployments := by
  induction deployments generalizing index with
  | nil => simp [purgeAll]
  | cons first more ih =>
    change ((index.purge first).purgeAll more).1.Attributes other association ↔ _
    rw [ih (h.purge first), attributes_purge h, List.mem_cons, not_or, and_assoc]

/-! ### Containers -/

theorem getElem?_byContainer_purgeAll (h : index.Consistent) (deployments : List DeploymentId)
    (id : ContainerId) :
    (index.purgeAll deployments).1.byContainer[id]? =
      index.byContainer[id]?.filter (·.owner ∉ deployments) := by
  apply Option.ext
  intro ⟨owner, metadata⟩
  have purged : (index.purgeAll deployments).1.Attributes owner (.container id metadata) ↔
      index.Attributes owner (.container id metadata) ∧ owner ∉ deployments :=
    attributes_purgeAll h deployments
  rw [Attributes, Attributes] at purged
  rw [purged, Option.filter_eq_some_iff]
  simp

/-- Other associations leave a container alone. -/
theorem getElem?_byContainer_associateAll_of_not_mem {id : ContainerId}
    {associations : List Association}
    (h : ∀ metadata, .container id metadata ∉ associations) :
    (index.associateAll deployment associations).byContainer[id]? = index.byContainer[id]? := by
  induction associations generalizing index with
  | nil => rfl
  | cons first more ih =>
    have unchanged : (index.associate deployment first).byContainer[id]? =
        index.byContainer[id]? := by
      cases first with
      | container another metadata =>
        have different : another ≠ id := by
          rintro rfl
          exact h metadata List.mem_cons_self
        rw [getElem?_byContainer_associate, if_neg different]
      | _ => simp
    rw [associateAll_cons, ih fun metadata later => h metadata (List.mem_cons_of_mem first later),
      unchanged]

end Index

namespace Batch

theorem container_mem_associations {batch : Batch} {id : ContainerId} {metadata : Metadata} :
    .container id metadata ∈ batch.associations ↔ batch.containers[id]? = some metadata := by
  simp [associations, Std.ExtTreeMap.mem_toList_iff_getElem?_eq_some]

/-- A batch has one metadata for a container, and nothing is reported of the container after it. -/
theorem exists_associations_eq {batch : Batch} {id : ContainerId} {metadata : Metadata}
    (h : batch.containers[id]? = some metadata) :
    ∃ before after, batch.associations = before ++ .container id metadata :: after ∧
      ∀ another, .container id another ∉ after := by
  obtain ⟨before, after, split⟩ :=
    List.append_of_mem (Std.ExtTreeMap.mem_toList_iff_getElem?_eq_some.2 h)
  have distinct := batch.containers.distinct_keys_toList
  rw [split, List.pairwise_append, List.pairwise_cons] at distinct
  refine ⟨batch.addresses.toList.map .address ++ batch.exposures.toList.map .exposure ++
    before.map fun entry => .container entry.1 entry.2,
    after.map fun entry => .container entry.1 entry.2, ?_, ?_⟩
  · simp [associations, split]
  · intro another later
    obtain ⟨⟨same, _⟩, there, eq⟩ := List.mem_map.1 later
    cases eq
    exact distinct.2.1.1 _ there (by simp)

end Batch

namespace Index

variable {index : Index}

theorem getElem?_byContainer_merge (index : Index) (deployment : DeploymentId) (batch : Batch)
    (id : ContainerId) :
    (index.merge deployment batch).byContainer[id]? =
      (batch.containers[id]?.map fun metadata => ⟨deployment, metadata⟩).or
        index.byContainer[id]? := by
  rw [merge_eq_associateAll]
  cases reported : batch.containers[id]? with
  | none =>
    apply getElem?_byContainer_associateAll_of_not_mem
    intro metadata
    simp [Batch.container_mem_associations, reported]
  | some metadata =>
    obtain ⟨before, after, split, last⟩ := Batch.exists_associations_eq reported
    rw [split, associateAll_append, associateAll_cons,
      getElem?_byContainer_associateAll_of_not_mem last, getElem?_byContainer_associate]
    simp

theorem getElem?_byContainer_mergeUpdate (index : Index) (update : Update) (id : ContainerId) :
    (index.mergeUpdate update).byContainer[id]? =
      (update.holding? id).or index.byContainer[id]? := by
  rw [mergeUpdate, Update.holding?, Update.metadata?]
  cases update.batch with
  | none => simp
  | some batch => exact getElem?_byContainer_merge index update.deployment batch id

theorem getElem?_byContainer_mergeAll (index : Index) (updates : List Update) (id : ContainerId) :
    (index.mergeAll updates).byContainer[id]? =
      (lastHolding? id updates).or index.byContainer[id]? := by
  induction updates generalizing index with
  | nil => rfl
  | cons update more ih =>
    change ((index.mergeUpdate update).mergeAll more).byContainer[id]? = _
    rw [ih, getElem?_byContainer_mergeUpdate, lastHolding?, Option.or_assoc]

/-- Of several updates that report a container, the last decides. -/
theorem getElem?_byContainer_mergeAll_last {earlier later : List Update} {update : Update}
    {id : ContainerId} {metadata : Metadata} (reported : update.metadata? id = some metadata)
    (last : ∀ another ∈ later, another.metadata? id = none) :
    (index.mergeAll (earlier ++ update :: later)).byContainer[id]? =
      some ⟨update.deployment, metadata⟩ := by
  rw [getElem?_byContainer_mergeAll, lastHolding?_append, lastHolding?,
    lastHolding?_eq_none_iff.2 last, Update.holding?, reported]
  rfl

end Index

end Attribution
