import Attribution.Index.Consistent
import Attribution.Index.Purge

/-!
# What a purge takes away

In a consistent index a deployment's own entry lists all that is its own, so a purge guided by the
entry reaches every trace of the deployment: each key of each forward map is left as if the
deployment had been taken out of it. From these equations follow what the index says after a
purge and that it is consistent again.

`purgeOwn?` is a purge that looks at every container before it takes it out and goes no further
if the container belongs to another deployment. A consistent index never gives it cause to.
-/

namespace Attribution.Index

variable {index : Index}

/-! ### The maps after a purge -/

@[simp] theorem toList_addresses_empty : Owned.empty.addresses.toList = [] := by
  simp [Owned.empty, Std.ExtTreeSet.toList_eq_nil_iff]

@[simp] theorem toList_endpoints_empty : Owned.empty.endpoints.toList = [] := by
  simp [Owned.empty, Std.ExtTreeSet.toList_eq_nil_iff]

@[simp] theorem toList_containers_empty : Owned.empty.containers.toList = [] := by
  simp [Owned.empty, Std.ExtTreeSet.toList_eq_nil_iff]

theorem byAddress_purge (index : Index) (deployment : DeploymentId) :
    (index.purge deployment).byAddress =
      unlinkAll index.byAddress deployment (index.ownedBy deployment).addresses.toList := by
  cases there : index.owned[deployment]? <;> simp [purge, ownedBy, there, unlinkAll]

theorem byEndpoint_purge (index : Index) (deployment : DeploymentId) :
    (index.purge deployment).byEndpoint =
      unlinkAll index.byEndpoint deployment (index.ownedBy deployment).endpoints.toList := by
  cases there : index.owned[deployment]? <;> simp [purge, ownedBy, there, unlinkAll]

theorem byContainer_purge (index : Index) (deployment : DeploymentId) :
    (index.purge deployment).byContainer =
      removeContainers index.byContainer (index.ownedBy deployment).containers.toList := by
  cases there : index.owned[deployment]? <;> simp [purge, ownedBy, there, removeContainers]

/-- A purged deployment owns nothing, and the entries of the others stay. -/
theorem ownedBy_purge (index : Index) (deployment other : DeploymentId) :
    (index.purge deployment).ownedBy other =
      if deployment = other then .empty else index.ownedBy other := by
  rw [ownedBy, ownedBy]
  rw [getElem?_owned_purge]
  split <;> rfl

/-- Every address has lost the deployment as an owner. -/
theorem getElem?_byAddress_purge (h : index.Consistent) (deployment : DeploymentId)
    (address : Address) :
    (index.purge deployment).byAddress[address]? =
      index.byAddress[address]?.bind (dropOwner deployment) := by
  rw [byAddress_purge, getElem?_unlinkAll]
  split
  · rfl
  · rename_i unlisted
    rw [Std.ExtTreeSet.mem_toList, h.address_iff] at unlisted
    cases there : index.byAddress[address]? with
    | none => rfl
    | some owners =>
      have stranger : deployment ∉ owners := fun owner => unlisted ⟨owners, there, owner⟩
      exact (dropOwner_of_not_mem (h.owners_nonempty address owners there) stranger).symm

/-- Every endpoint has lost the deployment as an exposer. -/
theorem getElem?_byEndpoint_purge (h : index.Consistent) (deployment : DeploymentId)
    (endpoint : Endpoint) :
    (index.purge deployment).byEndpoint[endpoint]? =
      index.byEndpoint[endpoint]?.bind (dropOwner deployment) := by
  rw [byEndpoint_purge, getElem?_unlinkAll]
  split
  · rfl
  · rename_i unlisted
    rw [Std.ExtTreeSet.mem_toList, h.endpoint_iff] at unlisted
    cases there : index.byEndpoint[endpoint]? with
    | none => rfl
    | some owners =>
      have stranger : deployment ∉ owners := fun owner => unlisted ⟨owners, there, owner⟩
      exact (dropOwner_of_not_mem (h.exposers_nonempty endpoint owners there) stranger).symm

/-- Every container of the deployment is gone. -/
theorem getElem?_byContainer_purge (h : index.Consistent) (deployment : DeploymentId)
    (id : ContainerId) :
    (index.purge deployment).byContainer[id]? =
      index.byContainer[id]?.filter (·.owner ≠ deployment) := by
  rw [byContainer_purge, getElem?_removeContainers]
  have listed : id ∈ (index.ownedBy deployment).containers.toList ↔
      index.HoldsContainer deployment id := by
    rw [Std.ExtTreeSet.mem_toList, h.container_iff]
  cases there : index.byContainer[id]? with
  | none => simp
  | some holding =>
    have owner_iff : index.HoldsContainer deployment id ↔ holding.owner = deployment := by
      simp [HoldsContainer, there]
    by_cases own : holding.owner = deployment <;> simp [listed, owner_iff, own, Option.filter]

/-! ### What the index says after a purge -/

theorem ownsAddress_purge (h : index.Consistent) {deployment other : DeploymentId}
    {address : Address} :
    (index.purge deployment).OwnsAddress other address ↔
      index.OwnsAddress other address ∧ other ≠ deployment := by
  rw [OwnsAddress, OwnsAddress]
  rw [getElem?_byAddress_purge h]
  exact exists_mem_bind_dropOwner_iff

theorem exposes_purge (h : index.Consistent) {deployment other : DeploymentId}
    {endpoint : Endpoint} :
    (index.purge deployment).Exposes other endpoint ↔
      index.Exposes other endpoint ∧ other ≠ deployment := by
  rw [Exposes, Exposes]
  rw [getElem?_byEndpoint_purge h]
  exact exists_mem_bind_dropOwner_iff

theorem holdsContainer_purge (h : index.Consistent) {deployment other : DeploymentId}
    {id : ContainerId} :
    (index.purge deployment).HoldsContainer other id ↔
      index.HoldsContainer other id ∧ other ≠ deployment := by
  rw [HoldsContainer, HoldsContainer]
  rw [getElem?_byContainer_purge h]
  constructor
  · rintro ⟨holding, there, rfl⟩
    obtain ⟨before, different⟩ := Option.filter_eq_some_iff.1 there
    exact ⟨⟨holding, before, rfl⟩, by simpa using different⟩
  · rintro ⟨⟨holding, before, rfl⟩, different⟩
    exact ⟨holding, by simp [before, different], rfl⟩

/-- The targets of an exposer that is left are those it had. -/
theorem getElem?_exposers_purge (h : index.Consistent) {deployment other : DeploymentId}
    {endpoint : Endpoint} {left : EndpointOwners} {targets : Std.ExtTreeSet Target} :
    (index.purge deployment).byEndpoint[endpoint]? = some left ∧ left[other]? = some targets ↔
      (∃ owners, index.byEndpoint[endpoint]? = some owners ∧ owners[other]? = some targets ∧
        owners.erase deployment = left) ∧ other ≠ deployment := by
  rw [getElem?_byEndpoint_purge h, Option.bind_eq_some_iff]
  constructor
  · rintro ⟨⟨owners, before, dropped⟩, among⟩
    obtain ⟨rfl, -⟩ := dropOwner_eq_some_iff.1 dropped
    change (owners.erase deployment)[other]? = some targets at among
    rw [Std.ExtTreeMap.getElem?_erase] at among
    by_cases same : deployment = other
    · simp [same] at among
    · exact ⟨⟨owners, before, by simpa [same] using among, rfl⟩, Ne.symm same⟩
  · rintro ⟨⟨owners, before, among, rfl⟩, different⟩
    have remains : (owners.erase deployment)[other]? = some targets := by
      simpa [Std.ExtTreeMap.getElem?_erase, Ne.symm different] using among
    have present : other ∈ owners.erase deployment :=
      Std.ExtTreeMap.mem_iff_isSome_getElem?.2 (by simp [remains])
    refine ⟨⟨owners, before, ?_⟩, remains⟩
    exact dropOwner_eq_some_iff.2 ⟨rfl, (Owners.isEmpty_eq_false_iff _).2 ⟨other, present⟩⟩

theorem exposesTarget_purge (h : index.Consistent) {deployment other : DeploymentId}
    {endpoint : Endpoint} {target : Target} :
    (index.purge deployment).ExposesTarget other endpoint target ↔
      index.ExposesTarget other endpoint target ∧ other ≠ deployment := by
  constructor
  · rintro ⟨left, targets, there, among, behind⟩
    obtain ⟨⟨owners, before, listed, -⟩, different⟩ :=
      (getElem?_exposers_purge h).1 ⟨there, among⟩
    exact ⟨⟨owners, targets, before, listed, behind⟩, different⟩
  · rintro ⟨⟨owners, targets, before, listed, behind⟩, different⟩
    obtain ⟨there, among⟩ :=
      (getElem?_exposers_purge h).2 ⟨⟨owners, before, listed, rfl⟩, different⟩
    exact ⟨_, targets, there, among, behind⟩

namespace Consistent

/-- After a purge the maps agree. -/
theorem purge (h : index.Consistent) (deployment : DeploymentId) :
    (index.purge deployment).Consistent where
  address_iff other address := by
    rw [ownsAddress_purge h, ownedBy_purge, ← h.address_iff]
    by_cases same : deployment = other
    · simp [same, Owned.empty]
    · simp [same, Ne.symm same]
  endpoint_iff other endpoint := by
    rw [exposes_purge h, ownedBy_purge, ← h.endpoint_iff]
    by_cases same : deployment = other
    · simp [same, Owned.empty]
    · simp [same, Ne.symm same]
  container_iff other id := by
    rw [holdsContainer_purge h, ownedBy_purge, ← h.container_iff]
    by_cases same : deployment = other
    · simp [same, Owned.empty]
    · simp [same, Ne.symm same]
  owners_nonempty address owners there := by
    rw [getElem?_byAddress_purge h] at there
    obtain ⟨before, -, dropped⟩ := Option.bind_eq_some_iff.1 there
    exact (dropOwner_eq_some_iff.1 dropped).2
  exposers_nonempty endpoint owners there := by
    rw [getElem?_byEndpoint_purge h] at there
    obtain ⟨before, -, dropped⟩ := Option.bind_eq_some_iff.1 there
    exact (dropOwner_eq_some_iff.1 dropped).2
  targets_nonempty endpoint owners other targets there among := by
    obtain ⟨⟨exposers, before, listed, -⟩, -⟩ := (getElem?_exposers_purge h).1 ⟨there, among⟩
    exact h.targets_nonempty endpoint exposers other targets before listed
  owned_nonempty other owned there := by
    rw [getElem?_owned_purge] at there
    split at there
    · cases there
    · exact h.owned_nonempty other owned there

theorem purgeAll (h : index.Consistent) (deployments : List DeploymentId) :
    (index.purgeAll deployments).1.Consistent := by
  induction deployments generalizing index with
  | nil => exact h
  | cons deployment more ih => exact ih (h.purge deployment)

end Consistent

/-! ### Purges that check what they take out -/

/-- Takes out the given containers in turn, as long as each belongs to the deployment. -/
def removeOwn? (byContainer : Std.ExtTreeMap ContainerId Holding) (deployment : DeploymentId) :
    List ContainerId → Option (Std.ExtTreeMap ContainerId Holding)
  | [] => some byContainer
  | id :: more =>
    if byContainer[id]?.map Holding.owner = some deployment then
      removeOwn? (byContainer.erase id) deployment more
    else none

/-- A purge that ends in nothing if a container that it takes out belongs to another deployment. -/
def purgeOwn? (index : Index) (deployment : DeploymentId) : Option Index :=
  (removeOwn? index.byContainer deployment (index.ownedBy deployment).containers.toList).map
    fun byContainer => { index.purge deployment with byContainer }

/-- Such purges in turn. -/
def purgeAllOwn? (index : Index) : List DeploymentId → Option Index
  | [] => some index
  | deployment :: more => (index.purgeOwn? deployment).bind (purgeAllOwn? · more)

/-- Where all containers are the deployment's own, looking at them changes nothing. No container
may be listed twice: the second time it would be gone. -/
theorem removeOwn?_eq_some {byContainer : Std.ExtTreeMap ContainerId Holding}
    {deployment : DeploymentId} {ids : List ContainerId} (distinct : ids.Nodup)
    (own : ∀ id ∈ ids, byContainer[id]?.map Holding.owner = some deployment) :
    removeOwn? byContainer deployment ids = some (removeContainers byContainer ids) := by
  induction ids generalizing byContainer with
  | nil => rfl
  | cons id more ih =>
    obtain ⟨once, distinct⟩ := List.nodup_cons.1 distinct
    rw [removeOwn?, if_pos (own id List.mem_cons_self)]
    apply ih distinct
    intro other later
    have different : id ≠ other := by
      rintro rfl
      exact once later
    simpa [Std.ExtTreeMap.getElem?_erase, different] using own other (List.mem_cons_of_mem id later)

theorem nodup_toList (ids : Std.ExtTreeSet ContainerId) : ids.toList.Nodup :=
  Std.ExtTreeSet.distinct_toList.imp fun different same => different (by simp [same])

namespace Consistent

/-- A deployment's own entry lists no container of another deployment. -/
theorem purgeOwn?_eq_some (h : index.Consistent) (deployment : DeploymentId) :
    index.purgeOwn? deployment = some (index.purge deployment) := by
  have own : ∀ id ∈ (index.ownedBy deployment).containers.toList,
      index.byContainer[id]?.map Holding.owner = some deployment := by
    intro id listed
    rw [Std.ExtTreeSet.mem_toList, h.container_iff] at listed
    obtain ⟨holding, there, owner⟩ := listed
    simp [there, owner]
  rw [purgeOwn?, removeOwn?_eq_some (nodup_toList _) own, ← byContainer_purge]
  rfl

theorem purgeAllOwn?_eq_some (h : index.Consistent) (deployments : List DeploymentId) :
    index.purgeAllOwn? deployments = some (index.purgeAll deployments).1 := by
  induction deployments generalizing index with
  | nil => rfl
  | cons deployment more ih =>
    rw [purgeAllOwn?, h.purgeOwn?_eq_some, Option.bind_some, ih (h.purge deployment)]
    rfl

end Consistent

end Attribution.Index
