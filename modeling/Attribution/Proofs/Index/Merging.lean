import Attribution.Index.Associate
import Attribution.Index.Consistent

/-!
# Merging keeps the maps in agreement

An association changes one forward map and one or two of the deployments' own entries. The lemmas
say what each change does to the entry of every deployment; from them follows that a consistent
index is consistent after any association, and so after any batch.

The one case with an argument is a container that moves. Its former owner is the only other
deployment whose entry lists it, which is what consistency says before the move; so after that
deployment has given it up nobody lists it but the new owner.
-/

namespace Attribution

namespace Owned

@[simp] theorem isEmpty_empty : empty.isEmpty = true := rfl

theorem eq_empty_of_isEmpty {owned : Owned} (h : owned.isEmpty = true) : owned = empty := by
  obtain ⟨addresses, endpoints, containers⟩ := owned
  simp only [isEmpty, Bool.and_eq_true, Std.ExtTreeSet.isEmpty_iff] at h
  obtain ⟨⟨rfl, rfl⟩, rfl⟩ := h
  rfl

/-- Who owns something has an entry. -/
theorem isEmpty_add (owned : Owned) (association : Association) :
    (owned.add association).isEmpty = false := by
  cases association <;> simp [add, isEmpty]

@[simp] theorem removeContainer_empty (id : ContainerId) : empty.removeContainer id = empty := by
  simp [removeContainer, empty]

@[simp] theorem getD_kept? (owned : Owned) : owned.kept?.getD empty = owned := by
  rw [kept?]
  split
  · rename_i nothing
    exact (eq_empty_of_isEmpty nothing).symm
  · rfl

theorem isEmpty_of_kept?_eq_some {owned left : Owned} (h : owned.kept? = some left) :
    left.isEmpty = false := by
  rw [kept?] at h
  split at h
  · cases h
  · cases h
    simp_all

end Owned

namespace Index

/-! ### The deployments' own entries -/

/-- Only the former owner's own entry changes. -/
theorem ownedBy_disown (index : Index) (former other : DeploymentId) (id : ContainerId) :
    (index.disown former id).ownedBy other =
      if former = other then (index.ownedBy other).removeContainer id
      else index.ownedBy other := by
  by_cases h : former = other
  · subst h
    cases there : index.owned[former]? <;> simp [ownedBy, disown, there]
  · simp [ownedBy, disown, Std.ExtTreeMap.getElem?_alter, h]

/-- The entry of every deployment after an association. -/
theorem ownedBy_associate (index : Index) (deployment other : DeploymentId)
    (association : Association) :
    (index.associate deployment association).ownedBy other =
      if deployment = other then (index.ownedBy other).add association
      else
        match association with
        | .container id _ =>
          if index.formerOwner? deployment id = some other
          then (index.ownedBy other).removeContainer id else index.ownedBy other
        | _ => index.ownedBy other := by
  cases association with
  | address address => exact index.ownedBy_own deployment other _
  | exposure exposure => exact index.ownedBy_own deployment other _
  | container id metadata =>
    have entered : (index.enter deployment (.container id metadata)).ownedBy other =
        if deployment = other then (index.ownedBy other).add (.container id metadata)
        else index.ownedBy other := index.ownedBy_own deployment other _
    cases found : index.formerOwner? deployment id with
    | none =>
      rw [associate_of_moved?_eq_none (by simp [found]), entered]
      simp [found]
    | some former =>
      have different : former ≠ deployment := formerOwner?_ne found
      have moves : index.moved? deployment (.container id metadata) = some (former, id) := by
        simp [found]
      rw [associate_of_moved?_eq_some moves, ownedBy_disown, entered]
      by_cases same : former = other
      · subst same
        simp [found, Ne.symm different]
      · simp [found, same]

theorem mem_addresses_associate {index : Index} {deployment other : DeploymentId}
    {association : Association} {address : Address} :
    address ∈ ((index.associate deployment association).ownedBy other).addresses ↔
      address ∈ (index.ownedBy other).addresses ∨
        (deployment = other ∧ association = .address address) := by
  rw [ownedBy_associate]
  by_cases same : deployment = other
  · cases association <;> simp [same, Owned.add, or_comm]
  · cases association with
    | container id metadata =>
      by_cases moves : index.formerOwner? deployment id = some other <;>
        simp [same, moves, Owned.removeContainer]
    | _ => simp [same]

theorem mem_endpoints_associate {index : Index} {deployment other : DeploymentId}
    {association : Association} {endpoint : Endpoint} :
    endpoint ∈ ((index.associate deployment association).ownedBy other).endpoints ↔
      endpoint ∈ (index.ownedBy other).endpoints ∨
        (deployment = other ∧ ∃ target, association = .exposure ⟨endpoint, target⟩) := by
  rw [ownedBy_associate]
  by_cases same : deployment = other
  · cases association with
    | exposure exposure =>
      obtain ⟨exposed, behind⟩ := exposure
      simp [same, Owned.add, or_comm]
    | _ => simp [same, Owned.add]
  · cases association with
    | container id metadata =>
      by_cases moves : index.formerOwner? deployment id = some other <;>
        simp [same, moves, Owned.removeContainer]
    | _ => simp [same]

/-- No deployment has an empty entry. -/
def NoEmptyEntry (index : Index) : Prop :=
  ∀ (deployment : DeploymentId) (owned : Owned),
    index.owned[deployment]? = some owned → owned.isEmpty = false

theorem NoEmptyEntry.own {index : Index} (h : index.NoEmptyEntry) (deployment : DeploymentId)
    (association : Association) : (index.own deployment association).NoEmptyEntry := by
  intro other owned there
  rw [getElem?_owned_own] at there
  split at there
  · cases there
    exact Owned.isEmpty_add _ association
  · exact h other owned there

theorem NoEmptyEntry.disown {index : Index} (h : index.NoEmptyEntry) (former : DeploymentId)
    (id : ContainerId) : (index.disown former id).NoEmptyEntry := by
  intro other owned there
  simp only [Index.disown, Std.ExtTreeMap.getElem?_alter] at there
  split at there
  · obtain ⟨before, -, left⟩ := Option.bind_eq_some_iff.1 there
    exact Owned.isEmpty_of_kept?_eq_some left
  · exact h other owned there

theorem NoEmptyEntry.associate {index : Index} (h : index.NoEmptyEntry)
    (deployment : DeploymentId) (association : Association) :
    (index.associate deployment association).NoEmptyEntry := by
  have entered : (index.enter deployment association).NoEmptyEntry := by
    cases association <;> exact h.own deployment _
  cases found : index.moved? deployment association with
  | none =>
    rw [associate_of_moved?_eq_none found]
    exact entered
  | some move =>
    rw [associate_of_moved?_eq_some found]
    exact entered.disown move.1 move.2

/-! ### The forward maps -/

theorem ownsAddress_associate {index : Index} {deployment other : DeploymentId}
    {association : Association} {address : Address} :
    (index.associate deployment association).OwnsAddress other address ↔
      index.OwnsAddress other address ∨
        (deployment = other ∧ association = .address address) := by
  cases association with
  | address reported =>
    rw [ownsAddress_associate_address, Association.address.injEq]
  | _ => simp [OwnsAddress]

theorem exposesTarget_associate {index : Index} {deployment other : DeploymentId}
    {association : Association} {endpoint : Endpoint} {target : Target} :
    (index.associate deployment association).ExposesTarget other endpoint target ↔
      index.ExposesTarget other endpoint target ∨
        (deployment = other ∧ association = .exposure ⟨endpoint, target⟩) := by
  cases association with
  | exposure reported =>
    rw [exposesTarget_associate_exposure, Association.exposure.injEq]
  | _ => simp [ExposesTarget]

/-- An endpoint gains an exposer, and no other exposure changes. -/
theorem exposes_associate {index : Index} {deployment other : DeploymentId}
    {association : Association} {endpoint : Endpoint} :
    (index.associate deployment association).Exposes other endpoint ↔
      index.Exposes other endpoint ∨
        (deployment = other ∧ ∃ target, association = .exposure ⟨endpoint, target⟩) := by
  cases association with
  | exposure reported =>
    obtain ⟨exposed, behind⟩ := reported
    rw [Exposes, Exposes]
    by_cases h : exposed = endpoint
    · subst h
      cases there : index.byEndpoint[exposed]? <;> by_cases same : deployment = other <;>
        simp [addTarget, there, same, Std.ExtTreeMap.mem_alter]
    · simp [Std.ExtTreeMap.getElem?_alter, h]
  | _ => simp [Exposes]

/-- A container has its new owner and no other. -/
theorem holdsContainer_associate_container {index : Index} {deployment other : DeploymentId}
    {id another : ContainerId} {metadata : Metadata} :
    (index.associate deployment (.container id metadata)).HoldsContainer other another ↔
      if id = another then deployment = other else index.HoldsContainer other another := by
  rw [HoldsContainer, HoldsContainer]
  rw [getElem?_byContainer_associate]
  by_cases h : id = another <;> simp [h]

/-- The deployment that a container moves away from is the one that holds it. -/
theorem formerOwner?_eq_some_iff {index : Index} {deployment former : DeploymentId}
    {id : ContainerId} :
    index.formerOwner? deployment id = some former ↔
      index.HoldsContainer former id ∧ former ≠ deployment := by
  rw [formerOwner?, HoldsContainer]
  cases index.byContainer[id]? with
  | none => simp
  | some holding =>
    simp only [Option.map_some, Option.filter_eq_some_iff, Option.some.injEq, decide_eq_true_eq]
    constructor
    · rintro ⟨rfl, different⟩
      exact ⟨⟨holding, rfl, rfl⟩, different⟩
    · rintro ⟨⟨same, rfl, rfl⟩, different⟩
      exact ⟨rfl, different⟩

/-! ### Agreement after an association -/

namespace Consistent

variable {index : Index}

theorem container_iff_associate (h : index.Consistent) (deployment other : DeploymentId)
    (association : Association) (id : ContainerId) :
    id ∈ ((index.associate deployment association).ownedBy other).containers ↔
      (index.associate deployment association).HoldsContainer other id := by
  have before := h.container_iff other id
  rw [ownedBy_associate]
  cases association with
  | address reported =>
    have unchanged : (index.associate deployment (.address reported)).HoldsContainer other id ↔
        index.HoldsContainer other id := by simp [HoldsContainer]
    rw [unchanged, ← before]
    by_cases same : deployment = other <;> simp [same, Owned.add]
  | exposure exposure =>
    have unchanged : (index.associate deployment (.exposure exposure)).HoldsContainer other id ↔
        index.HoldsContainer other id := by simp [HoldsContainer]
    rw [unchanged, ← before]
    by_cases same : deployment = other <;> simp [same, Owned.add]
  | container reported metadata =>
    rw [holdsContainer_associate_container]
    by_cases same : deployment = other
    · subst same
      by_cases moved : reported = id <;> simp [moved, Owned.add, before]
    · by_cases moved : reported = id
      · -- Only the former owner lists the container, and it gives it up.
        subst moved
        by_cases former : index.formerOwner? deployment reported = some other
        · simp [same, former, Owned.removeContainer]
        · have unlisted : ¬ index.HoldsContainer other reported := fun holds =>
            former (formerOwner?_eq_some_iff.2 ⟨holds, Ne.symm same⟩)
          simpa [same, former, before] using unlisted
      · by_cases former : index.formerOwner? deployment reported = some other <;>
          simp [same, moved, former, Owned.removeContainer, before]

theorem owners_nonempty_associate (h : index.Consistent) (deployment : DeploymentId)
    (association : Association) (address : Address) (owners : AddressOwners)
    (there : (index.associate deployment association).byAddress[address]? = some owners) :
    owners.isEmpty = false := by
  cases association with
  | address reported =>
    simp only [byAddress_associate, Std.ExtTreeMap.getElem?_alter] at there
    split at there
    · cases there
      simp [addAddressOwner]
    · exact h.owners_nonempty address owners there
  | _ => exact h.owners_nonempty address owners (by simpa using there)

theorem exposers_nonempty_associate (h : index.Consistent) (deployment : DeploymentId)
    (association : Association) (endpoint : Endpoint) (owners : EndpointOwners)
    (there : (index.associate deployment association).byEndpoint[endpoint]? = some owners) :
    owners.isEmpty = false := by
  cases association with
  | exposure exposure =>
    simp only [byEndpoint_associate, Std.ExtTreeMap.getElem?_alter] at there
    split at there
    · cases there
      simp [addTarget]
    · exact h.exposers_nonempty endpoint owners there
  | _ => exact h.exposers_nonempty endpoint owners (by simpa using there)

theorem targets_nonempty_associate (h : index.Consistent) (deployment other : DeploymentId)
    (association : Association) (endpoint : Endpoint) (owners : EndpointOwners)
    (targets : Std.ExtTreeSet Target)
    (there : (index.associate deployment association).byEndpoint[endpoint]? = some owners)
    (among : owners[other]? = some targets) : targets.isEmpty = false := by
  cases association with
  | exposure exposure =>
    simp only [byEndpoint_associate, Std.ExtTreeMap.getElem?_alter] at there
    split at there
    · cases there
      simp only [addTarget, Std.ExtTreeMap.getElem?_alter] at among
      split at among
      · cases among
        simp
      · cases before : index.byEndpoint[exposure.endpoint]? with
        | none => simp [before] at among
        | some exposers =>
          exact h.targets_nonempty exposure.endpoint exposers other targets before
            (by simpa [before] using among)
    · exact h.targets_nonempty endpoint owners other targets there among
  | _ => exact h.targets_nonempty endpoint owners other targets (by simpa using there) among

/-- Whatever is reported for a deployment, the maps agree afterwards. -/
theorem associate (h : index.Consistent) (deployment : DeploymentId)
    (association : Association) : (index.associate deployment association).Consistent where
  address_iff other address := by
    rw [mem_addresses_associate, ownsAddress_associate, h.address_iff]
  endpoint_iff other endpoint := by
    rw [mem_endpoints_associate, exposes_associate, h.endpoint_iff]
  container_iff other := h.container_iff_associate deployment other association
  owners_nonempty := h.owners_nonempty_associate deployment association
  exposers_nonempty := h.exposers_nonempty_associate deployment association
  targets_nonempty endpoint owners other :=
    h.targets_nonempty_associate deployment other association endpoint owners
  owned_nonempty := NoEmptyEntry.associate h.owned_nonempty deployment association

theorem associateAll (h : index.Consistent) (deployment : DeploymentId)
    (associations : List Association) :
    (index.associateAll deployment associations).Consistent := by
  induction associations generalizing index with
  | nil => exact h
  | cons association more ih => exact ih (h.associate deployment association)

/-- After a merge the maps agree, however many containers it moved. -/
theorem merge (h : index.Consistent) (deployment : DeploymentId) (batch : Batch) :
    (index.merge deployment batch).Consistent := by
  rw [merge_eq_associateAll]
  exact h.associateAll deployment batch.associations

end Consistent

end Index

end Attribution
