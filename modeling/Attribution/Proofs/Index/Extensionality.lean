import Attribution.Proofs.Index.Attributes

/-!
# An index is what it attributes

A consistent index keeps nothing empty, and its deployments' own entries repeat what the forward
maps say. So there is nothing in it beyond what it attributes to whom, and two consistent indices
that attribute the same are the same index, whatever led to them.
-/

namespace Attribution

section Sets

variable {α β : Type} [Ord α] [Std.TransOrd α] [Std.LawfulEqOrd α]

/-- Sets that may be missing, but are not empty where they are there, are told apart by their
members. -/
theorem eq_of_mem_iff {one other : Option (Std.ExtTreeSet α)}
    (one_nonempty : ∀ set, one = some set → set.isEmpty = false)
    (other_nonempty : ∀ set, other = some set → set.isEmpty = false)
    (same : ∀ x, (∃ set, one = some set ∧ x ∈ set) ↔ ∃ set, other = some set ∧ x ∈ set) :
    one = other := by
  cases one with
  | none =>
    cases other with
    | none => rfl
    | some set =>
      obtain ⟨x, there⟩ := isEmpty_eq_false_iff_exists_mem.1 (other_nonempty set rfl)
      obtain ⟨_, absent, -⟩ := (same x).2 ⟨set, rfl, there⟩
      cases absent
  | some first =>
    cases other with
    | none =>
      obtain ⟨x, there⟩ := isEmpty_eq_false_iff_exists_mem.1 (one_nonempty first rfl)
      obtain ⟨_, absent, -⟩ := (same x).1 ⟨first, rfl, there⟩
      cases absent
    | some second =>
      refine congrArg some (Std.ExtTreeSet.ext_mem fun x => ?_)
      simpa using same x

/-- Maps that may be missing, but are not empty where they are there, are told apart by their
values. -/
theorem eq_of_bind_getElem? {one other : Option (Std.ExtTreeMap α β)}
    (one_nonempty : ∀ map, one = some map → map.isEmpty = false)
    (other_nonempty : ∀ map, other = some map → map.isEmpty = false)
    (same : ∀ key : α, one.bind (·[key]?) = other.bind (·[key]?)) : one = other := by
  have key {map : Std.ExtTreeMap α β} (nonempty : map.isEmpty = false) :
      ∃ key : α, map[key]? ≠ none := by
    rw [Std.ExtTreeMap.isEmpty_eq_false_iff, Std.ExtTreeMap.eq_empty_iff_forall_not_mem] at nonempty
    obtain ⟨key, there⟩ := Classical.not_forall_not.1 nonempty
    have value := Std.ExtTreeMap.mem_iff_isSome_getElem?.1 there
    exact ⟨key, Option.isSome_iff_ne_none.1 value⟩
  cases one with
  | none =>
    cases other with
    | none => rfl
    | some map =>
      obtain ⟨found, there⟩ := key (other_nonempty map rfl)
      exact absurd (same found).symm there
  | some first =>
    cases other with
    | none =>
      obtain ⟨found, there⟩ := key (one_nonempty first rfl)
      exact absurd (same found) there
    | some second => exact congrArg some (Std.ExtTreeMap.ext_getElem? same)

end Sets

/-- Own entries are told apart by what they list. -/
theorem Owned.eq_of_mem_iff {one other : Owned}
    (addresses : ∀ address, address ∈ one.addresses ↔ address ∈ other.addresses)
    (endpoints : ∀ endpoint, endpoint ∈ one.endpoints ↔ endpoint ∈ other.endpoints)
    (containers : ∀ id, id ∈ one.containers ↔ id ∈ other.containers) : one = other := by
  obtain ⟨addresses_one, endpoints_one, containers_one⟩ := one
  obtain ⟨addresses_other, endpoints_other, containers_other⟩ := other
  obtain rfl : addresses_one = addresses_other := Std.ExtTreeSet.ext_mem addresses
  obtain rfl : endpoints_one = endpoints_other := Std.ExtTreeSet.ext_mem endpoints
  obtain rfl : containers_one = containers_other := Std.ExtTreeSet.ext_mem containers
  rfl

namespace Index

variable {index other : Index}

/-! ### The maps one by one -/

/-- The targets that a deployment has behind an endpoint. -/
def targets? (index : Index) (endpoint : Endpoint) (deployment : DeploymentId) :
    Option (Std.ExtTreeSet Target) :=
  index.byEndpoint[endpoint]?.bind (·[deployment]?)

theorem exposesTarget_iff_targets? {endpoint : Endpoint} {deployment : DeploymentId}
    {target : Target} :
    index.ExposesTarget deployment endpoint target ↔
      ∃ targets, index.targets? endpoint deployment = some targets ∧ target ∈ targets := by
  simp only [ExposesTarget, targets?, Option.bind_eq_some_iff]
  constructor
  · rintro ⟨owners, targets, there, among, behind⟩
    exact ⟨targets, ⟨owners, there, among⟩, behind⟩
  · rintro ⟨targets, ⟨owners, there, among⟩, behind⟩
    exact ⟨owners, targets, there, among, behind⟩

/-- A deployment has an entry exactly if it owns something. -/
theorem Consistent.getElem?_owned (h : index.Consistent) (deployment : DeploymentId) :
    index.owned[deployment]? = (index.ownedBy deployment).kept? := by
  rw [ownedBy]
  cases there : index.owned[deployment]? with
  | none => rfl
  | some owned =>
    have nonempty := h.owned_nonempty deployment owned there
    simp [Owned.kept?, nonempty]

namespace Consistent

theorem byAddress_eq (h : index.Consistent) (h' : other.Consistent)
    (same : ∀ deployment address,
      index.OwnsAddress deployment address ↔ other.OwnsAddress deployment address) :
    index.byAddress = other.byAddress := by
  apply Std.ExtTreeMap.ext_getElem?
  intro address
  exact Attribution.eq_of_mem_iff (h.owners_nonempty address) (h'.owners_nonempty address)
    fun deployment => same deployment address

theorem byEndpoint_eq (h : index.Consistent) (h' : other.Consistent)
    (same : ∀ deployment endpoint target,
      index.ExposesTarget deployment endpoint target ↔
        other.ExposesTarget deployment endpoint target) :
    index.byEndpoint = other.byEndpoint := by
  have nonempty {index : Index} (h : index.Consistent) (endpoint : Endpoint)
      (deployment : DeploymentId) (targets : Std.ExtTreeSet Target)
      (there : index.targets? endpoint deployment = some targets) : targets.isEmpty = false := by
    obtain ⟨owners, exposed, among⟩ := Option.bind_eq_some_iff.1 there
    exact h.targets_nonempty endpoint owners deployment targets exposed among
  apply Std.ExtTreeMap.ext_getElem?
  intro endpoint
  refine eq_of_bind_getElem? (h.exposers_nonempty endpoint) (h'.exposers_nonempty endpoint) ?_
  intro deployment
  refine Attribution.eq_of_mem_iff (nonempty h endpoint deployment)
    (nonempty h' endpoint deployment) ?_
  intro target
  have agree := same deployment endpoint target
  rwa [exposesTarget_iff_targets?, exposesTarget_iff_targets?] at agree

/-- The deployments' own entries follow from the forward maps. -/
theorem owned_eq (h : index.Consistent) (h' : other.Consistent)
    (addresses : index.byAddress = other.byAddress)
    (endpoints : index.byEndpoint = other.byEndpoint)
    (containers : index.byContainer = other.byContainer) : index.owned = other.owned := by
  apply Std.ExtTreeMap.ext_getElem?
  intro deployment
  rw [h.getElem?_owned, h'.getElem?_owned]
  refine congrArg Owned.kept? (Owned.eq_of_mem_iff ?_ ?_ ?_)
  · intro address
    rw [h.address_iff, h'.address_iff, OwnsAddress, OwnsAddress, addresses]
  · intro endpoint
    rw [h.endpoint_iff, h'.endpoint_iff, Exposes, Exposes, endpoints]
  · intro id
    rw [h.container_iff, h'.container_iff, HoldsContainer, HoldsContainer, containers]

/-- Consistent indices that attribute the same are the same. -/
theorem eq_of_attributes_iff (h : index.Consistent) (h' : other.Consistent)
    (same : ∀ deployment association,
      index.Attributes deployment association ↔ other.Attributes deployment association) :
    index = other := by
  have addresses : index.byAddress = other.byAddress :=
    h.byAddress_eq h' fun deployment address => same deployment (.address address)
  have endpoints : index.byEndpoint = other.byEndpoint :=
    h.byEndpoint_eq h' fun deployment endpoint target =>
      same deployment (.exposure ⟨endpoint, target⟩)
  have containers : index.byContainer = other.byContainer := by
    apply Std.ExtTreeMap.ext_getElem?
    intro id
    apply Option.ext
    intro ⟨owner, metadata⟩
    exact same owner (.container id metadata)
  have entries := h.owned_eq h' addresses endpoints containers
  obtain ⟨byAddress, byEndpoint, byContainer, owned⟩ := index
  obtain ⟨byAddress', byEndpoint', byContainer', owned'⟩ := other
  cases addresses
  cases endpoints
  cases containers
  cases entries
  rfl

end Consistent

end Index

end Attribution
