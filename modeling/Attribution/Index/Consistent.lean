import Attribution.Index.Relations

/-!
# Agreement of the maps

The forward maps and the deployments' own entries tell the same, and nothing empty is kept in
any of them. This is what every change of the index preserves; it is why a purge finds
everything that has to go, and why the sizes count only what is there.
-/

namespace Attribution.Index

/-- The four maps agree, and none of them keeps anything empty. -/
structure Consistent (index : Index) : Prop where
  address_iff (deployment : DeploymentId) (address : Address) :
    address ∈ (index.ownedBy deployment).addresses ↔ index.OwnsAddress deployment address
  endpoint_iff (deployment : DeploymentId) (endpoint : Endpoint) :
    endpoint ∈ (index.ownedBy deployment).endpoints ↔ index.Exposes deployment endpoint
  container_iff (deployment : DeploymentId) (id : ContainerId) :
    id ∈ (index.ownedBy deployment).containers ↔ index.HoldsContainer deployment id
  owners_nonempty (address : Address) (owners : AddressOwners) :
    index.byAddress[address]? = some owners → owners.isEmpty = false
  exposers_nonempty (endpoint : Endpoint) (owners : EndpointOwners) :
    index.byEndpoint[endpoint]? = some owners → owners.isEmpty = false
  targets_nonempty (endpoint : Endpoint) (owners : EndpointOwners) (deployment : DeploymentId)
    (targets : Std.ExtTreeSet Target) :
    index.byEndpoint[endpoint]? = some owners → owners[deployment]? = some targets →
      targets.isEmpty = false
  owned_nonempty (deployment : DeploymentId) (owned : Owned) :
    index.owned[deployment]? = some owned → owned.isEmpty = false

/-- The index of nothing is consistent. -/
theorem consistent_empty : empty.Consistent := by
  constructor <;>
    simp [empty, ownedBy, OwnsAddress, Exposes, HoldsContainer, Owned.empty]

end Attribution.Index
