import Attribution.Index

/-!
# What the index says

The relations that the index is about: a deployment owns an address, exposes an endpoint with a
target behind it, or holds a container. Each is read off the forward map that leads to it. What
a deployment's own entry says is `ownedBy`; that it says the same is the matter of
`Index.Consistent`.
-/

namespace Attribution.Index

/-- The deployment is among the owners of the address. -/
def OwnsAddress (index : Index) (deployment : DeploymentId) (address : Address) : Prop :=
  ∃ owners, index.byAddress[address]? = some owners ∧ deployment ∈ owners

/-- The deployment is among those that expose the endpoint. -/
def Exposes (index : Index) (deployment : DeploymentId) (endpoint : Endpoint) : Prop :=
  ∃ owners, index.byEndpoint[endpoint]? = some owners ∧ deployment ∈ owners

/-- The deployment exposes the endpoint with the target behind it. -/
def ExposesTarget (index : Index) (deployment : DeploymentId) (endpoint : Endpoint)
    (target : Target) : Prop :=
  ∃ owners targets, index.byEndpoint[endpoint]? = some owners ∧
    owners[deployment]? = some targets ∧ target ∈ targets

/-- The deployment is the owner of the container. -/
def HoldsContainer (index : Index) (deployment : DeploymentId) (id : ContainerId) : Prop :=
  ∃ holding, index.byContainer[id]? = some holding ∧ holding.owner = deployment

/-- What a deployment's own entry says; a deployment without an entry owns nothing. -/
def ownedBy (index : Index) (deployment : DeploymentId) : Owned :=
  index.owned[deployment]?.getD .empty

/-- Who exposes an endpoint with a target exposes the endpoint. -/
theorem ExposesTarget.exposes {index : Index} {deployment : DeploymentId} {endpoint : Endpoint}
    {target : Target} (h : index.ExposesTarget deployment endpoint target) :
    index.Exposes deployment endpoint := by
  obtain ⟨owners, targets, there, among, -⟩ := h
  exact ⟨owners, there, Std.ExtTreeMap.mem_iff_isSome_getElem?.2 (by simp [among])⟩

end Attribution.Index
