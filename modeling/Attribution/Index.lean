import Attribution.Batch

/-!
# The index

Four maps that change together. Three lead forward, from what is seen on the network to whom it
belongs:

* an address to the deployments that own it;
* an endpoint to the deployments that expose it, each with the container ports behind it;
* a container to its one owner and its metadata.

The fourth leads back, from a deployment to everything it owns, so that purging a deployment
costs no more than what it owns. The changes are in `Index.Associate` and `Index.Purge`, the
answers in `Index.Lookup`. `Index.Relations` names what the forward maps say, and
`Index.Consistent` says what it means that all four agree.
-/

namespace Attribution

/-- A container's owner, which is the deployment whose batch reported it last, and its metadata.
The metadata may name another deployment. -/
structure Holding where
  owner : DeploymentId
  metadata : Metadata
  deriving DecidableEq

/-- Everything that one deployment owns. -/
structure Owned where
  addresses : Std.ExtTreeSet Address := ∅
  endpoints : Std.ExtTreeSet Endpoint := ∅
  containers : Std.ExtTreeSet ContainerId := ∅
  deriving DecidableEq

namespace Owned

/-- Nothing owned. -/
def empty : Owned := {}

instance : Inhabited Owned := ⟨empty⟩

/-- Whether nothing is owned. -/
def isEmpty (owned : Owned) : Bool :=
  owned.addresses.isEmpty && owned.endpoints.isEmpty && owned.containers.isEmpty

/-- The same, as an entry of the index: a deployment that owns nothing has none. -/
def kept? (owned : Owned) : Option Owned :=
  if owned.isEmpty then none else some owned

/-- Adds what an association ties to the deployment. -/
def add (owned : Owned) : Association → Owned
  | .address address => { owned with addresses := owned.addresses.insert address }
  | .exposure exposure => { owned with endpoints := owned.endpoints.insert exposure.endpoint }
  | .container id _ => { owned with containers := owned.containers.insert id }

/-- Gives up a container. -/
def removeContainer (owned : Owned) (id : ContainerId) : Owned :=
  { owned with containers := owned.containers.erase id }

end Owned

/-- The deployments that own an address. -/
abbrev AddressOwners := Std.ExtTreeSet DeploymentId

/-- The deployments that expose an endpoint, with the container ports behind it. -/
abbrev EndpointOwners := Std.ExtTreeMap DeploymentId (Std.ExtTreeSet Target)

/-- What belongs to whom. -/
structure Index where
  byAddress : Std.ExtTreeMap Address AddressOwners := ∅
  byEndpoint : Std.ExtTreeMap Endpoint EndpointOwners := ∅
  byContainer : Std.ExtTreeMap ContainerId Holding := ∅
  owned : Std.ExtTreeMap DeploymentId Owned := ∅
  deriving DecidableEq

namespace Index

/-- The index of nothing. -/
def empty : Index := {}

instance : Inhabited Index := ⟨empty⟩

end Index

end Attribution
