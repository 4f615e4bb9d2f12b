import Attribution.Ascending
import Attribution.Index

/-!
# Answers from the index

An endpoint is attributed to the deployments that expose it, each with the container ports
behind it. Where no deployment exposes it, the owners of its address are named instead, with the
endpoint's own port: less is known then, but the traffic is still attributed. Candidates come in
the order of their deployments; ports and names in ascending order, each once.
-/

namespace Attribution

/-- A deployment that may own an endpoint. -/
structure Candidate where
  entity : Entity
  /-- The container ports behind the endpoint. -/
  ports : List UInt16
  /-- The names of these ports, as far as they have any. -/
  names : List String
  deriving DecidableEq

namespace Candidate

/-- The candidate that exposes an endpoint with the given targets. -/
def exposing (deployment : DeploymentId) (targets : Std.ExtTreeSet Target) : Candidate where
  entity := .deployment deployment
  ports := ascending (targets.toList.map Target.port)
  names := ascending (targets.toList.filterMap Target.givenName?)

/-- The candidate that owns no more than the address of an endpoint at the given port. -/
def atAddress (port : UInt16) (deployment : DeploymentId) : Candidate where
  entity := .deployment deployment
  ports := [port]
  names := []

end Candidate

namespace Index

/-- The deployments that expose the endpoint. -/
def exposers (index : Index) (endpoint : Endpoint) : List Candidate :=
  (index.byEndpoint[endpoint]?.getD ∅).toList.map fun (deployment, targets) =>
    .exposing deployment targets

/-- The deployments that own the endpoint's address. -/
def addressOwners (index : Index) (endpoint : Endpoint) : List Candidate :=
  (index.byAddress[endpoint.address]?.getD ∅).toList.map (.atAddress endpoint.port)

/-- The deployments that may own the endpoint. -/
def lookup (index : Index) (endpoint : Endpoint) : List Candidate :=
  let exact := index.exposers endpoint
  if exact.isEmpty then index.addressOwners endpoint else exact

/-- The metadata of a container. -/
def metadata? (index : Index) (id : ContainerId) : Option Metadata :=
  index.byContainer[id]?.map Holding.metadata

end Index

end Attribution
