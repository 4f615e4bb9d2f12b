import Attribution.Identity

/-!
# Container metadata

What is told about a running container. It names a deployment and a container itself, but these
names are part of what is told: nothing here requires them to be those under which the container
is kept.
-/

namespace Attribution

/-- Describes a running container and the workload that owns it. -/
structure Metadata where
  deployment : DeploymentId
  pod : String
  containerName : String
  container : ContainerId
  deriving DecidableEq

instance : Inhabited Metadata := ⟨⟨default, "", "", default⟩⟩

end Attribution
