import Attribution.Text.Padding

/-!
# Identifiers

Deployments and containers are known by opaque identifiers: any text, never checked against
anything. Two identifiers are equal exactly when their texts are, and they are ordered as their
texts are, by Unicode scalars. An entity is what traffic is attributed to; the only kind there
is so far is a deployment.
-/

namespace Attribution

open Attribution.Text

/-- Identifies a deployment. -/
structure DeploymentId where
  text : String
  deriving DecidableEq

/-- Identifies a container, as its runtime reports it. -/
structure ContainerId where
  text : String
  deriving DecidableEq

/-- A network entity that traffic may be attributed to. -/
inductive Entity where
  | deployment (id : DeploymentId)
  deriving DecidableEq

namespace DeploymentId

instance : Inhabited DeploymentId := ⟨⟨""⟩⟩

instance : Ord DeploymentId := ⟨compareOn text⟩

theorem compare_def (x y : DeploymentId) : compare x y = compare x.text y.text := rfl

instance : Std.TransOrd DeploymentId := inferInstanceAs (Std.TransCmp (compareOn text))

instance : Std.LawfulEqOrd DeploymentId where
  eq_of_compare {a b} h := by
    cases a; cases b
    simp_all [compare_def]

/-- The identifier fitted into a field. -/
def format (field : Field) (id : DeploymentId) : String :=
  String.ofList (field.fit id.text.toList)

end DeploymentId

namespace ContainerId

instance : Inhabited ContainerId := ⟨⟨""⟩⟩

instance : Ord ContainerId := ⟨compareOn text⟩

theorem compare_def (x y : ContainerId) : compare x y = compare x.text y.text := rfl

instance : Std.TransOrd ContainerId := inferInstanceAs (Std.TransCmp (compareOn text))

instance : Std.LawfulEqOrd ContainerId where
  eq_of_compare {a b} h := by
    cases a; cases b
    simp_all [compare_def]

/-- The identifier fitted into a field. -/
def format (field : Field) (id : ContainerId) : String :=
  String.ofList (field.fit id.text.toList)

end ContainerId

namespace Entity

/-- The deployment behind an entity. -/
def deploymentId : Entity → DeploymentId
  | deployment id => id

instance : Ord Entity := ⟨compareOn deploymentId⟩

theorem compare_def (x y : Entity) : compare x y = compare x.deploymentId y.deploymentId := rfl

instance : Std.TransOrd Entity := inferInstanceAs (Std.TransCmp (compareOn deploymentId))

instance : Std.LawfulEqOrd Entity where
  eq_of_compare {a b} h := by
    cases a; cases b
    simp_all [compare_def, deploymentId]

end Entity

end Attribution
