/-!
# Targets

How an endpoint maps onto a container's declared ports: the port behind it, and the name that
the container gives this port, if any. Targets are ordered by port; of two with the same port
the unnamed one comes first.
-/

namespace Attribution

/-- A container port that an endpoint maps onto. -/
structure Target where
  port : UInt16
  name : Option String
  deriving DecidableEq

namespace Target

instance : Inhabited Target := ⟨⟨0, none⟩⟩

instance : Ord Target := ⟨compareLex (compareOn port) (compareOn name)⟩

theorem compare_def (x y : Target) :
    compare x y = (compare x.port y.port).then (compare x.name y.name) := rfl

instance : Std.TransOrd Target :=
  inferInstanceAs (Std.TransCmp (compareLex (compareOn port) (compareOn name)))

instance : Std.LawfulEqOrd Target where
  eq_of_compare {a b} h := by
    cases a; cases b
    simp_all [compare_def, Ordering.then_eq_eq]

/-- The name, unless it is missing or empty: an empty name says nothing about the port. -/
def givenName? (target : Target) : Option String :=
  target.name.filter (· ≠ "")

end Target

end Attribution
