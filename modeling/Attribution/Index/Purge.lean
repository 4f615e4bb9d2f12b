import Attribution.Index

/-!
# Purging a deployment

Everything that a deployment owns is taken out of the forward maps, guided by the deployment's own
entry. A key that loses its last owner is taken out with it, so that an empty entry never lingers.
An address and an endpoint keep their owners in different collections; `Owners` is what a purge
needs of either.
-/

namespace Attribution

/-- A set that is not empty has a member. -/
theorem isEmpty_eq_false_iff_exists_mem {α : Type} [Ord α] [Std.TransOrd α]
    {set : Std.ExtTreeSet α} : set.isEmpty = false ↔ ∃ x, x ∈ set := by
  rw [Std.ExtTreeSet.isEmpty_eq_false_iff, Std.ExtTreeSet.eq_empty_iff_forall_not_mem,
    Classical.not_forall_not]

/-- A collection of deployments that own a key of a forward map. -/
class Owners (O : Type) [Membership DeploymentId O] where
  /-- The owners without one of them. -/
  remove : O → DeploymentId → O
  isEmpty : O → Bool
  mem_remove (owners : O) (deployment other : DeploymentId) :
    other ∈ remove owners deployment ↔ other ∈ owners ∧ other ≠ deployment
  remove_of_not_mem (owners : O) (deployment : DeploymentId) :
    deployment ∉ owners → remove owners deployment = owners
  isEmpty_eq_false_iff (owners : O) : isEmpty owners = false ↔ ∃ deployment, deployment ∈ owners

instance : Owners AddressOwners where
  remove owners deployment := owners.erase deployment
  isEmpty owners := owners.isEmpty
  mem_remove owners deployment other := by
    rw [Std.ExtTreeSet.mem_erase, and_comm, ne_eq, Std.LawfulEqOrd.compare_eq_iff_eq, ne_comm]
  remove_of_not_mem owners deployment h := by
    apply Std.ExtTreeSet.ext_mem
    intro other
    simp only [Std.ExtTreeSet.mem_erase, ne_eq, Std.LawfulEqOrd.compare_eq_iff_eq,
      and_iff_right_iff_imp]
    rintro present rfl
    exact h present
  isEmpty_eq_false_iff owners := isEmpty_eq_false_iff_exists_mem

instance : Owners EndpointOwners where
  remove owners deployment := owners.erase deployment
  isEmpty owners := owners.isEmpty
  mem_remove owners deployment other := by
    rw [Std.ExtTreeMap.mem_erase, and_comm, ne_eq, Std.LawfulEqOrd.compare_eq_iff_eq, ne_comm]
  remove_of_not_mem owners deployment h := by
    apply Std.ExtTreeMap.ext_getElem?
    intro other
    rw [Std.ExtTreeMap.getElem?_erase]
    by_cases same : deployment = other
    · subst same
      simp [Std.ExtTreeMap.getElem?_eq_none h]
    · simp [same]
  isEmpty_eq_false_iff owners := by
    rw [Std.ExtTreeMap.isEmpty_eq_false_iff, Std.ExtTreeMap.eq_empty_iff_forall_not_mem]
    simp

namespace Index

section Unlink

variable {K O : Type} [Ord K] [Std.TransOrd K] [Membership DeploymentId O] [Owners O]

/-- The owners of a key without the deployment; nothing once none is left. -/
def dropOwner (deployment : DeploymentId) (owners : O) : Option O :=
  if Owners.isEmpty (Owners.remove owners deployment) then none
  else some (Owners.remove owners deployment)

/-- Takes the deployment from the owners of the given keys. -/
def unlinkAll (map : Std.ExtTreeMap K O) (deployment : DeploymentId) (keys : List K) :
    Std.ExtTreeMap K O :=
  keys.foldl (fun map key => map.alter key fun owners => owners.bind (dropOwner deployment)) map

end Unlink

/-- Takes out the given containers. -/
def removeContainers (byContainer : Std.ExtTreeMap ContainerId Holding)
    (ids : List ContainerId) : Std.ExtTreeMap ContainerId Holding :=
  ids.foldl (fun map id => map.erase id) byContainer

/-- Whether a deployment has anything that purging it would take away. -/
def knows (index : Index) (deployment : DeploymentId) : Bool :=
  index.owned.contains deployment

/-- Takes out everything that a deployment owns. -/
def purge (index : Index) (deployment : DeploymentId) : Index :=
  match index.owned[deployment]? with
  | none => index
  | some owned =>
    { byAddress := unlinkAll index.byAddress deployment owned.addresses.toList
      byEndpoint := unlinkAll index.byEndpoint deployment owned.endpoints.toList
      byContainer := removeContainers index.byContainer owned.containers.toList
      owned := index.owned.erase deployment }

/-- Purges the deployments in turn, and counts those that had anything. A deployment that is named
twice has nothing left the second time. -/
def purgeAll (index : Index) : List DeploymentId → Index × Nat
  | [] => (index, 0)
  | deployment :: more =>
    let (final, purged) := purgeAll (index.purge deployment) more
    (final, if index.knows deployment then purged + 1 else purged)

/-! ### What a purge changes -/

section Unlink

variable {K O : Type} [DecidableEq K] [Ord K] [Std.TransOrd K] [Std.LawfulEqOrd K]
  [Membership DeploymentId O] [Owners O]

theorem dropOwner_eq_some_iff {deployment : DeploymentId} {owners left : O} :
    dropOwner deployment owners = some left ↔
      Owners.remove owners deployment = left ∧ Owners.isEmpty left = false := by
  rw [dropOwner]
  constructor
  · intro h
    split at h
    · cases h
    · cases h
      simp_all
  · rintro ⟨rfl, some_left⟩
    simp [some_left]

theorem dropOwner_of_not_mem {deployment : DeploymentId} {owners : O}
    (nonempty : Owners.isEmpty owners = false) (h : deployment ∉ owners) :
    dropOwner deployment owners = some owners :=
  dropOwner_eq_some_iff.2 ⟨Owners.remove_of_not_mem owners deployment h, nonempty⟩

theorem dropOwner_bind (deployment : DeploymentId) (owners : O) :
    (dropOwner deployment owners).bind (dropOwner deployment) = dropOwner deployment owners := by
  cases dropped : dropOwner deployment owners with
  | none => rfl
  | some left =>
    obtain ⟨rfl, nonempty⟩ := dropOwner_eq_some_iff.1 dropped
    have gone : deployment ∉ Owners.remove owners deployment := by
      simp [Owners.mem_remove]
    exact dropOwner_of_not_mem nonempty gone

/-- The listed keys lose the deployment as an owner, the others keep their owners. -/
theorem getElem?_unlinkAll {map : Std.ExtTreeMap K O} {deployment : DeploymentId} {keys : List K}
    {key : K} :
    (unlinkAll map deployment keys)[key]? =
      if key ∈ keys then map[key]?.bind (dropOwner deployment) else map[key]? := by
  induction keys generalizing map with
  | nil => simp [unlinkAll]
  | cons first more ih =>
    show (unlinkAll _ deployment more)[key]? = _
    rw [ih, Std.ExtTreeMap.getElem?_alter]
    by_cases h : first = key
    · subst h
      by_cases again : first ∈ more <;> simp [again, Option.bind_assoc, dropOwner_bind]
    · by_cases later : key ∈ more <;> simp [later, h, Ne.symm h]

/-- Of the owners of a key, all but the deployment are left. -/
theorem exists_mem_bind_dropOwner_iff {deployment other : DeploymentId} {owners? : Option O} :
    (∃ left, owners?.bind (dropOwner deployment) = some left ∧ other ∈ left) ↔
      (∃ owners, owners? = some owners ∧ other ∈ owners) ∧ other ≠ deployment := by
  constructor
  · rintro ⟨left, there, owner⟩
    obtain ⟨owners, before, dropped⟩ := Option.bind_eq_some_iff.1 there
    obtain ⟨rfl, -⟩ := dropOwner_eq_some_iff.1 dropped
    obtain ⟨owner, different⟩ := (Owners.mem_remove owners deployment other).1 owner
    exact ⟨⟨owners, before, owner⟩, different⟩
  · rintro ⟨⟨owners, rfl, owner⟩, different⟩
    have remains : other ∈ Owners.remove owners deployment :=
      (Owners.mem_remove owners deployment other).2 ⟨owner, different⟩
    refine ⟨Owners.remove owners deployment, ?_, remains⟩
    exact dropOwner_eq_some_iff.2 ⟨rfl, (Owners.isEmpty_eq_false_iff _).2 ⟨other, remains⟩⟩

end Unlink

/-- The listed containers are gone, the others stay. -/
theorem getElem?_removeContainers {byContainer : Std.ExtTreeMap ContainerId Holding}
    {ids : List ContainerId} {id : ContainerId} :
    (removeContainers byContainer ids)[id]? = if id ∈ ids then none else byContainer[id]? := by
  induction ids generalizing byContainer with
  | nil => simp [removeContainers]
  | cons first more ih =>
    show (removeContainers _ more)[id]? = _
    rw [ih, Std.ExtTreeMap.getElem?_erase]
    by_cases h : first = id
    · subst h
      simp
    · by_cases later : id ∈ more <;> simp [later, h, Ne.symm h]

/-- A purged deployment has no entry, and the entries of the others stay. -/
theorem getElem?_owned_purge (index : Index) (deployment other : DeploymentId) :
    (index.purge deployment).owned[other]? =
      if deployment = other then none else index.owned[other]? := by
  rw [purge]
  split
  · rename_i absent
    split
    · rename_i same
      subst same
      exact absent
    · rfl
  · simp [Std.ExtTreeMap.getElem?_erase]

end Index

end Attribution
