import Attribution.Index.Relations

/-!
# Adding to the index

A batch is merged in two passes. First each association is entered in the map that leads to it
and in the deployment's own entry; a container that another deployment owned so far is noted, and
its former owner still lists it. When the whole batch is entered the former owners give up what
moved, and a former owner with nothing else loses its entry.

A container that moves always comes from another deployment, so a former owner's entry is not
looked at in between, and it makes no difference whether it gives the container up at once.
`associate` is one association with its former owner seen to at once, and `merge_eq_associateAll`
says that a merge is one of them after the other.
-/

namespace Attribution.Index

/-- The deployment as a further owner of an address. -/
def addAddressOwner (deployment : DeploymentId) (owners : Option AddressOwners) : AddressOwners :=
  (owners.getD ∅).insert deployment

/-- A further container port behind an endpoint of the deployment. -/
def addTarget (deployment : DeploymentId) (target : Target) (owners : Option EndpointOwners) :
    EndpointOwners :=
  (owners.getD ∅).alter deployment fun targets => some ((targets.getD ∅).insert target)

/-- Enters what an association ties to a deployment into the deployment's own entry. -/
def own (index : Index) (deployment : DeploymentId) (association : Association) : Index :=
  { index with
    owned := index.owned.alter deployment fun owned => some ((owned.getD .empty).add association) }

/-- Takes a container out of a deployment's own entry, and the entry away if it is left empty. -/
def disown (index : Index) (deployment : DeploymentId) (id : ContainerId) : Index :=
  { index with
    owned := index.owned.alter deployment fun owned =>
      owned.bind fun owned => (owned.removeContainer id).kept? }

/-- The deployment that a container moves away from when it is reported for `deployment`. -/
def formerOwner? (index : Index) (deployment : DeploymentId) (id : ContainerId) :
    Option DeploymentId :=
  (index.byContainer[id]?.map Holding.owner).filter (· ≠ deployment)

/-- Enters one association of a deployment in the map that leads to it and in the deployment's own
entry. The former owner of a container keeps it in its entry. -/
def enter (index : Index) (deployment : DeploymentId) : Association → Index
  | .address address =>
    { index.own deployment (.address address) with
      byAddress := index.byAddress.alter address fun owners =>
        some (addAddressOwner deployment owners) }
  | .exposure exposure =>
    { index.own deployment (.exposure exposure) with
      byEndpoint := index.byEndpoint.alter exposure.endpoint fun owners =>
        some (addTarget deployment exposure.target owners) }
  | .container id metadata =>
    { index.own deployment (.container id metadata) with
      byContainer := index.byContainer.insert id ⟨deployment, metadata⟩ }

/-- The container that moves to a deployment with an association, after its former owner. -/
def moved? (index : Index) (deployment : DeploymentId) :
    Association → Option (DeploymentId × ContainerId)
  | .container id _ => (index.formerOwner? deployment id).map fun former => (former, id)
  | _ => none

/-- Enters associations of a deployment in the order given, and lists the containers that move. -/
def enterAll (index : Index) (deployment : DeploymentId) :
    List Association → Index × List (DeploymentId × ContainerId)
  | [] => (index, [])
  | association :: more =>
    let (entered, moved) := (index.enter deployment association).enterAll deployment more
    (entered, (index.moved? deployment association).toList ++ moved)

/-- The former owners give up the containers that moved. -/
def disownAll (index : Index) (moved : List (DeploymentId × ContainerId)) : Index :=
  moved.foldl (fun index (former, id) => index.disown former id) index

/-- Merges a batch into what the deployment owns. -/
def merge (index : Index) (deployment : DeploymentId) (batch : Batch) : Index :=
  let (entered, moved) := index.enterAll deployment batch.associations
  entered.disownAll moved

/-- Adds one association of a deployment, and a former owner gives up at once. -/
def associate (index : Index) (deployment : DeploymentId) (association : Association) : Index :=
  (index.enter deployment association).disownAll (index.moved? deployment association).toList

/-- Adds several associations of a deployment, in the order given. -/
def associateAll (index : Index) (deployment : DeploymentId) (associations : List Association) :
    Index :=
  associations.foldl (fun index association => index.associate deployment association) index

@[simp] theorem moved?_container (index : Index) (deployment : DeploymentId) (id : ContainerId)
    (metadata : Metadata) :
    index.moved? deployment (.container id metadata) =
      (index.formerOwner? deployment id).map fun former => (former, id) := rfl

theorem associate_of_moved?_eq_none {index : Index} {deployment : DeploymentId}
    {association : Association} (h : index.moved? deployment association = none) :
    index.associate deployment association = index.enter deployment association := by
  simp [associate, h, disownAll]

theorem associate_of_moved?_eq_some {index : Index} {deployment former : DeploymentId}
    {id : ContainerId} {association : Association}
    (h : index.moved? deployment association = some (former, id)) :
    index.associate deployment association =
      (index.enter deployment association).disown former id := by
  simp [associate, h, disownAll]

@[simp] theorem associateAll_nil (index : Index) (deployment : DeploymentId) :
    index.associateAll deployment [] = index := rfl

@[simp] theorem associateAll_cons (index : Index) (deployment : DeploymentId)
    (association : Association) (more : List Association) :
    index.associateAll deployment (association :: more) =
      (index.associate deployment association).associateAll deployment more := rfl

theorem associateAll_append (index : Index) (deployment : DeploymentId)
    (first second : List Association) :
    index.associateAll deployment (first ++ second) =
      (index.associateAll deployment first).associateAll deployment second :=
  List.foldl_append

/-- A batch that reports nothing leaves the index as it is: no empty entry is made for it. -/
theorem merge_of_isEmpty {batch : Batch} (h : batch.isEmpty = true) (index : Index)
    (deployment : DeploymentId) : index.merge deployment batch = index := by
  simp [merge, Batch.associations_eq_nil_iff.2 h, enterAll, disownAll]

/-! ### Giving up at once or after the batch -/

theorem formerOwner?_ne {index : Index} {deployment former : DeploymentId} {id : ContainerId}
    (h : index.formerOwner? deployment id = some former) : former ≠ deployment := by
  simpa using (Option.filter_eq_some_iff.1 h).2

theorem moved?_ne {index : Index} {deployment former : DeploymentId} {id : ContainerId}
    {association : Association}
    (h : index.moved? deployment association = some (former, id)) : former ≠ deployment := by
  cases association with
  | container id metadata =>
    obtain ⟨owner, found, same⟩ := Option.map_eq_some_iff.1 h
    cases same
    exact formerOwner?_ne found
  | _ => cases h

/-- Changes of two deployments' own entries can be made in either order. -/
theorem alter_alter_comm {α β : Type} [Ord α] [Std.TransOrd α] [Std.LawfulEqOrd α]
    (map : Std.ExtTreeMap α β) {key other : α} (h : key ≠ other) (f g : Option β → Option β) :
    (map.alter key f).alter other g = (map.alter other g).alter key f := by
  apply Std.ExtTreeMap.ext_getElem?
  intro third
  by_cases second : other = third
  · subst second
    simp [Std.ExtTreeMap.getElem?_alter, h]
  · simp [Std.ExtTreeMap.getElem?_alter, second, Ne.symm h]

/-- What another deployment gives up does not concern an association that is entered. -/
theorem enter_disown {index : Index} {deployment former : DeploymentId} (h : former ≠ deployment)
    (id : ContainerId) (association : Association) :
    (index.disown former id).enter deployment association =
      (index.enter deployment association).disown former id := by
  cases association <;> simp [enter, own, disown, alter_alter_comm index.owned h]

@[simp] theorem moved?_disown (index : Index) (former deployment : DeploymentId)
    (id : ContainerId) (association : Association) :
    (index.disown former id).moved? deployment association =
      index.moved? deployment association := by
  cases association <;> rfl

theorem enterAll_disown {index : Index} {deployment former : DeploymentId}
    (h : former ≠ deployment) (id : ContainerId) (associations : List Association) :
    (index.disown former id).enterAll deployment associations =
      ((index.enterAll deployment associations).1.disown former id,
        (index.enterAll deployment associations).2) := by
  induction associations generalizing index with
  | nil => rfl
  | cons association more ih => simp only [enterAll, enter_disown h, ih, moved?_disown]

/-- Merges what is reported of a deployment, read in the order given. -/
def mergeReports (index : Index) (deployment : DeploymentId) (reports : List Association) : Index :=
  let (entered, moved) := index.enterAll deployment reports
  entered.disownAll moved

/-- A batch is read in the order in which its collections list what is in them. -/
theorem merge_eq_mergeReports (index : Index) (deployment : DeploymentId) (batch : Batch) :
    index.merge deployment batch = index.mergeReports deployment batch.associations := rfl

theorem mergeReports_eq_associateAll (index : Index) (deployment : DeploymentId)
    (reports : List Association) :
    index.mergeReports deployment reports = index.associateAll deployment reports := by
  rw [mergeReports]
  induction reports generalizing index with
  | nil => rfl
  | cons association more ih =>
    rw [associateAll_cons, ← ih]
    cases found : index.moved? deployment association with
    | none => simp [enterAll, associate_of_moved?_eq_none found, found]
    | some move =>
      obtain ⟨former, id⟩ := move
      have other : former ≠ deployment := moved?_ne found
      simp [enterAll, associate_of_moved?_eq_some found, found, enterAll_disown other, disownAll]

/-- A merge adds one association after the other. -/
theorem merge_eq_associateAll (index : Index) (deployment : DeploymentId) (batch : Batch) :
    index.merge deployment batch = index.associateAll deployment batch.associations := by
  rw [merge_eq_mergeReports, mergeReports_eq_associateAll]

/-! ### What an association changes -/

theorem getElem?_owned_own (index : Index) (deployment other : DeploymentId)
    (association : Association) :
    (index.own deployment association).owned[other]? =
      if deployment = other then some ((index.ownedBy deployment).add association)
      else index.owned[other]? := by
  simp [own, ownedBy, Std.ExtTreeMap.getElem?_alter]

/-- Only the deployment's own entry changes. -/
theorem ownedBy_own (index : Index) (deployment other : DeploymentId)
    (association : Association) :
    (index.own deployment association).ownedBy other =
      if deployment = other then (index.ownedBy other).add association
      else index.ownedBy other := by
  by_cases h : deployment = other
  · subst h
    simp [ownedBy, getElem?_owned_own]
  · simp [ownedBy, getElem?_owned_own, h]

@[simp] theorem byAddress_disownAll (index : Index) (moved : List (DeploymentId × ContainerId)) :
    (index.disownAll moved).byAddress = index.byAddress := by
  induction moved generalizing index with
  | nil => rfl
  | cons move more ih => exact ih (index.disown move.1 move.2)

@[simp] theorem byEndpoint_disownAll (index : Index) (moved : List (DeploymentId × ContainerId)) :
    (index.disownAll moved).byEndpoint = index.byEndpoint := by
  induction moved generalizing index with
  | nil => rfl
  | cons move more ih => exact ih (index.disown move.1 move.2)

@[simp] theorem byContainer_disownAll (index : Index) (moved : List (DeploymentId × ContainerId)) :
    (index.disownAll moved).byContainer = index.byContainer := by
  induction moved generalizing index with
  | nil => rfl
  | cons move more ih => exact ih (index.disown move.1 move.2)

@[simp] theorem byAddress_associate (index : Index) (deployment : DeploymentId)
    (association : Association) :
    (index.associate deployment association).byAddress =
      match association with
      | .address address =>
        index.byAddress.alter address fun owners => some (addAddressOwner deployment owners)
      | _ => index.byAddress := by
  cases association <;> simp [associate, enter, own]

@[simp] theorem byEndpoint_associate (index : Index) (deployment : DeploymentId)
    (association : Association) :
    (index.associate deployment association).byEndpoint =
      match association with
      | .exposure exposure =>
        index.byEndpoint.alter exposure.endpoint fun owners =>
          some (addTarget deployment exposure.target owners)
      | _ => index.byEndpoint := by
  cases association <;> simp [associate, enter, own]

@[simp] theorem byContainer_associate (index : Index) (deployment : DeploymentId)
    (association : Association) :
    (index.associate deployment association).byContainer =
      match association with
      | .container id metadata => index.byContainer.insert id ⟨deployment, metadata⟩
      | _ => index.byContainer := by
  cases association <;> simp [associate, enter, own]

/-- An address gains an owner, and no other ownership of an address changes. -/
theorem ownsAddress_associate_address {index : Index} {deployment other : DeploymentId}
    {address another : Address} :
    (index.associate deployment (.address address)).OwnsAddress other another ↔
      index.OwnsAddress other another ∨ (deployment = other ∧ address = another) := by
  rw [OwnsAddress, OwnsAddress]
  by_cases h : address = another
  · subst h
    cases there : index.byAddress[address]? <;>
      simp [addAddressOwner, there, Std.ExtTreeSet.mem_insert]
    exact or_comm
  · simp [Std.ExtTreeMap.getElem?_alter, h]

/-- An endpoint gains a target, and no other exposure changes. -/
theorem exposesTarget_associate_exposure {index : Index} {deployment other : DeploymentId}
    {exposure : Exposure} {endpoint : Endpoint} {target : Target} :
    (index.associate deployment (.exposure exposure)).ExposesTarget other endpoint target ↔
      index.ExposesTarget other endpoint target ∨
        (deployment = other ∧ exposure = ⟨endpoint, target⟩) := by
  rw [ExposesTarget, ExposesTarget]
  obtain ⟨exposed, behind⟩ := exposure
  by_cases h : exposed = endpoint
  · subst h
    cases there : index.byEndpoint[exposed]? with
    | none =>
      by_cases same : deployment = other <;>
        simp [addTarget, there, same, Std.ExtTreeMap.getElem?_alter,
          Std.ExtTreeSet.mem_insert]
    | some owners =>
      by_cases same : deployment = other
      · subst same
        cases among : owners[deployment]? <;>
          simp [addTarget, there, among, Std.ExtTreeSet.mem_insert]
        exact or_comm
      · simp [addTarget, there, same, Std.ExtTreeMap.getElem?_alter]
  · simp [Std.ExtTreeMap.getElem?_alter, h]

/-- A container that is reported has the given owner and metadata, and no other container changes.
-/
theorem getElem?_byContainer_associate (index : Index) (deployment : DeploymentId)
    (id other : ContainerId) (metadata : Metadata) :
    (index.associate deployment (.container id metadata)).byContainer[other]? =
      if id = other then some ⟨deployment, metadata⟩ else index.byContainer[other]? := by
  simp [Std.ExtTreeMap.getElem?_insert]

end Attribution.Index
