import Attribution.Proofs.Index.Extensionality
import Attribution.Proofs.Store.Agreement

/-!
# What a replacement leaves behind

An update in replace mode first takes away everything that the named deployments own: from keys
that they share with others no more than their own part, and keys of their own altogether. So two
stores that attribute the same to all other deployments have the same index after it, whatever the
named deployments owned in either of them. If anything of theirs were left it would show as a
difference.
-/

namespace Attribution

namespace Index

variable {one other : Index} {named : List DeploymentId}

/-- The indices attribute the same to every deployment that is not named. What they attribute to the
named ones may differ. -/
def AgreesOutside (named : List DeploymentId) (one other : Index) : Prop :=
  ∀ deployment, deployment ∉ named → ∀ association,
    one.Attributes deployment association ↔ other.Attributes deployment association

/-- A purge makes consistent indices the same exactly if they differ in nothing but what the purged
deployments own. -/
theorem purgeAll_eq_iff (h : one.Consistent) (h' : other.Consistent) :
    (one.purgeAll named).1 = (other.purgeAll named).1 ↔ AgreesOutside named one other := by
  constructor
  · intro same deployment unnamed association
    have purged : (one.purgeAll named).1.Attributes deployment association ↔
        (other.purgeAll named).1.Attributes deployment association := by rw [same]
    rwa [attributes_purgeAll h, attributes_purgeAll h', and_iff_left unnamed,
      and_iff_left unnamed] at purged
  · intro agree
    refine (h.purgeAll named).eq_of_attributes_iff (h'.purgeAll named) ?_
    intro deployment association
    rw [attributes_purgeAll h, attributes_purgeAll h']
    exact and_congr_left fun unnamed => agree deployment unnamed association

/-- An application in replace mode does not depend on what the deployments that it names owned. -/
theorem applied_replace_eq (h : one.Consistent) (h' : other.Consistent) {updates : List Update}
    (agree : AgreesOutside (updates.map Update.deployment) one other) :
    one.applied ⟨.replace, updates⟩ = other.applied ⟨.replace, updates⟩ :=
  congrArg (mergeAll · updates) ((purgeAll_eq_iff h h').2 agree)

end Index

namespace Store

/-- A store that a service can have, whatever was done to the service and whatever happened by
itself. -/
def Reachable (store : Store) : Prop :=
  ∃ limits instrumented schedule,
    ((Service.fresh limits instrumented).follow schedule).store = some store

theorem Reachable.consistent {store : Store} (h : store.Reachable) : store.index.Consistent := by
  obtain ⟨limits, instrumented, schedule, there⟩ := h
  exact Service.consistent_index_follow there

theorem reachable_of_run {limits : Limits} {instrumented : Bool} {actions : List Action}
    {store : Store} (there : ((Service.fresh limits instrumented).run actions).store = some store) :
    store.Reachable := by
  obtain ⟨schedule, -, same⟩ := Service.exists_schedule (.fresh limits instrumented) actions
  exact ⟨limits, instrumented, schedule, same ▸ there⟩

/-- An update in replace mode leaves no residue: of any two stores that services can have, and that
attribute the same to all deployments but those that the update names, it makes stores with the
same index. -/
theorem index_apply_replace_eq {one other : Store} (h : one.Reachable) (h' : other.Reachable)
    {updates : List Update}
    (agree : one.index.AgreesOutside (updates.map Update.deployment) other.index) :
    (one.apply .replace updates).store.index = (other.apply .replace updates).store.index :=
  Index.applied_replace_eq h.consistent h'.consistent agree

/-- A deployment that shares an address and an endpoint with a stranger is replaced, and another one
is removed. In one of the stores the container belongs to the former, in the other to the latter. -/
theorem index_apply_replace_eq_shared_endpoint :
    let address : Association := .address (.v4 (.of 10 0 0 5))
    let exposure (port : UInt16) : Association :=
      .exposure ⟨.tcp (.v4 (.of 10 0 0 5)) 80, ⟨port, none⟩⟩
    let container : Association := .container ⟨"x"⟩ ⟨⟨"a"⟩, "pod", "app", ⟨"x"⟩⟩
    let stranger : Update := ⟨⟨"b"⟩, some (.ofReports [address, exposure 8081])⟩
    let first : List Action := [.apply .incremental
      [⟨⟨"a"⟩, some (.ofReports [address, exposure 8080, container])⟩, stranger]]
    let second : List Action := [.apply .incremental
      [stranger, ⟨⟨"c"⟩, some (.ofReports [container])⟩]]
    let one := Store.empty.afterAll first
    let other := Store.empty.afterAll second
    let updates : List Update := [⟨⟨"a"⟩, some (.ofReports [address])⟩, ⟨⟨"c"⟩, none⟩]
    one.Reachable ∧ other.Reachable ∧
      one.index.AgreesOutside (updates.map Update.deployment) other.index ∧
      (one.apply .replace updates).store.index = (other.apply .replace updates).store.index := by
  intro address exposure container stranger first second one other updates
  have purged : (one.index.purgeAll (updates.map Update.deployment)).1 =
      (other.index.purgeAll (updates.map Update.deployment)).1 := by
    decide +kernel +revert
  have present : ((Service.fresh {} false).run first).store = some one :=
    Service.store_run rfl (by simp [first])
  have present' : ((Service.fresh {} false).run second).store = some other :=
    Service.store_run rfl (by simp [second])
  have reachable := reachable_of_run present
  have reachable' := reachable_of_run present'
  have agree : one.index.AgreesOutside (updates.map Update.deployment) other.index :=
    (Index.purgeAll_eq_iff reachable.consistent reachable'.consistent).1 purged
  exact ⟨reachable, reachable', agree, index_apply_replace_eq reachable reachable' agree⟩

end Store

end Attribution
