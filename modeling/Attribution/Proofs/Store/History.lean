import Attribution.Proofs.Index.Attributes
import Attribution.Service

/-!
# Runs and the history of a store

What a store holds is decided by the updates that were applied to it, in order; nothing else that
is done with a service touches the index. `afterAll` is the store after actions by itself, without
delivery, channels or counters, and `store_run` says that a run of the service has this store as
long as nobody drops it. `replay` is its index after a history of updates.
-/

namespace Attribution

/-- What is applied to a store in one go. -/
structure Application where
  mode : Mode
  updates : List Update

/-- All that was ever applied to a store, the oldest first. -/
abbrev History := List Application

namespace Application

/-- One of the updates has a batch for the deployment that reports the association. -/
def Reports (application : Application) (deployment : DeploymentId) (association : Association) :
    Prop :=
  ∃ update ∈ application.updates, update.Reports deployment association

/-- The deployment is named in replace mode, so that what it owned is discarded. -/
def Replaces (application : Application) (deployment : DeploymentId) : Prop :=
  application.mode = .replace ∧ deployment ∈ application.updates.map Update.deployment

instance (application : Application) (deployment : DeploymentId) :
    Decidable (application.Replaces deployment) :=
  inferInstanceAs (Decidable (_ ∧ _))

end Application

/-- The application that an action is, if it is one. -/
def Action.application? : Action → Option Application
  | .apply mode updates => some ⟨mode, updates⟩
  | _ => none

/-- What is applied in the course of actions. -/
def applications (actions : List Action) : History :=
  actions.filterMap Action.application?

namespace Index

/-- The index after an application. -/
def applied (index : Index) (application : Application) : Index :=
  (index.prepare application.mode application.updates).1.mergeAll application.updates

/-- The index after a history. -/
def replay (index : Index) (history : History) : Index :=
  history.foldl applied index

@[simp] theorem replay_nil (index : Index) : index.replay [] = index := rfl

@[simp] theorem replay_cons (index : Index) (application : Application) (more : History) :
    index.replay (application :: more) = (index.applied application).replay more := rfl

theorem replay_append (index : Index) (first second : History) :
    index.replay (first ++ second) = (index.replay first).replay second :=
  List.foldl_append

namespace Consistent

variable {index : Index}

theorem mergeUpdate (h : index.Consistent) (update : Update) :
    (index.mergeUpdate update).Consistent := by
  rw [Index.mergeUpdate]
  cases update.batch with
  | none => exact h
  | some batch => exact h.merge update.deployment batch

theorem mergeAll (h : index.Consistent) (updates : List Update) :
    (index.mergeAll updates).Consistent := by
  induction updates generalizing index with
  | nil => exact h
  | cons update more ih => exact ih (h.mergeUpdate update)

theorem prepare (h : index.Consistent) (mode : Mode) (updates : List Update) :
    (index.prepare mode updates).1.Consistent := by
  cases mode with
  | incremental => exact h
  | replace => exact h.purgeAll (updates.map Update.deployment)

theorem applied (h : index.Consistent) (application : Application) :
    (index.applied application).Consistent :=
  (h.prepare application.mode application.updates).mergeAll application.updates

/-- Whatever is applied to it, a consistent index stays consistent. -/
theorem replay (h : index.Consistent) (history : History) : (index.replay history).Consistent := by
  induction history generalizing index with
  | nil => exact h
  | cons application more ih => exact ih (h.applied application)

end Consistent

end Index

namespace Store

/-- The store after an action that is not its end. -/
def after (store : Store) : Action → Store
  | .apply mode updates => (store.apply mode updates).store
  | .want id => store.want id
  | _ => store

/-- The store after actions. -/
def afterAll (store : Store) (actions : List Action) : Store :=
  actions.foldl after store

theorem index_after (store : Store) (action : Action) :
    (store.after action).index = store.index.replay action.application?.toList := by
  cases action <;> rfl

theorem index_afterAll (store : Store) (actions : List Action) :
    (store.afterAll actions).index = store.index.replay (applications actions) := by
  induction actions generalizing store with
  | nil => rfl
  | cons action more ih =>
    change ((store.after action).afterAll more).index = _
    rw [ih, index_after, ← Index.replay_append, applications, applications, List.filterMap_cons]
    cases action.application? <;> rfl

end Store

namespace Service

/-- An action changes the store by what it is to the store, whatever else there is. A store that was
dropped does not come back. -/
theorem store_perform (service : Service) {action : Action} (kept : action ≠ .dropStore) :
    (service.perform action).service.store = service.store.map (Store.after · action) := by
  -- apart from updates and requests every action leaves the store as it is
  have same : service.store = service.store.map fun store => store := Option.map_id'.symm
  cases action with
  | apply mode updates =>
    cases present : service.store <;>
      simp [perform, withStore, present, refuse, answering, applyUpdates, Store.after]
  | want id =>
    cases present : service.store <;>
      simp [perform, withStore, present, refuse, answering, Store.after]
  | register channel capacity =>
    simp only [perform, withStore, register]
    split
    · split
      · exact same
      · split
        · exact same
        · exact same
        · split <;> exact same
    · exact same
  | close channel =>
    simp only [perform, withChannel]
    split <;> exact same
  | drain channel limit =>
    simp only [perform, withChannel, drain]
    split
    · split <;> exact same
    · exact same
  | startDelivery =>
    simp only [perform]
    split <;> exact same
  | dropStore => exact absurd rfl kept
  | request method target =>
    simp only [perform, respond, withMetrics]
    split
    · exact same
    · split <;> exact same
  | metrics =>
    simp only [perform, withMetrics]
    split <;> exact same
  | samples =>
    simp only [perform, withMetrics]
    split <;> exact same
  | lookup endpoint =>
    simp only [perform, withStore]
    split <;> exact same
  | container id =>
    simp only [perform, withStore]
    split <;> exact same
  | unregister =>
    simp only [perform, withStore]
    split <;> exact same
  | stopDelivery => exact same
  | completion => exact same
  | sleep duration => exact same
  | setReady value => exact same

theorem store_step {service : Service} {store : Store} (present : service.store = some store)
    {action : Action} (kept : action ≠ .dropStore) :
    (service.step action).service.store = some (store.after action) := by
  change (service.perform action).service.store = _
  rw [store_perform service kept, present]
  rfl

theorem store_run {service : Service} {store : Store} (present : service.store = some store)
    {actions : List Action} (kept : .dropStore ∉ actions) :
    (service.run actions).store = some (store.afterAll actions) := by
  induction actions generalizing service store with
  | nil => exact present
  | cons action more ih =>
    obtain ⟨first, later⟩ := not_or.1 (mt List.mem_cons.2 kept)
    exact ih (store_step present (Ne.symm first)) later

end Service

end Attribution
