import Attribution.Proofs.Index.Unordered
import Attribution.Proofs.Store.Agreement
import Attribution.Proofs.Store.Requests

/-!
# The order of updates

The updates that are applied in one go have an order, and the last report on a container decides.
Where no two batches report the same container the order is of no consequence: not that of the
updates, and not the one in which the addresses, endpoints, targets and containers of a batch are
looked at, which a batch does not have by itself. `Reading` is a batch with such an order. The store
after an application is then the same, its purges are as many, and the same records are resolved,
though perhaps not in the same order.
-/

namespace Attribution

namespace Update

/-- Everything that the update reports, in the order in which its batch lists it. -/
def associations (update : Update) : List Association :=
  (update.batch.map Batch.associations).getD []

/-- The same, with the deployment that it is reported for. -/
def reports (update : Update) : List Report :=
  update.associations.map (update.deployment, ·)

theorem filterMap_container?_associations (update : Update) :
    update.associations.filterMap Association.container? = update.containerIds := by
  rw [associations, containerIds]
  cases update.batch with
  | none => rfl
  | some batch =>
    change batch.associations.filterMap Association.container? = batch.containers.keys
    simp [Batch.associations, List.filterMap_map, Function.comp_def, Association.container?,
      ← Std.ExtTreeMap.map_fst_toList_eq_keys]

end Update

/-- No container is a key of two batches; within a batch its keys are different anyway. -/
def Separate (updates : List Update) : Prop :=
  (updates.flatMap Update.containerIds).Nodup

instance (updates : List Update) : Decidable (Separate updates) :=
  inferInstanceAs (Decidable (List.Nodup _))

theorem Separate.exclusive {updates : List Update} (separate : Separate updates) :
    Exclusive (updates.flatMap Update.reports) := by
  have listed : (updates.flatMap Update.reports).filterMap (·.2.container?) =
      updates.flatMap Update.containerIds := by
    simp only [List.filterMap_flatMap, Update.reports, List.filterMap_map, Function.comp_def,
      Update.filterMap_container?_associations]
  rw [Separate, ← listed, List.Nodup, List.pairwise_filterMap] at separate
  exact separate.imp fun apart ⟨id, first, second⟩ => apart id first id second rfl

/-! ### Readings -/

/-- An update with an order in which all that its batch reports is looked at. -/
structure Reading where
  update : Update
  associations : List Association
  complete : associations.Perm update.associations

namespace Reading

/-- The order in which the batch lists its reports. -/
def listed (update : Update) : Reading :=
  ⟨update, update.associations, .refl _⟩

/-- The containers, in the order in which they are looked at. -/
def containerIds (reading : Reading) : List ContainerId :=
  reading.associations.filterMap Association.container?

/-- What is reported, in this order. -/
def reports (reading : Reading) : List Report :=
  reading.associations.map (reading.update.deployment, ·)

theorem map_update_listed (updates : List Update) :
    (updates.map listed).map Reading.update = updates := by
  rw [List.map_map]
  exact List.map_id updates

theorem containerIds_listed (update : Update) :
    (listed update).containerIds = update.containerIds :=
  update.filterMap_container?_associations

variable {updates : List Update} {readings : List Reading}

theorem reports_perm (same : (readings.map Reading.update).Perm updates) :
    (readings.flatMap Reading.reports).Perm (updates.flatMap Update.reports) := by
  have sorted : (readings.map Reading.update).flatMap Update.reports =
      readings.flatMap fun reading => reading.update.reports := List.flatMap_map ..
  refine List.Perm.trans ?_ (same.flatMap_right Update.reports)
  rw [sorted]
  exact .flatMap_left _ fun reading _ => reading.complete.map _

theorem mem_containerIds_iff (same : (readings.map Reading.update).Perm updates)
    (id : ContainerId) :
    id ∈ readings.flatMap Reading.containerIds ↔ id ∈ updates.flatMap Update.containerIds := by
  have read (reading : Reading) :
      id ∈ reading.containerIds ↔ id ∈ reading.update.containerIds := by
    rw [← Update.filterMap_container?_associations]
    exact (reading.complete.filterMap _).mem_iff
  rw [← (same.flatMap_right Update.containerIds).mem_iff, List.flatMap_map]
  simp only [List.mem_flatMap, read]

end Reading

namespace Index

variable {index : Index}

/-- Merges the batches of updates in turn, each in the order of its reading. -/
def mergeReadings (index : Index) (readings : List Reading) : Index :=
  readings.foldl (fun index reading =>
    index.mergeReports reading.update.deployment reading.associations) index

theorem mergeReadings_listed (index : Index) (updates : List Update) :
    index.mergeReadings (updates.map Reading.listed) = index.mergeAll updates := by
  have one (index : Index) (update : Update) :
      index.mergeReports update.deployment update.associations = index.mergeUpdate update := by
    rw [mergeUpdate, Update.associations]
    cases update.batch <;> rfl
  rw [mergeReadings, mergeAll, List.foldl_map]
  simp only [Reading.listed, one]

theorem mergeReadings_eq_associateEach (index : Index) (readings : List Reading) :
    index.mergeReadings readings = index.associateEach (readings.flatMap Reading.reports) := by
  simp only [mergeReadings, mergeReports_eq_associateAll, ← associateEach_map]
  exact List.foldl_flatMap.symm

/-- Where no container is in two batches, readings of the same updates lead to the same index. -/
theorem mergeReadings_perm (h : index.Consistent) {updates : List Update} {readings : List Reading}
    (separate : Separate updates) (same : (readings.map Reading.update).Perm updates) :
    index.mergeReadings readings = index.mergeAll updates := by
  have listed : ((updates.map Reading.listed).map Reading.update).Perm updates := by
    rw [Reading.map_update_listed]
  have reports := Reading.reports_perm same
  have in_order := Reading.reports_perm listed
  rw [← mergeReadings_listed, mergeReadings_eq_associateEach, mergeReadings_eq_associateEach,
    associateEach_perm h (separate.exclusive.perm reports.symm) (reports.trans in_order.symm)]

/-- What is left before the merges, and the number of purges, depend on the deployments alone. -/
theorem prepare_congr (h : index.Consistent) (mode : Mode) {updates others : List Update}
    (same : ∀ deployment,
      deployment ∈ updates.map Update.deployment ↔ deployment ∈ others.map Update.deployment) :
    index.prepare mode updates = index.prepare mode others := by
  cases mode with
  | incremental => rfl
  | replace => exact purgeAll_congr h same

end Index

namespace Pending

/-- The order of reports makes no difference to what is resolved but for its order. -/
theorem resolve_perm (pending : Pending) {index : Index} {ids others : List ContainerId}
    (same : ∀ id, id ∈ ids ↔ id ∈ others)
    (known : ∀ id ∈ ids, ∃ metadata, index.metadata? id = some metadata) :
    (pending.resolve index ids).1.Perm (pending.resolve index others).1 ∧
      (pending.resolve index ids).2 = (pending.resolve index others).2 := by
  have answered : (pending.answered ids).Perm (pending.answered others) := by
    rw [List.perm_ext_iff_of_nodup (nodup_answered pending ids) (nodup_answered pending others)]
    intro id
    rw [mem_answered, mem_answered, same]
  refine ⟨?_, ?_⟩
  · have records := answered.map index.metadata?
    rw [← map_some_resolve known, ← map_some_resolve fun id there => known id ((same id).2 there),
      List.map_perm_map_iff (Option.some_injective Metadata)] at records
    exact records
  · apply Std.ExtTreeSet.ext_mem
    intro id
    rw [mem_resolve_snd, mem_resolve_snd, same]

end Pending

/-- Two applications leave the same behind, apart from the order of the records. -/
structure Applied.Alike (one other : Applied) : Prop where
  store : one.store = other.store
  purged : one.purged = other.purged
  resolved : one.resolved.Perm other.resolved

namespace Store

/-- Applies updates, with everything in the order of the readings. -/
def applyReadings (store : Store) (mode : Mode) (readings : List Reading) : Applied :=
  let (prepared, purged) := store.index.prepare mode (readings.map Reading.update)
  let index := prepared.mergeReadings readings
  let (resolved, pending) := store.pending.resolve index (readings.flatMap Reading.containerIds)
  { store := { index, pending }, purged, resolved }

/-- The store itself looks at everything in the order in which the batches list it. -/
theorem applyReadings_listed (store : Store) (mode : Mode) (updates : List Update) :
    store.applyReadings mode (updates.map Reading.listed) = store.apply mode updates := by
  have ids : (updates.map Reading.listed).flatMap Reading.containerIds =
      updates.flatMap Update.containerIds := by
    simp only [List.flatMap_map, Reading.containerIds_listed]
  rw [applyReadings, apply, Reading.map_update_listed, ids]
  simp only [Index.mergeReadings_listed]

/-- The order in which updates are applied, and in which their batches are read, is of no
consequence. -/
def Unordered (store : Store) : Prop :=
  ∀ (mode : Mode) (updates : List Update) (readings : List Reading), Separate updates →
    (readings.map Reading.update).Perm updates →
      (store.applyReadings mode readings).Alike (store.apply mode updates)

theorem unordered {store : Store} (h : store.index.Consistent) : store.Unordered := by
  intro mode updates readings separate same
  have prepared := Index.prepare_congr h mode fun _ => (same.map Update.deployment).mem_iff
  have merged := Index.mergeReadings_perm (h.prepare mode updates) separate same
  have known : ∀ id ∈ readings.flatMap Reading.containerIds, ∃ metadata,
      ((store.index.prepare mode updates).1.mergeAll updates).metadata? id = some metadata := by
    intro id there
    rw [Reading.mem_containerIds_iff same, mem_flatMap_containerIds] at there
    exact Index.exists_metadata?_mergeAll _ there
  obtain ⟨resolved, pending⟩ :=
    store.pending.resolve_perm (Reading.mem_containerIds_iff same) known
  rw [applyReadings, apply, prepared]
  simp only [merged]
  exact ⟨congrArg (Store.mk _) pending, rfl, resolved⟩

end Store

namespace Service

/-- Whatever was done to a service, updates of which no two batches report the same container can be
applied to its store in any order, and their batches can be read in any order. The index and the
open requests are the same afterwards, as many deployments were purged, and the same records were
resolved, as many times each. -/
theorem unordered_follow (limits : Limits) (instrumented : Bool) :
    (∀ (store : Store) (mode : Mode) (updates : List Update),
      store.applyReadings mode (updates.map Reading.listed) = store.apply mode updates) ∧
    (∀ (schedule : List Event) (store : Store),
      ((fresh limits instrumented).follow schedule).store = some store → store.Unordered) ∧
    ∀ (actions : List Action) (store : Store),
      ((fresh limits instrumented).run actions).store = some store → store.Unordered := by
  refine ⟨Store.applyReadings_listed, fun schedule store there => ?_, fun actions store there => ?_⟩
  · exact Store.unordered (consistent_index_follow there)
  · exact Store.unordered (consistent_index_run there)

/-- Two deployments that own one container each take it from each other. Whoever comes first, the
other loses its own entry and gets it back; and one of them is named twice. -/
theorem unordered_follow_exchanged_containers :
    let owns (deployment id : String) : Update :=
      ⟨⟨deployment⟩, some (.ofReports
        [.address (.v4 (.of 10 0 0 5)), .container ⟨id⟩ ⟨⟨deployment⟩, "pod", "app", ⟨id⟩⟩])⟩
    let contains (deployment id : String) : Update :=
      ⟨⟨deployment⟩, some (.ofReports [.container ⟨id⟩ ⟨⟨deployment⟩, "pod", "app", ⟨id⟩⟩])⟩
    let actions : List Action :=
      [.apply .incremental [contains "a" "x", contains "b" "y"], .want ⟨"x"⟩, .want ⟨"y"⟩]
    let updates : List Update := [owns "a" "y", ⟨⟨"a"⟩, none⟩, contains "b" "x"]
    let readings : List Reading := updates.reverse.map fun update =>
      ⟨update, update.associations.reverse, List.reverse_perm _⟩
    ∃ store, ((fresh {} false).run actions).store = some store ∧ Separate updates ∧
      (readings.map Reading.update).Perm updates ∧
      (store.applyReadings .incremental readings).Alike (store.apply .incremental updates) := by
  intro owns contains actions updates readings
  have separate : Separate updates := by decide +kernel +revert
  have kept : .dropStore ∉ actions := by simp [actions]
  have present : ((fresh {} false).run actions).store = _ := store_run rfl kept
  have reversed : readings.map Reading.update = updates.reverse := by
    rw [List.map_map]
    exact List.map_id _
  have same : (readings.map Reading.update).Perm updates := by
    rw [reversed]
    exact List.reverse_perm updates
  exact ⟨_, present, separate, same,
    (unordered_follow {} false).2.2 actions _ present .incremental updates readings separate same⟩

end Service

end Attribution
