import Attribution.Proofs.Store.Reordering

/-!
# How much is reported in one go

What a producer has to report of a deployment it may collect in one batch, or hand over in pieces.
Both a batch and the index drop what is reported again: a batch keeps one metadata for a container
and each target once, the index merges what batches have in common and lets a container go with its
last report. The two agree, since a merge does the same to the index as the single reports that
built up the batch, one after the other; so it makes no difference where a sequence of reports is
cut.
-/

namespace Attribution

/-- Associations exclude each other if they are about the same container, whichever they are. -/
theorem Association.Excludes.trans {one other third : Association} (h : one.Excludes other)
    (h' : other.Excludes third) : one.Excludes third := by
  obtain ⟨id, first, second⟩ := h
  obtain ⟨same, second', last⟩ := h'
  cases second.symm.trans second'
  exact ⟨id, first, last⟩

namespace Batch

variable {batch : Batch} {association reported : Association}

/-- A report is added to a batch, and takes the place of what was reported of the same container. -/
theorem mem_associations_add :
    association ∈ (batch.add reported).associations ↔
      reported = association ∨
        (association ∈ batch.associations ∧ ¬ reported.Excludes association) := by
  cases association with
  | container id metadata =>
    rw [container_mem_associations, container_mem_associations]
    cases reported with
    | container another given =>
      by_cases same : another = id
      · simp [add, addContainer, Association.Excludes, Association.container?, same]
      · simp [add, addContainer, Association.Excludes, Association.container?,
          Std.ExtTreeMap.getElem?_insert, same, Ne.symm same]
    | _ => simp [add, addAddress, addEndpoint, Association.Excludes, Association.container?]
  | _ =>
    cases reported <;>
      simp [associations, add, addAddress, addEndpoint, addContainer, Association.Excludes,
        Association.container?]

/-- What a report takes out of a batch excludes no more than the report itself does. -/
theorem forall_not_excludes_add :
    (∀ another ∈ (batch.add reported).associations, ¬ another.Excludes association) ↔
      (∀ another ∈ batch.associations, ¬ another.Excludes association) ∧
        ¬ reported.Excludes association := by
  constructor
  · intro apart
    have first := apart reported (mem_associations_add.2 (.inl rfl))
    refine ⟨fun another there excludes => ?_, first⟩
    by_cases taken : reported.Excludes another
    · exact first (taken.trans excludes)
    · exact apart another (mem_associations_add.2 (.inr ⟨there, taken⟩)) excludes
  · rintro ⟨apart, first⟩ another listed
    rcases mem_associations_add.1 listed with rfl | ⟨there, -⟩
    · exact first
    · exact apart another there

theorem mem_containerIds_add {id : ContainerId} :
    id ∈ (batch.add reported).containerIds ↔
      reported.container? = some id ∨ id ∈ batch.containerIds := by
  cases reported <;>
    simp [containerIds, add, addAddress, addEndpoint, addContainer, Association.container?]

/-- The containers of a batch are those that it was told about. -/
theorem mem_containerIds_ofReports {reports : List Association} {id : ContainerId} :
    id ∈ (ofReports reports).containerIds ↔ id ∈ reports.filterMap Association.container? := by
  induction reports using List.reverseRecOn with
  | nil => simp [ofReports, empty, containerIds]
  | append_singleton reports last ih =>
    rw [ofReports_append, List.foldl_cons, List.foldl_nil, mem_containerIds_add, ih,
      List.filterMap_append, List.mem_append, or_comm]
    simp [List.mem_filterMap]

theorem exclusive_associations (batch : Batch) (deployment : DeploymentId) :
    Exclusive (batch.associations.map (deployment, ·)) := by
  have separate : Separate [⟨deployment, some batch⟩] := by
    rw [Separate, List.flatMap_singleton]
    exact batch.containers.nodup_keys
  simpa [Update.reports, Update.associations] using separate.exclusive

end Batch

namespace Index

variable {index : Index} {deployment other : DeploymentId} {association : Association}

/-- After a merge the index attributes what the batch reports, and what it attributed before unless
the batch reports something else of the same container. -/
theorem attributes_merge (batch : Batch) :
    (index.merge deployment batch).Attributes other association ↔
      (deployment = other ∧ association ∈ batch.associations) ∨
        (index.Attributes other association ∧
          ∀ reported ∈ batch.associations, ¬ reported.Excludes association) := by
  rw [merge_eq_associateAll, ← associateEach_map,
    attributes_associateEach (batch.exclusive_associations deployment)]
  have among : (other, association) ∈ batch.associations.map (deployment, ·) ↔
      deployment = other ∧ association ∈ batch.associations := by
    simp [and_comm]
  rw [among, List.forall_mem_map]

/-- To merge a batch with one more report is to merge the batch and enter the report. -/
theorem merge_add (h : index.Consistent) (batch : Batch) (reported : Association) :
    index.merge deployment (batch.add reported) =
      (index.merge deployment batch).associate deployment reported := by
  have merged := h.merge deployment batch
  refine (h.merge deployment (batch.add reported)).eq_of_attributes_iff
    (merged.associate deployment reported) fun other association => ?_
  rw [attributes_merge, attributes_associate_iff, attributes_merge, Batch.mem_associations_add,
    Batch.forall_not_excludes_add, Prod.mk.injEq, and_or_left, or_and_right, or_assoc, and_assoc,
    and_assoc]

/-- To merge a batch is to enter the reports that built it up, in their order. -/
theorem merge_ofReports (h : index.Consistent) (reports : List Association) :
    index.merge deployment (.ofReports reports) = index.associateAll deployment reports := by
  induction reports using List.reverseRecOn with
  | nil => exact merge_of_isEmpty Batch.isEmpty_empty index deployment
  | append_singleton reports last ih =>
    rw [Batch.ofReports_append, List.foldl_cons, List.foldl_nil, merge_add h, ih,
      associateAll_append]
    rfl

theorem mergeAll_append (index : Index) (first second : List Update) :
    index.mergeAll (first ++ second) = (index.mergeAll first).mergeAll second :=
  List.foldl_append

end Index

namespace Update

/-- The update with what was reported for a deployment. -/
def ofReports (deployment : DeploymentId) (reports : List Association) : Update :=
  ⟨deployment, some (.ofReports reports)⟩

theorem mem_containerIds_ofReports {deployment : DeploymentId} {reports : List Association}
    {id : ContainerId} :
    id ∈ (ofReports deployment reports).containerIds ↔
      id ∈ reports.filterMap Association.container? :=
  Batch.mem_containerIds_ofReports

/-- Pieces are about the same containers as the whole. -/
theorem mem_flatMap_containerIds_pieces {deployment : DeploymentId}
    {pieces : List (List Association)} {id : ContainerId} :
    id ∈ (pieces.map (ofReports deployment)).flatMap containerIds ↔
      id ∈ (ofReports deployment pieces.flatten).containerIds := by
  simp only [List.flatMap_map, List.mem_flatMap, mem_containerIds_ofReports,
    List.filterMap_flatten, List.mem_flatten, List.mem_map, exists_exists_and_eq_and]

end Update

namespace Index

variable {index : Index}

/-- Pieces that are merged in turn have the effect of the whole. -/
theorem mergeAll_pieces (h : index.Consistent) (deployment : DeploymentId)
    (pieces : List (List Association)) :
    index.mergeAll (pieces.map (.ofReports deployment)) =
      index.mergeUpdate (.ofReports deployment pieces.flatten) := by
  induction pieces generalizing index with
  | nil => exact (merge_of_isEmpty Batch.isEmpty_empty index deployment).symm
  | cons piece more ih =>
    have merged : (index.merge deployment (.ofReports piece)).Consistent := h.merge deployment _
    calc index.mergeAll ((piece :: more).map (.ofReports deployment))
      _ = (index.merge deployment (.ofReports piece)).merge deployment (.ofReports more.flatten) :=
        ih merged
      _ = (index.associateAll deployment piece).associateAll deployment more.flatten := by
        rw [merge_ofReports merged, merge_ofReports h]
      _ = index.merge deployment (.ofReports (piece :: more).flatten) := by
        rw [merge_ofReports h, List.flatten_cons, associateAll_append]

end Index

namespace Store

variable {store : Store}

/-- Applications of different updates are alike if they purge the same and merge to the same, and
report the same containers. -/
theorem alike_of_prepare_eq {mode : Mode} {updates others : List Update}
    (prepared : store.index.prepare mode updates = store.index.prepare mode others)
    (merged : (store.index.prepare mode others).1.mergeAll updates =
      (store.index.prepare mode others).1.mergeAll others)
    (reported : ∀ id,
      id ∈ updates.flatMap Update.containerIds ↔ id ∈ others.flatMap Update.containerIds) :
    (store.apply mode updates).Alike (store.apply mode others) := by
  have known : ∀ id ∈ updates.flatMap Update.containerIds, ∃ metadata,
      ((store.index.prepare mode others).1.mergeAll others).metadata? id = some metadata := by
    intro id there
    rw [reported, mem_flatMap_containerIds] at there
    exact Index.exists_metadata?_mergeAll _ there
  obtain ⟨resolved, pending⟩ := store.pending.resolve_perm reported known
  rw [apply, apply, prepared]
  simp only [merged]
  exact ⟨congrArg (Store.mk _) pending, rfl, resolved⟩

/-- Pieces can take the place of the whole anywhere among the updates that are applied in one go. -/
theorem alike_pieces (h : store.index.Consistent) (mode : Mode) (before after : List Update)
    (deployment : DeploymentId) (first : List Association) (more : List (List Association)) :
    (store.apply mode (before ++ (first :: more).map (.ofReports deployment) ++ after)).Alike
      (store.apply mode (before ++ .ofReports deployment (first :: more).flatten :: after)) := by
  have named (other : DeploymentId) :
      other ∈ ((first :: more).map (Update.ofReports deployment)).map Update.deployment ↔
        other = deployment := by
    simp only [Update.ofReports, List.map_map, List.mem_map, Function.comp_apply]
    constructor
    · rintro ⟨piece, -, rfl⟩
      rfl
    · rintro rfl
      exact ⟨first, List.mem_cons_self, rfl⟩
  refine alike_of_prepare_eq (Index.prepare_congr h mode fun other => ?_) ?_ fun id => ?_
  · rw [List.map_append, List.map_append, List.mem_append, List.mem_append, named, List.map_append,
      List.mem_append, List.map_cons, List.mem_cons, or_assoc]
    rfl
  · have merged := (h.prepare mode (before ++ .ofReports deployment (first :: more).flatten ::
      after)).mergeAll before
    rw [Index.mergeAll_append, Index.mergeAll_append, Index.mergeAll_pieces merged,
      Index.mergeAll_append]
    rfl
  · rw [List.flatMap_append, List.flatMap_append, List.mem_append, List.mem_append,
      Update.mem_flatMap_containerIds_pieces, List.flatMap_append, List.flatMap_cons,
      List.mem_append, List.mem_append, or_assoc]

theorem mem_pending_apply_ofReports {deployment : DeploymentId} {reports : List Association}
    {id : ContainerId} :
    id ∈ (store.apply .incremental [.ofReports deployment reports]).store.pending ↔
      id ∈ store.pending ∧ id ∉ reports.filterMap Association.container? := by
  rw [mem_pending_apply, ← mem_flatMap_containerIds, List.flatMap_singleton,
    Update.mem_containerIds_ofReports]

/-- Two pieces in turn have the effect of one. -/
theorem apply_apply_ofReports (h : store.index.Consistent) (deployment : DeploymentId)
    (first second : List Association) :
    ((store.apply .incremental [.ofReports deployment first]).store.apply .incremental
        [.ofReports deployment second]).store =
      (store.apply .incremental [.ofReports deployment (first ++ second)]).store := by
  have merged : (store.index.merge deployment (.ofReports first)).Consistent := h.merge deployment _
  have index : (store.index.merge deployment (.ofReports first)).merge deployment
      (.ofReports second) = store.index.merge deployment (.ofReports (first ++ second)) := by
    rw [Index.merge_ofReports merged, Index.merge_ofReports h, Index.merge_ofReports h,
      Index.associateAll_append]
  have pending (id : ContainerId) :
      id ∈ ((store.apply .incremental [.ofReports deployment first]).store.apply .incremental
          [.ofReports deployment second]).store.pending ↔
        id ∈ (store.apply .incremental
          [.ofReports deployment (first ++ second)]).store.pending := by
    rw [mem_pending_apply_ofReports, mem_pending_apply_ofReports, mem_pending_apply_ofReports,
      List.filterMap_append, List.mem_append, not_or, and_assoc]
  exact congrArg₂ Store.mk index (Std.ExtTreeSet.ext_mem pending)

/-- What is applied piece by piece has the effect of the whole. -/
theorem afterAll_pieces (h : store.index.Consistent) (deployment : DeploymentId)
    (first : List Association) (more : List (List Association)) :
    store.afterAll ((first :: more).map fun piece =>
        .apply .incremental [.ofReports deployment piece]) =
      (store.apply .incremental [.ofReports deployment (first :: more).flatten]).store := by
  induction more generalizing first with
  | nil =>
    rw [List.flatten_cons, List.flatten_nil, List.append_nil]
    rfl
  | cons second more ih =>
    have joined := ih (first ++ second)
    rw [List.flatten_cons, List.append_assoc] at joined
    rw [List.flatten_cons, List.flatten_cons, ← joined]
    exact congrArg (Store.afterAll · _) (apply_apply_ofReports h deployment first second)

end Store

namespace Service

/-- What is reported of a deployment can be cut into pieces. Applied one after the other the pieces
lead to the same store as the whole, whatever happens by itself in between; and they can take its
place among the updates of any application. -/
def Granular (service : Service) : Prop :=
  ∀ (deployment : DeploymentId) (first : List Association) (more : List (List Association)),
    let pieces := first :: more
    let report (reports : List Association) : Action :=
      .apply .incremental [.ofReports deployment reports]
    (∀ piecemeal whole : List Event,
      piecemeal.filterMap Event.action? = pieces.map report →
      whole.filterMap Event.action? = [report pieces.flatten] →
        (service.follow piecemeal).store = (service.follow whole).store) ∧
    ∀ store, service.store = some store → ∀ (mode : Mode) (before after : List Update),
      (store.apply mode (before ++ pieces.map (.ofReports deployment) ++ after)).Alike
        (store.apply mode (before ++ .ofReports deployment pieces.flatten :: after))

variable {service : Service}

theorem granular (consistent : ∀ store, service.store = some store → store.index.Consistent) :
    service.Granular := by
  intro deployment first more pieces report
  refine ⟨fun piecemeal whole acts act => ?_, fun store present mode before after => ?_⟩
  · cases present : service.store with
    | none => rw [store_follow_none present, store_follow_none present]
    | some store =>
      have kept : .action .dropStore ∉ piecemeal := by
        rw [← mem_filterMap_action?, acts]
        simp [report]
      have kept' : .action .dropStore ∉ whole := by
        rw [← mem_filterMap_action?, act]
        simp [report]
      rw [store_follow present kept, store_follow present kept', acts, act]
      exact congrArg some (Store.afterAll_pieces (consistent store present) deployment first more)
  · exact Store.alike_pieces (consistent store present) mode before after deployment first more

/-- Whatever was done to a service, it makes no difference how much of what is reported of a
deployment comes in one go. -/
theorem granular_follow (limits : Limits) (instrumented : Bool) :
    (∀ schedule : List Event, ((fresh limits instrumented).follow schedule).Granular) ∧
      ∀ actions : List Action, ((fresh limits instrumented).run actions).Granular :=
  ⟨fun _ => granular fun _ => consistent_index_follow,
    fun _ => granular fun _ => consistent_index_run⟩

/-- A container that belongs to another deployment is reported twice, with a target that is repeated
and a piece that is empty. In replace mode the other deployment takes the container back at the
end. -/
theorem granular_follow_repeated_container :
    let container (pod : String) : Association :=
      .container ⟨"c"⟩ ⟨⟨"a"⟩, pod, "app", ⟨"c"⟩⟩
    let exposure : Association := .exposure ⟨.tcp (.v4 (.of 10 0 0 5)) 80, ⟨8080, none⟩⟩
    let pieces : List (List Association) :=
      [[container "pod-0", exposure], [], [exposure, container "pod-1"]]
    let report (reports : List Association) : Action :=
      .apply .incremental [.ofReports ⟨"a"⟩ reports]
    let schedule : List Event :=
      [.action (.apply .incremental [.ofReports ⟨"b"⟩ [container "pod-2"]]), .action (.want ⟨"c"⟩)]
    let before : List Update := [⟨⟨"b"⟩, none⟩]
    let after : List Update := [.ofReports ⟨"b"⟩ [container "pod-3"]]
    let service := (fresh {} false).follow schedule
    (service.follow (pieces.map fun piece => .action (report piece))).store =
        (service.follow [.action (report pieces.flatten)]).store ∧
      ∃ store, service.store = some store ∧
        (store.apply .replace (before ++ pieces.map (.ofReports ⟨"a"⟩) ++ after)).Alike
          (store.apply .replace (before ++ .ofReports ⟨"a"⟩ pieces.flatten :: after)) := by
  intro container exposure pieces report schedule before after service
  have present : service.store = some _ := store_follow rfl (by simp [schedule])
  obtain ⟨successive, consecutive⟩ :=
    (granular_follow {} false).1 schedule ⟨"a"⟩ [container "pod-0", exposure]
      [[], [exposure, container "pod-1"]]
  exact ⟨successive _ _ rfl rfl, _, present, consecutive _ present .replace before after⟩

end Service

end Attribution
