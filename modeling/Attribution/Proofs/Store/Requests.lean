import Attribution.Proofs.Store.LastReport

/-!
# Requests and what answers them

A request for a container is open from when it is made until an update reports the container;
nothing else closes it, and asking again while it is open makes no difference. The update that
closes it answers it, with the metadata that the container has when the whole update is merged:
a container that is reported in the update is never unknown after it. So for each request that an
update closes there is one record, whichever of its batches report the container and however
often it is taken over on the way.
-/

namespace Attribution

/-- Somebody asked for the container, and no update has reported it since. -/
def Awaited (actions : List Action) (id : ContainerId) : Prop :=
  ∃ before after, actions = before ++ .want id :: after ∧ Unreported (applications after) id

theorem not_awaited_nil {id : ContainerId} : ¬ Awaited [] id := by
  rintro ⟨before, after, split, -⟩
  exact List.cons_ne_nil _ _ (List.append_eq_nil_iff.1 split.symm).2

/-- A container is awaited since the first action or since a later one. -/
theorem awaited_cons {action : Action} {more : List Action} {id : ContainerId} :
    Awaited (action :: more) id ↔
      (action = .want id ∧ Unreported (applications more) id) ∨ Awaited more id := by
  constructor
  · rintro ⟨before, after, split, unreported⟩
    cases before with
    | nil =>
      cases split
      exact .inl ⟨rfl, unreported⟩
    | cons first before =>
      cases split
      exact .inr ⟨before, after, rfl, unreported⟩
  · rintro (⟨rfl, unreported⟩ | ⟨before, after, rfl, unreported⟩)
    · exact ⟨[], more, rfl, unreported⟩
    · exact ⟨action :: before, after, rfl, unreported⟩

namespace Update

/-- The update has a batch with the container among its keys. -/
def ReportsContainer (update : Update) (id : ContainerId) : Prop :=
  ∃ batch, update.batch = some batch ∧ id ∈ batch.containers

theorem reportsContainer_iff_metadata? {update : Update} {id : ContainerId} :
    update.ReportsContainer id ↔ ∃ metadata, update.metadata? id = some metadata := by
  rw [ReportsContainer, metadata?]
  cases update.batch with
  | none => simp
  | some batch =>
    rw [← Option.isSome_iff_exists, Option.bind_some, ← Std.ExtTreeMap.mem_iff_isSome_getElem?]
    simp

theorem metadata?_eq_none_iff {update : Update} {id : ContainerId} :
    update.metadata? id = none ↔ ¬ update.ReportsContainer id := by
  rw [reportsContainer_iff_metadata?, ← Option.isSome_iff_exists, Option.not_isSome_iff_eq_none]

theorem mem_containerIds {update : Update} {id : ContainerId} :
    id ∈ update.containerIds ↔ update.ReportsContainer id := by
  rw [containerIds, ReportsContainer]
  cases update.batch with
  | none => simp
  | some batch => simp [Batch.containerIds, Std.ExtTreeMap.mem_keys]

end Update

/-- Updates make something of the containers that they report, and of no others. -/
theorem isSome_lastHolding?_iff {updates : List Update} {id : ContainerId} :
    (lastHolding? id updates).isSome ↔ ∃ update ∈ updates, update.ReportsContainer id := by
  rw [Option.isSome_iff_ne_none, ne_eq, lastHolding?_eq_none_iff]
  simp only [Update.metadata?_eq_none_iff, Classical.not_forall, Classical.not_not, exists_prop]

namespace Pending

/-! ### One update -/

/-- The requests that are answered by reports of the given containers, each once, in the order of
the first reports. -/
def answered (pending : Pending) : List ContainerId → List ContainerId
  | [] => []
  | id :: more =>
    if id ∈ pending then id :: answered (pending.erase id) more else answered pending more

theorem mem_erase_iff {pending : Pending} {id other : ContainerId} :
    other ∈ pending.erase id ↔ other ∈ pending ∧ other ≠ id := by
  rw [Std.ExtTreeSet.mem_erase, and_comm, ne_eq, Std.LawfulEqOrd.compare_eq_iff_eq, ne_comm]

theorem mem_answered {pending : Pending} {ids : List ContainerId} {id : ContainerId} :
    id ∈ pending.answered ids ↔ id ∈ pending ∧ id ∈ ids := by
  induction ids generalizing pending with
  | nil => simp [answered]
  | cons first more ih =>
    rw [answered]
    by_cases same : id = first
    · subst same
      split <;> simp_all
    · split
      · simp only [List.mem_cons, ih, mem_erase_iff, same, false_or, ne_eq, not_false_eq_true,
          and_true]
      · simp only [List.mem_cons, ih, same, false_or]

theorem nodup_answered (pending : Pending) (ids : List ContainerId) :
    (pending.answered ids).Nodup := by
  induction ids generalizing pending with
  | nil => exact List.nodup_nil
  | cons first more ih =>
    rw [answered]
    split
    · refine List.nodup_cons.2 ⟨?_, ih (pending.erase first)⟩
      intro again
      exact (mem_erase_iff.1 (mem_answered.1 again).1).2 rfl
    · exact ih pending

/-- Where no reported container is unknown, every answered request gets its record. -/
theorem map_some_resolve {index : Index} {ids : List ContainerId}
    (known : ∀ id ∈ ids, ∃ metadata, index.metadata? id = some metadata) (pending : Pending) :
    (pending.resolve index ids).1.map some = (pending.answered ids).map index.metadata? := by
  induction ids generalizing pending with
  | nil => rfl
  | cons first more ih =>
    have later : ∀ id ∈ more, ∃ metadata, index.metadata? id = some metadata :=
      fun id there => known id (List.mem_cons_of_mem first there)
    rw [resolve, answered]
    split
    · obtain ⟨metadata, found⟩ := known first List.mem_cons_self
      simp only [found, Option.toList_some, List.singleton_append, List.map_cons, ih later]
    · exact ih later pending

end Pending

namespace Index

/-- What is reported in an update is known after it, whoever it belongs to then. -/
theorem exists_metadata?_mergeAll (index : Index) {updates : List Update} {id : ContainerId}
    (reported : ∃ update ∈ updates, update.ReportsContainer id) :
    ∃ metadata, (index.mergeAll updates).metadata? id = some metadata := by
  obtain ⟨holding, given⟩ := Option.isSome_iff_exists.1 (isSome_lastHolding?_iff.2 reported)
  refine ⟨holding.metadata, ?_⟩
  rw [metadata?, getElem?_byContainer_mergeAll, given]
  rfl

end Index

namespace Store

/-- The requests that an update answers. -/
def answered (store : Store) (updates : List Update) : List ContainerId :=
  store.pending.answered (updates.flatMap Update.containerIds)

/-- The records answer the requests: `ids` are the containers that were asked for and are reported,
each once, the records are what is known of them after the update, and exactly these requests are
closed. -/
structure Answers (store : Store) (updates : List Update) (after : Store)
    (ids : List ContainerId) (records : List Metadata) : Prop where
  once : ids.Nodup
  asked (id : ContainerId) :
    id ∈ ids ↔ id ∈ store.pending ∧ ∃ update ∈ updates, update.ReportsContainer id
  told : records.map some = ids.map after.metadata?
  closed (id : ContainerId) : id ∈ after.pending ↔ id ∈ store.pending ∧ id ∉ ids

theorem mem_flatMap_containerIds {updates : List Update} {id : ContainerId} :
    id ∈ updates.flatMap Update.containerIds ↔
      ∃ update ∈ updates, update.ReportsContainer id := by
  simp only [List.mem_flatMap, Update.mem_containerIds]

theorem mem_pending_apply {store : Store} {mode : Mode} {updates : List Update}
    {id : ContainerId} :
    id ∈ (store.apply mode updates).store.pending ↔
      id ∈ store.pending ∧ ¬ ∃ update ∈ updates, update.ReportsContainer id := by
  change id ∈ (store.pending.resolve _ (updates.flatMap Update.containerIds)).2 ↔ _
  rw [Pending.mem_resolve_snd, mem_flatMap_containerIds]

/-- What an update resolves answers the requests for what it reports. -/
theorem answers_apply (store : Store) (mode : Mode) (updates : List Update) :
    store.Answers updates (store.apply mode updates).store (store.answered updates)
      (store.apply mode updates).resolved where
  once := Pending.nodup_answered store.pending _
  asked id := by rw [answered, Pending.mem_answered, mem_flatMap_containerIds]
  told := by
    refine Pending.map_some_resolve ?_ store.pending
    intro id listed
    exact Index.exists_metadata?_mergeAll _ (mem_flatMap_containerIds.1 listed)
  closed id := by
    rw [mem_pending_apply, answered, Pending.mem_answered, mem_flatMap_containerIds]
    constructor
    · rintro ⟨open_request, unreported⟩
      exact ⟨open_request, fun closed => unreported closed.2⟩
    · rintro ⟨open_request, unanswered⟩
      exact ⟨open_request, fun reported => unanswered ⟨open_request, reported⟩⟩

/-! ### Runs -/

/-- What an action makes of a request. -/
theorem mem_pending_after {store : Store} {action : Action} {id : ContainerId} :
    id ∈ (store.after action).pending ↔
      action = .want id ∨ (id ∈ store.pending ∧ Unreported (applications [action]) id) := by
  cases action with
  | apply mode updates =>
    have only : Unreported (applications [.apply mode updates]) id ↔
        ¬ ∃ update ∈ updates, update.ReportsContainer id := by
      simp [applications, Action.application?, Unreported, Update.metadata?_eq_none_iff]
    rw [only]
    simpa [after] using mem_pending_apply
  | want other => simp [after, applications, Action.application?, Unreported]
  | _ => simp [after, applications, Action.application?, Unreported]

theorem unreported_applications_cons {action : Action} {more : List Action} {id : ContainerId} :
    Unreported (applications (action :: more)) id ↔
      Unreported (applications [action]) id ∧ Unreported (applications more) id := by
  rw [Unreported, Unreported, Unreported, ← List.forall_mem_append, applications, applications,
    applications, ← List.filterMap_append, List.singleton_append]

theorem mem_pending_afterAll {store : Store} {actions : List Action} {id : ContainerId} :
    id ∈ (store.afterAll actions).pending ↔
      Awaited actions id ∨ (id ∈ store.pending ∧ Unreported (applications actions) id) := by
  induction actions generalizing store with
  | nil => simp [afterAll, not_awaited_nil, applications, Unreported]
  | cons action more ih =>
    change id ∈ ((store.after action).afterAll more).pending ↔ _
    rw [ih, mem_pending_after, awaited_cons, @unreported_applications_cons action more,
      or_and_right, and_assoc, ← or_assoc, @or_comm (Awaited more id)]

/-- The requests that are open after actions are those for awaited containers. -/
theorem mem_pending_afterAll_empty {actions : List Action} {id : ContainerId} :
    id ∈ (empty.afterAll actions).pending ↔ Awaited actions id := by
  rw [mem_pending_afterAll]
  simp [empty]

end Store

/-- Once its container is reported a request is closed, until somebody asks again. -/
theorem not_awaited_of_reported {first later : List Action} {mode : Mode} {updates : List Update}
    {id : ContainerId} (reported : ∃ update ∈ updates, update.ReportsContainer id)
    (unasked : .want id ∉ later) : ¬ Awaited (first ++ .apply mode updates :: later) id := by
  induction first with
  | nil =>
    rw [List.nil_append, awaited_cons]
    rintro (⟨same, -⟩ | ⟨before, after, rfl, -⟩)
    · cases same
    · exact unasked (List.mem_append_right before List.mem_cons_self)
  | cons action more ih =>
    rw [List.cons_append, awaited_cons]
    rintro (⟨-, unreported⟩ | later_on)
    · obtain ⟨update, there, reports⟩ := reported
      have applied : ⟨mode, updates⟩ ∈ applications (more ++ .apply mode updates :: later) := by
        refine List.mem_filterMap.2 ⟨.apply mode updates, ?_, rfl⟩
        exact List.mem_append_right more List.mem_cons_self
      have silent : update.metadata? id = none := unreported ⟨mode, updates⟩ applied update there
      exact Update.metadata?_eq_none_iff.1 silent reports
    · exact ih later_on

end Attribution
