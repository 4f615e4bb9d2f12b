import Attribution.Proofs.Store.History

/-!
# Containers belong to their last report

A container is with the deployment whose batch reported it last, until that deployment is replaced.
No former owner matters: when a container moves, its former owner gives it up, and a purge of the
former owner cannot take it away any more.
-/

namespace Attribution

/-- No update of the history reports the container. -/
def Unreported (history : History) (id : ContainerId) : Prop :=
  ∀ application ∈ history, ∀ update ∈ application.updates, update.metadata? id = none

/-- The last report of a container in a history is made for the deployment, with the metadata, and
`after` is what was applied later. Within one application the last update that reports the
container counts. -/
def LastReport (history : History) (id : ContainerId) (deployment : DeploymentId)
    (metadata : Metadata) (after : History) : Prop :=
  ∃ before mode earlier update later,
    history = before ++ ⟨mode, earlier ++ update :: later⟩ :: after ∧
      update.deployment = deployment ∧ update.metadata? id = some metadata ∧
      (∀ another ∈ later, another.metadata? id = none) ∧ Unreported after id

theorem unreported_cons {application : Application} {more : History} {id : ContainerId} :
    Unreported (application :: more) id ↔
      (∀ update ∈ application.updates, update.metadata? id = none) ∧ Unreported more id :=
  List.forall_mem_cons

/-- Among updates that do not all leave a container alone, one is the last to report it. -/
theorem unreported_or_exists_last (updates : List Update) (id : ContainerId) :
    (∀ update ∈ updates, update.metadata? id = none) ∨
      ∃ earlier update later metadata, updates = earlier ++ update :: later ∧
        update.metadata? id = some metadata ∧
        ∀ another ∈ later, another.metadata? id = none := by
  induction updates with
  | nil => exact .inl fun _ absent => absurd absent List.not_mem_nil
  | cons update more ih =>
    rcases ih with unreported | ⟨earlier, last, later, metadata, rfl, reported, silent⟩
    · cases reported : update.metadata? id with
      | none => exact .inl (List.forall_mem_cons.2 ⟨reported, unreported⟩)
      | some metadata => exact .inr ⟨[], update, more, metadata, rfl, reported, unreported⟩
    · exact .inr ⟨update :: earlier, last, later, metadata, rfl, reported, silent⟩

/-- A container that is reported at all has a last report. -/
theorem unreported_or_exists_lastReport (history : History) (id : ContainerId) :
    Unreported history id ∨
      ∃ deployment metadata after, LastReport history id deployment metadata after := by
  induction history with
  | nil => exact .inl fun _ absent => absurd absent List.not_mem_nil
  | cons application more ih =>
    rcases ih with unreported | ⟨deployment, metadata, after, before, mode, earlier, update, later,
      rfl, same, reported, silent, last⟩
    · obtain ⟨mode, updates⟩ := application
      rcases unreported_or_exists_last updates id with
        silent | ⟨earlier, update, later, metadata, rfl, reported, silent⟩
      · exact .inl (unreported_cons.2 ⟨silent, unreported⟩)
      · exact .inr ⟨update.deployment, metadata, more, [], mode, earlier, update, later, rfl, rfl,
          reported, silent, unreported⟩
    · exact .inr ⟨deployment, metadata, after, application :: before, mode, earlier, update, later,
        rfl, same, reported, silent, last⟩

namespace Index

variable {index : Index} {id : ContainerId}

/-- A container has what the application makes of it, and what it had before only if its owner is
not replaced. -/
theorem getElem?_byContainer_applied (h : index.Consistent) (application : Application)
    (id : ContainerId) :
    (index.applied application).byContainer[id]? =
      (lastHolding? id application.updates).or
        (index.byContainer[id]?.filter fun holding => ¬ application.Replaces holding.owner) := by
  obtain ⟨mode, updates⟩ := application
  rw [applied, getElem?_byContainer_mergeAll]
  refine congrArg _ ?_
  cases mode with
  | incremental =>
    cases there : index.byContainer[id]? <;>
      simp [prepare, Application.Replaces, there, Option.filter]
  | replace =>
    change (index.purgeAll (updates.map Update.deployment)).1.byContainer[id]? = _
    rw [getElem?_byContainer_purgeAll h]
    simp [Application.Replaces]

/-- What does not report a container takes it away only by replacing its owner. -/
theorem getElem?_byContainer_applied_of_unreported (h : index.Consistent)
    {application : Application}
    (unreported : ∀ update ∈ application.updates, update.metadata? id = none) :
    (index.applied application).byContainer[id]? =
      index.byContainer[id]?.filter fun holding => ¬ application.Replaces holding.owner := by
  rw [getElem?_byContainer_applied h, lastHolding?_eq_none_iff.2 unreported, Option.none_or]

theorem getElem?_byContainer_replay_of_unreported (h : index.Consistent) {history : History}
    (unreported : Unreported history id) :
    (index.replay history).byContainer[id]? =
      index.byContainer[id]?.filter fun holding =>
        ¬ ∃ application ∈ history, application.Replaces holding.owner := by
  induction history generalizing index with
  | nil => cases there : index.byContainer[id]? <;> simp [there, Option.filter]
  | cons application more ih =>
    obtain ⟨first, later⟩ := unreported_cons.1 unreported
    rw [replay_cons, ih (h.applied application) later,
      getElem?_byContainer_applied_of_unreported h first, Option.filter_filter]
    congr 1
    funext holding
    simp [not_or]

/-- After its last report a container has its owner and metadata until the owner is replaced. -/
theorem getElem?_byContainer_replay_of_lastReport (h : index.Consistent) {history after : History}
    {deployment : DeploymentId} {metadata : Metadata}
    (last : LastReport history id deployment metadata after) :
    (index.replay history).byContainer[id]? =
      if ∃ later ∈ after, later.Replaces deployment then none
      else some ⟨deployment, metadata⟩ := by
  obtain ⟨before, mode, earlier, update, later, rfl, rfl, reported, silent, unreported⟩ := last
  have reporting : ((index.replay before).applied
      ⟨mode, earlier ++ update :: later⟩).byContainer[id]? =
        some ⟨update.deployment, metadata⟩ :=
    getElem?_byContainer_mergeAll_last reported silent
  have consistent := (h.replay before).applied ⟨mode, earlier ++ update :: later⟩
  rw [replay_append, replay_cons, getElem?_byContainer_replay_of_unreported consistent unreported,
    reporting]
  by_cases replaced : ∃ later ∈ after, later.Replaces update.deployment <;>
    simp [Option.filter, replaced]

end Index

namespace Service

/-- In every run a container has the metadata of its last report, unless the deployment that made
this report was replaced later; what was never reported is not known. Purging other deployments,
former owners among them, makes no difference to the answer. -/
theorem metadata_run (limits : Limits) (instrumented : Bool) {actions : List Action}
    (kept : .dropStore ∉ actions) (id : ContainerId) :
    ∃ store, ((fresh limits instrumented).run actions).store = some store ∧
      (Unreported (applications actions) id → store.metadata? id = none) ∧
      (Unreported (applications actions) id ∨ ∃ deployment metadata after,
        LastReport (applications actions) id deployment metadata after) ∧
      ∀ deployment metadata after,
        LastReport (applications actions) id deployment metadata after →
          ((∃ later ∈ after, later.Replaces deployment) → store.metadata? id = none) ∧
          ((¬ ∃ later ∈ after, later.Replaces deployment) →
            store.metadata? id = some metadata) ∧
          ∀ others, deployment ∉ others →
            (store.index.purgeAll others).1.metadata? id = store.metadata? id := by
  have replayed : (Store.empty.afterAll actions).index =
      Index.empty.replay (applications actions) := Store.index_afterAll .empty actions
  have answer : (Store.empty.afterAll actions).metadata? id =
      ((Index.empty.replay (applications actions)).byContainer[id]?).map Holding.metadata := by
    rw [Store.metadata?, Index.metadata?, replayed]
  refine ⟨Store.empty.afterAll actions, store_run rfl kept, ?_,
    unreported_or_exists_lastReport (applications actions) id, ?_⟩
  · intro unreported
    rw [answer, Index.getElem?_byContainer_replay_of_unreported Index.consistent_empty unreported]
    simp [Index.empty]
  · intro deployment metadata after last
    have found := Index.getElem?_byContainer_replay_of_lastReport Index.consistent_empty last
    refine ⟨?_, ?_, ?_⟩
    · intro replaced
      rw [answer, found, if_pos replaced]
      rfl
    · intro unreplaced
      rw [answer, found, if_neg unreplaced]
      rfl
    · intro others stranger
      have consistent := Index.consistent_empty.replay (applications actions)
      rw [Index.metadata?, replayed, Index.getElem?_byContainer_purgeAll consistent, found, answer,
        found]
      split <;> simp [Option.filter, stranger]

/-- A container is reported for two deployments in one update. A purge of the first, which owned it
for a while, leaves it with the second. -/
theorem metadata_run_moved_container :
    let told (pod : String) : Metadata := ⟨⟨"a"⟩, pod, "app", ⟨"c"⟩⟩
    let first := Batch.ofReports [.container ⟨"c"⟩ (told "pod-0")]
    let second := Batch.ofReports [.container ⟨"c"⟩ (told "pod-1")]
    let actions : List Action :=
      [.apply .incremental [⟨⟨"a"⟩, some first⟩, ⟨⟨"b"⟩, some second⟩],
        .apply .replace [⟨⟨"a"⟩, none⟩]]
    let after : History := [⟨.replace, [⟨⟨"a"⟩, none⟩]⟩]
    Action.dropStore ∉ actions ∧
      LastReport (applications actions) ⟨"c"⟩ ⟨"b"⟩ (told "pod-1") after ∧
      (¬ ∃ later ∈ after, later.Replaces ⟨"b"⟩) ∧
      ∃ store, ((fresh {} false).run actions).store = some store ∧
        store.metadata? ⟨"c"⟩ = some (told "pod-1") := by
  intro told first second actions after
  have kept : Action.dropStore ∉ actions := by simp [actions]
  have reported : second.containers[(⟨"c"⟩ : ContainerId)]? = some (told "pod-1") := by
    simp [second, Batch.ofReports, Batch.add, Batch.addContainer, Batch.empty]
  have last : LastReport (applications actions) ⟨"c"⟩ ⟨"b"⟩ (told "pod-1") after :=
    ⟨[], .incremental, [⟨⟨"a"⟩, some first⟩], ⟨⟨"b"⟩, some second⟩, [], rfl, rfl, reported,
      by simp, by simp [after, Unreported, Update.metadata?]⟩
  have unreplaced : ¬ ∃ later ∈ after, later.Replaces ⟨"b"⟩ := by
    simp [after, Application.Replaces]
  obtain ⟨store, present, -, -, answers⟩ := metadata_run {} false kept ⟨"c"⟩
  exact ⟨kept, last, unreplaced, store, present,
    (answers ⟨"b"⟩ (told "pod-1") after last).2.1 unreplaced⟩

end Service

end Attribution
