import Attribution.Proofs.Index.Extensionality
import Attribution.Proofs.Store.Agreement
import Attribution.Proofs.Store.Live
import Attribution.Proofs.Store.Requests

/-!
# Applications that do not concern each other

Two applications are independent if they name different deployments and report different containers.
They may still meet: in the addresses and endpoints that their deployments share, and in a container
that one of them takes over from a deployment that the other replaces. The one order moves the
container before its former owner is purged, the other purges it and has it reported anew; and an
address can lose its last owner on the way or not. Both orders end in the same store all the same,
since each application decides about its own deployments and containers without regard to what was
there before.
-/

namespace Attribution

namespace Application

/-- What an application does to a store. -/
def on (application : Application) (store : Store) : Applied :=
  store.apply application.mode application.updates

/-- The applications name different deployments, and no container is reported in both. -/
structure Independent (one other : Application) : Prop where
  deployments : ∀ deployment ∈ one.updates.map Update.deployment,
    deployment ∉ other.updates.map Update.deployment
  containers : ∀ id ∈ one.updates.flatMap Update.containerIds,
    id ∉ other.updates.flatMap Update.containerIds

variable {one other : Application}

theorem Independent.symm (h : one.Independent other) : other.Independent one where
  deployments deployment there there' := h.deployments deployment there' there
  containers id there there' := h.containers id there' there

theorem Independent.unreported (h : one.Independent other) {id : ContainerId}
    (reported : ∃ update ∈ one.updates, update.ReportsContainer id) :
    ¬ ∃ update ∈ other.updates, update.ReportsContainer id := by
  rw [← Store.mem_flatMap_containerIds] at reported ⊢
  exact h.containers id reported

/-- An application replaces no deployment but those that it names. -/
theorem Independent.not_replaces (h : one.Independent other) {deployment : DeploymentId}
    (named : deployment ∈ one.updates.map Update.deployment) : ¬ other.Replaces deployment :=
  fun replaces => h.deployments deployment named replaces.2

theorem named_of_reports {deployment : DeploymentId} {association : Association}
    (reports : one.Reports deployment association) :
    deployment ∈ one.updates.map Update.deployment := by
  obtain ⟨update, there, same, -⟩ := reports
  exact List.mem_map.2 ⟨update, there, same⟩

end Application

/-- What updates make of a container is a deployment's that they name. -/
theorem named_of_lastHolding? {updates : List Update} {id : ContainerId} {holding : Holding}
    (given : lastHolding? id updates = some holding) :
    holding.owner ∈ updates.map Update.deployment := by
  induction updates with
  | nil => cases given
  | cons update more ih =>
    rw [lastHolding?, Option.or_eq_some_iff] at given
    rw [List.map_cons, List.mem_cons]
    rcases given with later | ⟨-, now⟩
    · exact .inr (ih later)
    · obtain ⟨metadata, -, rfl⟩ := Option.map_eq_some_iff.1 now
      exact .inl rfl

namespace Index

variable {index : Index} {one other : Application}

/-! ### The index -/

/-- Shared associations of a deployment are decided by the application that names it. -/
theorem attributes_applied_comm (h : index.Consistent) (independent : one.Independent other)
    {deployment : DeploymentId} {association : Association} (shared : association.IsShared) :
    ((index.applied one).applied other).Attributes deployment association ↔
      ((index.applied other).applied one).Attributes deployment association := by
  have kept (reports : one.Reports deployment association) : ¬ other.Replaces deployment :=
    independent.not_replaces (Application.named_of_reports reports)
  have kept' (reports : other.Reports deployment association) : ¬ one.Replaces deployment :=
    independent.symm.not_replaces (Application.named_of_reports reports)
  rw [attributes_applied (h.applied one) shared, attributes_applied h shared,
    attributes_applied (h.applied other) shared, attributes_applied h shared]
  tauto

/-- A container that one of the applications reports is left to it by the other, whichever comes
first. -/
theorem getElem?_byContainer_applied_of_lastHolding? (h : index.Consistent)
    (independent : one.Independent other) {id : ContainerId} {holding : Holding}
    (given : lastHolding? id one.updates = some holding) :
    ((index.applied one).applied other).byContainer[id]? = some holding ∧
      ((index.applied other).applied one).byContainer[id]? = some holding := by
  have reported := isSome_lastHolding?_iff.1 (Option.isSome_of_eq_some given)
  have silent : lastHolding? id other.updates = none :=
    Option.not_isSome_iff_eq_none.1 (mt isSome_lastHolding?_iff.1 (independent.unreported reported))
  have kept : ¬ other.Replaces holding.owner :=
    independent.not_replaces (named_of_lastHolding? given)
  refine ⟨?_, ?_⟩
  · rw [getElem?_byContainer_applied (h.applied one), getElem?_byContainer_applied h, silent, given,
      Option.some_or, Option.none_or, Option.filter_some_pos (by simpa using kept)]
  · rw [getElem?_byContainer_applied (h.applied other), given, Option.some_or]

theorem getElem?_byContainer_applied_comm (h : index.Consistent)
    (independent : one.Independent other) (id : ContainerId) :
    ((index.applied one).applied other).byContainer[id]? =
      ((index.applied other).applied one).byContainer[id]? := by
  cases first : lastHolding? id one.updates with
  | some holding =>
    obtain ⟨there, there'⟩ := getElem?_byContainer_applied_of_lastHolding? h independent first
    rw [there, there']
  | none =>
    cases second : lastHolding? id other.updates with
    | some holding =>
      obtain ⟨there, there'⟩ :=
        getElem?_byContainer_applied_of_lastHolding? h independent.symm second
      rw [there, there']
    | none =>
      -- neither reports it, and it stays if neither replaces its owner
      rw [getElem?_byContainer_applied (h.applied one), getElem?_byContainer_applied h,
        getElem?_byContainer_applied (h.applied other), getElem?_byContainer_applied h, first,
        second, Option.none_or, Option.none_or, Option.none_or, Option.none_or,
        Option.filter_filter, Option.filter_filter]
      simp only [Bool.and_comm]

/-- Independent applications lead to the same index in either order. -/
theorem applied_comm (h : index.Consistent) (independent : one.Independent other) :
    (index.applied one).applied other = (index.applied other).applied one := by
  refine ((h.applied one).applied other).eq_of_attributes_iff ((h.applied other).applied one) ?_
  intro deployment association
  by_cases shared : association.IsShared
  · exact attributes_applied_comm h independent shared
  · cases association with
    | container id metadata =>
      rw [Attributes, Attributes, getElem?_byContainer_applied_comm h independent]
    | _ => exact absurd trivial shared

end Index

namespace Pending

/-- What is resolved depends only on which of the reported containers are asked for, and on what is
known of them. -/
theorem resolve_congr {pending others : Pending} {index later : Index} {ids : List ContainerId}
    (asked : ∀ id ∈ ids, id ∈ pending ↔ id ∈ others)
    (told : ∀ id ∈ ids, index.metadata? id = later.metadata? id) :
    (pending.resolve index ids).1 = (others.resolve later ids).1 := by
  induction ids generalizing pending others with
  | nil => rfl
  | cons first more ih =>
    have told_later : ∀ id ∈ more, index.metadata? id = later.metadata? id :=
      fun id there => told id (List.mem_cons_of_mem first there)
    have asked_first := asked first List.mem_cons_self
    rw [resolve, resolve]
    by_cases asks : first ∈ pending
    · have still_asked : ∀ id ∈ more, id ∈ pending.erase first ↔ id ∈ others.erase first := by
        intro id there
        rw [mem_erase_iff, mem_erase_iff, asked id (List.mem_cons_of_mem first there)]
      rw [if_pos asks, if_pos (asked_first.1 asks), told first List.mem_cons_self]
      exact congrArg ((later.metadata? first).toList ++ ·) (ih still_asked told_later)
    · rw [if_neg asks, if_neg (mt asked_first.2 asks)]
      exact ih (fun id there => asked id (List.mem_cons_of_mem first there)) told_later

end Pending

namespace Store

variable {store : Store} {one other : Application}

/-- Two applications lead to the same store in either order, and each resolves the same records. -/
structure Commutes (store : Store) (one other : Application) : Prop where
  after : (other.on (one.on store).store).store = (one.on (other.on store).store).store
  first : (one.on store).resolved = (one.on (other.on store).store).resolved
  second : (other.on (one.on store).store).resolved = (other.on store).resolved

/-- What an application resolves is the same after an independent one. -/
theorem resolved_on (independent : one.Independent other) :
    (one.on store).resolved = (one.on (other.on store).store).resolved := by
  refine Pending.resolve_congr ?_ ?_
  · intro id listed
    have silent := independent.unreported (mem_flatMap_containerIds.1 listed)
    change id ∈ store.pending ↔ id ∈ (store.apply other.mode other.updates).store.pending
    rw [mem_pending_apply, and_iff_left silent]
  · intro id listed
    obtain ⟨holding, given⟩ := Option.isSome_iff_exists.1
      (isSome_lastHolding?_iff.2 (mem_flatMap_containerIds.1 listed))
    simp only [Index.metadata?, Index.getElem?_byContainer_mergeAll, given, Option.some_or]

theorem commutes (h : store.index.Consistent) (independent : one.Independent other) :
    store.Commutes one other where
  after := by
    have index : (store.index.applied one).applied other =
        (store.index.applied other).applied one := Index.applied_comm h independent
    have pending : (other.on (one.on store).store).store.pending =
        (one.on (other.on store).store).store.pending := by
      apply Std.ExtTreeSet.ext_mem
      intro id
      simp only [Application.on, mem_pending_apply]
      exact and_right_comm
    exact congrArg₂ Store.mk index pending
  first := resolved_on independent
  second := (resolved_on independent.symm).symm

end Store

namespace Service

/-- Whatever was done to a service, two applications that name different deployments and report
different containers can be applied to its store in either order: the index and the open requests
are the same at the end, and each of the two resolves the same records. -/
theorem commutes_follow (limits : Limits) (instrumented : Bool) :
    (∀ (schedule : List Event) (store : Store),
      ((fresh limits instrumented).follow schedule).store = some store →
        ∀ one other : Application, one.Independent other → store.Commutes one other) ∧
    ∀ (actions : List Action) (store : Store),
      ((fresh limits instrumented).run actions).store = some store →
        ∀ one other : Application, one.Independent other → store.Commutes one other := by
  refine ⟨fun schedule store there one other => ?_, fun actions store there one other => ?_⟩
  · exact Store.commutes (consistent_index_follow there)
  · exact Store.commutes (consistent_index_run there)

/-- A deployment is replaced, and the container that it owned so far is taken over by another
deployment, with which it shares an address and an endpoint. -/
theorem commutes_follow_taken_over :
    let address : Association := .address (.v4 (.of 10 0 0 5))
    let endpoint : Association := .exposure ⟨⟨.v4 (.of 10 0 0 5), 80, .tcp⟩, ⟨8080, none⟩⟩
    let container : Association := .container ⟨"c"⟩ ⟨⟨"b"⟩, "pod", "app", ⟨"c"⟩⟩
    let actions : List Action :=
      [.want ⟨"c"⟩, .apply .incremental [⟨⟨"a"⟩, some (.ofReports [address, container])⟩],
        .want ⟨"c"⟩]
    let replacing : Application := ⟨.replace, [⟨⟨"a"⟩, some (.ofReports [address, endpoint])⟩]⟩
    let taking : Application :=
      ⟨.incremental, [⟨⟨"b"⟩, some (.ofReports [address, endpoint, container])⟩]⟩
    ∃ store, ((fresh {} false).run actions).store = some store ∧
      replacing.Independent taking ∧ store.Commutes replacing taking := by
  intro address endpoint container actions replacing taking
  have independent : replacing.Independent taking := by
    refine ⟨?_, ?_⟩
    · decide +kernel +revert
    · decide +kernel +revert
  have kept : .dropStore ∉ actions := by simp [actions]
  have present : ((fresh {} false).run actions).store = _ := store_run rfl kept
  exact ⟨_, present, independent,
    (commutes_follow {} false).2 actions _ present replacing taking independent⟩

end Service

end Attribution
