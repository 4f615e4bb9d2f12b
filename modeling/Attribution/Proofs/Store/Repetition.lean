import Attribution.Proofs.Index.Extensionality
import Attribution.Proofs.Service.Effect
import Attribution.Proofs.Service.Rest
import Attribution.Proofs.Store.Agreement
import Attribution.Proofs.Store.Live
import Attribution.Proofs.Store.Requests

/-!
# The same update twice

An update says all there is to say about the deployments that it replaces, about what it reports as
shared, and about the containers that it reports. What it does not speak of it leaves alone. So the
index after an update already is what the update makes of it, although on the way there a container
may go from its owner to others and come back, and entries may be taken away and made again. Its
requests are closed, so that there is nothing to tell anybody the second time.
-/

namespace Attribution

namespace Index

variable {index : Index}

/-- Shared associations are the same whether an update is applied once or twice. -/
theorem attributes_applied_applied (h : index.Consistent) (application : Application)
    {deployment : DeploymentId} {association : Association} (shared : association.IsShared) :
    ((index.applied application).applied application).Attributes deployment association ↔
      (index.applied application).Attributes deployment association := by
  rw [attributes_applied (h.applied application) shared, attributes_applied h shared]
  constructor
  · rintro (reported | ⟨reported | before, -⟩)
    · exact .inl reported
    · exact .inl reported
    · exact .inr before
  · rintro (reported | ⟨before, unreplaced⟩)
    · exact .inl reported
    · exact .inr ⟨.inr ⟨before, unreplaced⟩, unreplaced⟩

/-- A container is with its last report, or with an owner that is not replaced. -/
theorem getElem?_byContainer_applied_applied (h : index.Consistent) (application : Application)
    (id : ContainerId) :
    ((index.applied application).applied application).byContainer[id]? =
      (index.applied application).byContainer[id]? := by
  rw [getElem?_byContainer_applied (h.applied application), getElem?_byContainer_applied h]
  cases lastHolding? id application.updates with
  | some holding => rfl
  | none => simp only [Option.none_or, Option.filter_filter, Bool.and_self]

/-- An application leaves nothing for the same application to do. -/
theorem applied_applied (h : index.Consistent) (application : Application) :
    (index.applied application).applied application = index.applied application := by
  have once := h.applied application
  refine (once.applied application).eq_of_attributes_iff once fun deployment association => ?_
  cases association with
  | container id metadata =>
    rw [Attributes, Attributes, getElem?_byContainer_applied_applied h]
  | _ => exact attributes_applied_applied h application trivial

end Index

namespace Pending

/-- Where nobody asks for any of the reported containers, nothing is resolved or closed. -/
theorem resolve_of_unasked {pending : Pending} {ids : List ContainerId}
    (unasked : ∀ id ∈ ids, id ∉ pending) (index : Index) :
    pending.resolve index ids = ([], pending) := by
  induction ids with
  | nil => rfl
  | cons first more ih =>
    obtain ⟨here, later⟩ := List.forall_mem_cons.1 unasked
    rw [resolve, if_neg here, ih later]

end Pending

namespace Store

variable {store : Store}

/-- The containers that an update reports are not asked for any more after it. -/
theorem not_mem_pending_apply {mode : Mode} {updates : List Update} :
    ∀ id ∈ updates.flatMap Update.containerIds, id ∉ (store.apply mode updates).store.pending := by
  intro id listed asked
  exact (mem_pending_apply.1 asked).2 (mem_flatMap_containerIds.1 listed)

/-- The update makes no difference to the store, and resolves nothing. -/
structure Absorbs (store : Store) (mode : Mode) (updates : List Update) : Prop where
  same : (store.apply mode updates).store = store
  resolved : (store.apply mode updates).resolved = []

/-- Applied again, an update makes no difference. -/
theorem absorbs_apply (h : store.index.Consistent) (mode : Mode) (updates : List Update) :
    (store.apply mode updates).store.Absorbs mode updates := by
  have index : (store.apply mode updates).store.index.applied ⟨mode, updates⟩ =
      (store.apply mode updates).store.index := Index.applied_applied h ⟨mode, updates⟩
  generalize once : (store.apply mode updates).store = after at index ⊢
  have unasked : ∀ id ∈ updates.flatMap Update.containerIds, id ∉ after.pending :=
    once ▸ not_mem_pending_apply
  have nothing := Pending.resolve_of_unasked unasked (after.index.applied ⟨mode, updates⟩)
  exact ⟨congrArg₂ Store.mk index (congrArg Prod.snd nothing), congrArg Prod.fst nothing⟩

end Store

namespace Service

variable {service : Service}

/-- An action that leaves the store, the delivery and the counts of outcomes as they are, and comes
to no notice. -/
structure ComesToNothing (service : Service) (reaction : Reaction) : Prop where
  store : reaction.service.store = service.store
  delivery : reaction.service.delivery = service.delivery
  outcomes : reaction.service.counters.outcomes = service.counters.outcomes
  notices : reaction.notices = []

/-- An update that makes no difference to the store comes to nothing. The update itself is counted,
and so are its purges. -/
theorem comesToNothing_perform {mode : Mode} {updates : List Update}
    (absorbed : ∀ store, service.store = some store → store.Absorbs mode updates) :
    service.ComesToNothing (service.perform (.apply mode updates)) := by
  cases present : service.store with
  | none =>
    simp only [perform, withStore, present]
    exact ⟨rfl, rfl, rfl, rfl⟩
  | some store =>
    obtain ⟨same, nothing⟩ := absorbed store present
    simp only [perform, withStore, present, applyUpdates, same, nothing]
    exact ⟨present.symm, rfl, Counters.outcomes_applied _ mode _, rfl⟩

theorem ComesToNothing.occur {action : Action}
    (h : service.ComesToNothing (service.perform action)) :
    service.ComesToNothing (service.occur (.action action)) := by
  obtain ⟨store, delivery, outcomes, notices⟩ := h
  refine ⟨store, delivery, ?_, notices⟩
  simp only [Service.occur, notices]
  exact outcomes

/-- Where no worker can move an action that comes to nothing does not bring any to move. -/
theorem ComesToNothing.step {action : Action}
    (h : service.ComesToNothing (service.perform action)) (settled : service.delivery.Settled) :
    service.ComesToNothing (service.step action) := by
  obtain ⟨store, delivery, outcomes, notices⟩ := h
  have rests : (service.perform action).service.delivery.settle = (service.delivery, []) := by
    rw [delivery, Delivery.settle_of_settled settled]
  refine ⟨store, ?_, ?_, ?_⟩
  · simp only [Service.step, rests]
  · simp only [Service.step, rests, notices]
    exact outcomes
  · simp only [Service.step, rests, notices, List.append_nil]

/-- The store does not change by itself. -/
theorem store_follow_of_silent (service : Service) {schedule : List Event}
    (silent : schedule.filterMap Event.action? = []) :
    (service.follow schedule).store = service.store := by
  cases present : service.store with
  | none => exact store_follow_none present schedule
  | some store =>
    have kept : .action .dropStore ∉ schedule := by
      rw [← mem_filterMap_action?, silent]
      exact List.not_mem_nil
    rw [store_follow present kept, silent]
    rfl

/-- Right after an update the store absorbs the same update. -/
theorem absorbs_of_store_occur {mode : Mode} {updates : List Update} {after : Store}
    (consistent : ∀ store, service.store = some store → store.index.Consistent)
    (there : (service.occur (.action (.apply mode updates))).service.store = some after) :
    after.Absorbs mode updates := by
  have kept : Event.action (.apply mode updates) ≠ .action .dropStore := nofun
  rw [store_occur service kept, Option.map_eq_some_iff] at there
  obtain ⟨store, present, rfl⟩ := there
  exact Store.absorbs_apply (consistent store present) mode updates

/-- Whatever was done to a service, an update that is applied twice in a row leaves the same store
as when it is applied once. The second time it resolves no record, it makes no job for the delivery
and it counts no outcome; whatever the delivery has done in between. -/
theorem repeated_follow (limits : Limits) (instrumented : Bool) (mode : Mode)
    (updates : List Update) :
    (∀ schedule idle : List Event, idle.filterMap Event.action? = [] →
      let once := (fresh limits instrumented).follow (schedule ++ [.action (.apply mode updates)])
      let before := once.follow idle
      before.store = once.store ∧
        (∀ store, before.store = some store → store.Absorbs mode updates) ∧
        before.ComesToNothing (before.occur (.action (.apply mode updates)))) ∧
    ∀ actions : List Action,
      let once := (fresh limits instrumented).run (actions ++ [.apply mode updates])
      (∀ store, once.store = some store → store.Absorbs mode updates) ∧
        once.ComesToNothing (once.step (.apply mode updates)) := by
  refine ⟨fun schedule idle silent => ?_, fun actions => ?_⟩
  · intro once before
    have same : before.store = once.store := store_follow_of_silent once silent
    have absorbed : ∀ store, before.store = some store → store.Absorbs mode updates := by
      intro store there
      rw [same] at there
      simp only [once, follow_append, follow_cons, follow_nil] at there
      exact absorbs_of_store_occur (fun _ => consistent_index_follow) there
    exact ⟨same, absorbed, (comesToNothing_perform absorbed).occur⟩
  · intro once
    have last : once = (((fresh limits instrumented).run actions).step
        (.apply mode updates)).service := run_append _ actions _
    have settled : once.delivery.Settled := last ▸ settled_step _ _
    have absorbed : ∀ store, once.store = some store → store.Absorbs mode updates := by
      intro store there
      rw [last] at there
      exact absorbs_of_store_occur (fun _ => consistent_index_run) there
    exact ⟨absorbed, (comesToNothing_perform absorbed).step settled⟩

/-- Two deployments that own nothing else report the same container, the first of them again at the
end, and all is replaced. The answer to the request is delivered before the update comes again. -/
theorem repeated_follow_taken_back :
    let contains (deployment : String) : Update :=
      ⟨⟨deployment⟩, some (.ofReports [.container ⟨"c"⟩ ⟨⟨deployment⟩, "pod", "app", ⟨"c"⟩⟩])⟩
    let updates : List Update :=
      [contains "a", contains "b", ⟨⟨"b"⟩, none⟩, ⟨⟨"d"⟩, some .empty⟩, contains "a"]
    let schedule : List Event :=
      [.action (.register "callbacks" (some 1)), .action .startDelivery, .action (.want ⟨"c"⟩)]
    let idle : List Event := [.move 0, .tick 3, .move 0, .move 0]
    let once := (fresh {} false).follow (schedule ++ [.action (.apply .replace updates)])
    let before := once.follow idle
    once.delivery.queue.length = 1 ∧ before.counters.outcomes = { delivered := 1 } ∧
      idle.filterMap Event.action? = [] ∧ before.store = once.store ∧
      before.ComesToNothing (before.occur (.action (.apply .replace updates))) := by
  intro contains updates schedule idle once before
  have queued : once.delivery.queue.length = 1 := by decide +kernel +revert
  have delivered : before.counters.outcomes = { delivered := 1 } := by decide +kernel +revert
  have silent : idle.filterMap Event.action? = [] := rfl
  obtain ⟨same, -, nothing⟩ := (repeated_follow {} false .replace updates).1 schedule idle silent
  exact ⟨queued, delivered, silent, same, nothing⟩

end Service

end Attribution
