import Attribution.Proofs.Service.Impact
import Attribution.Proofs.Store.Requests

/-!
# Requests and their records, over whole runs

Which requests are open is decided by what was asked and what was reported, in order; delivery,
channels and the workers have no part in it. The records by which an update answers requests stay
together: they make one job for the channel that is registered at that moment, and the job is
queued or turned away as a whole. Where no channel is registered the records are counted, and an
update that answers nothing leaves no trace outside the store.
-/

namespace Attribution

namespace Tally

/-- Records that meet their outcome together count by their number. -/
theorem count_addAll_map (tally : Tally) (records : List Metadata) (outcome other : Outcome)
    (channel : Option ChannelName) :
    (tally.addAll (records.map fun record => ⟨outcome, record, channel⟩)).count other =
      tally.count other + if outcome = other then records.length else 0 := by
  rw [count_addAll, List.countP_map]
  by_cases same : outcome = other <;> simp [Function.comp_def, same]

end Tally

namespace Service

variable {service : Service}

/-- Some records are counted with an outcome, and nothing else happens to the outcomes. -/
def CountsFurther (service after : Service) (outcome : Outcome) (number : Nat) : Prop :=
  ∀ other, after.counters.outcomes.count other =
    service.counters.outcomes.count other + if outcome = other then number else 0

/-- What comes of records that an update resolves, all of them together. -/
structure HandsOn (service : Service) (records : List Metadata) (after : Service) : Prop where
  nothing : records = [] →
    after.delivery = service.delivery ∧ after.counters.outcomes = service.counters.outcomes
  unregistered : service.registered = none →
    after.delivery = service.delivery ∧ service.CountsFurther after .unregistered records.length
  queued (channel : ChannelName) : service.registered = some channel → records ≠ [] →
    service.delivery.HasPlace →
      after.delivery = service.delivery.withJob ⟨channel, records⟩ ∧
        after.counters.outcomes = service.counters.outcomes
  turnedAway (channel : ChannelName) : service.registered = some channel → records ≠ [] →
    ¬ service.delivery.HasPlace →
      after.delivery = service.delivery ∧
        service.CountsFurther after service.delivery.turnedAway records.length

/-! ### What is handed on by an update -/

/-- The service after an update, as far as delivery is concerned. -/
theorem occur_apply {store : Store} (present : service.store = some store) (mode : Mode)
    (updates : List Update) :
    let dispatched := service.dispatch (store.apply mode updates).resolved
    let after := (service.occur (.action (.apply mode updates))).service
    after.store = some (store.apply mode updates).store ∧ after.delivery = dispatched.1 ∧
      after.counters.outcomes = service.counters.outcomes.addAll dispatched.2 := by
  simp only [occur, perform, withStore, present, applyUpdates, Counters.noted, true_and]
  cases mode <;> rfl

theorem handsOn_apply {store : Store} (present : service.store = some store) (mode : Mode)
    (updates : List Update) :
    service.HandsOn (store.apply mode updates).resolved
      (service.occur (.action (.apply mode updates))).service := by
  obtain ⟨-, delivery, outcomes⟩ := occur_apply present mode updates
  generalize (store.apply mode updates).resolved = records at delivery outcomes ⊢
  refine ⟨?_, ?_, ?_, ?_⟩
  · rintro rfl
    exact ⟨delivery, outcomes⟩
  · intro unregistered
    rw [dispatch_of_unregistered unregistered] at delivery outcomes
    refine ⟨delivery, fun other => ?_⟩
    rw [outcomes]
    exact Tally.count_addAll_map _ records .unregistered other none
  · intro channel registered some_resolved place
    rw [dispatch_of_registered registered some_resolved, Delivery.enqueue_of_hasPlace place]
      at delivery outcomes
    exact ⟨delivery, outcomes⟩
  · intro channel registered some_resolved place
    rw [dispatch_of_registered registered some_resolved, Delivery.enqueue_of_not_hasPlace place]
      at delivery outcomes
    refine ⟨delivery, fun other => ?_⟩
    rw [outcomes]
    exact Tally.count_addAll_map _ records _ other (some channel)

/-! ### Runs -/

/-- After the given actions the open requests are those that are awaited, and any update that comes
next answers those of them that it reports, by records that are handed on together. -/
def KeepsRequests (service : Service) (actions : List Action) : Prop :=
  ∃ store, service.store = some store ∧
    (∀ id, id ∈ store.pending ↔ Awaited actions id) ∧
    ∀ mode updates, ∃ after ids records,
      (service.occur (.action (.apply mode updates))).service.store = some after ∧
        store.Answers updates after ids records ∧
        service.HandsOn records (service.occur (.action (.apply mode updates))).service

theorem keepsRequests_of_store {actions : List Action}
    (present : service.store = some (Store.empty.afterAll actions)) :
    service.KeepsRequests actions := by
  refine ⟨Store.empty.afterAll actions, present, fun id => Store.mem_pending_afterAll_empty, ?_⟩
  intro mode updates
  have answers := Store.answers_apply (Store.empty.afterAll actions) mode updates
  exact ⟨_, _, _, (occur_apply present mode updates).1, answers,
    handsOn_apply present mode updates⟩

/-- A request is open exactly as long as nothing reports its container, and every update answers
the open requests for what it reports, each once; whatever else is done to the service, whichever
worker moves when, and in every run. -/
theorem keepsRequests_follow (limits : Limits) (instrumented : Bool) :
    (∀ schedule : List Event, .action .dropStore ∉ schedule →
      ((fresh limits instrumented).follow schedule).KeepsRequests
        (schedule.filterMap Event.action?)) ∧
    ∀ actions : List Action, .dropStore ∉ actions →
      ((fresh limits instrumented).run actions).KeepsRequests actions := by
  refine ⟨fun schedule kept => ?_, fun actions kept => ?_⟩
  · exact keepsRequests_of_store (store_follow rfl kept)
  · exact keepsRequests_of_store (store_run rfl kept)

/-- Two containers are asked for; one of them is reported for two deployments in one update, the
other is not reported. The next update answers what is left. -/
theorem keepsRequests_follow_taken_over :
    let told (name : String) : Metadata := ⟨⟨"a"⟩, "pod", "app", ⟨name⟩⟩
    let batch (name : String) := Batch.ofReports [.container ⟨name⟩ (told name)]
    let actions : List Action :=
      [.register "callbacks" (some 1), .want ⟨"c"⟩, .want ⟨"d"⟩,
        .apply .incremental [⟨⟨"a"⟩, some (batch "c")⟩, ⟨⟨"b"⟩, some (batch "c")⟩],
        .apply .replace [⟨⟨"b"⟩, none⟩]]
    .dropStore ∉ actions ∧ ((fresh {} false).run actions).KeepsRequests actions ∧
      Awaited actions ⟨"d"⟩ ∧ ¬ Awaited actions ⟨"c"⟩ := by
  intro told batch actions
  have kept : Action.dropStore ∉ actions := by simp [actions]
  have reported : (⟨"c"⟩ : ContainerId) ∈ (batch "c").containers := by
    simp [batch, Batch.ofReports, Batch.add, Batch.addContainer, Batch.empty]
  have unreported : (⟨"d"⟩ : ContainerId) ∉ (batch "c").containers := by
    simp [batch, Batch.ofReports, Batch.add, Batch.addContainer, Batch.empty]
  refine ⟨kept, (keepsRequests_follow {} false).2 actions kept, ?_, ?_⟩
  · simp [actions, awaited_cons, not_awaited_nil, applications, Action.application?, Unreported,
      Update.metadata?, unreported]
  · simp [actions, awaited_cons, not_awaited_nil, applications, Action.application?, Unreported,
      Update.metadata?, reported]

end Service

end Attribution
