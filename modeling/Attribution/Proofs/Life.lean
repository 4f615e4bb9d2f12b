import Attribution.Boot
import Attribution.Proofs.Service.Arrival
import Attribution.Proofs.Service.Phase
import Attribution.Settings.Environment

/-!
# From the command line to the last record

Before the delivery starts the updates find a queue and nobody who takes jobs out of it. So of the
updates that resolve any records the first ones find a place, as many as the queue has, and the
records of all others are lost. What waits is delivered as soon as the workers come, if the channel
has room for it; no time has to pass, and the store is dropped meanwhile. What the store holds does
not depend on any of this.
-/

namespace Attribution

namespace Store

/-- The records that each of several updates resolves, in turn. -/
def resolutions (store : Store) : List (Mode × List Update) → List (List Metadata)
  | [] => []
  | (mode, parts) :: more =>
    (store.apply mode parts).resolved :: (store.apply mode parts).store.resolutions more

end Store

namespace Boot

/-- The actions that apply updates. -/
def applying (updates : List (Mode × List Update)) : List Action :=
  updates.map fun (mode, parts) => .apply mode parts

/-- The jobs that find a place before the delivery starts. -/
def placed (limits : Limits) (offered : List (List Metadata)) : List Job :=
  (offered.take limits.queueLength).map (Job.mk channelName)

/-- The delivery before it starts, after jobs were offered to it. -/
def waiting (limits : Limits) (offered : List (List Metadata)) : Delivery :=
  ({ limits, queue := placed limits offered } : Delivery).addChannel channelName channelCapacity

variable {limits : Limits} {store : Store} {offered : List (List Metadata)} {service : Service}

/-! ### What waits -/

/-- A further job finds a place exactly if fewer were offered so far than there are places. -/
theorem hasPlace_waiting_iff :
    (waiting limits offered).HasPlace ↔ offered.length < limits.queueLength := by
  have unstarted : (waiting limits offered).phase ≠ .stopped := Phase.noConfusion
  have queued : (waiting limits offered).queue.length = min limits.queueLength offered.length := by
    change (placed limits offered).length = _
    rw [placed, List.length_map, List.length_take]
  rw [Delivery.HasPlace, queued, and_iff_right unstarted]
  change min limits.queueLength offered.length < limits.queueLength ↔ _
  omega

theorem enqueue_waiting (records : List Metadata) :
    ((waiting limits offered).enqueue ⟨channelName, records⟩).1 =
      waiting limits (offered ++ [records]) := by
  by_cases place : (waiting limits offered).HasPlace
  · rw [Delivery.enqueue_of_hasPlace place]
    rw [hasPlace_waiting_iff] at place
    have all : placed limits (offered ++ [records]) =
        placed limits offered ++ [⟨channelName, records⟩] := by
      rw [placed, placed, List.take_of_length_le (by rwa [List.length_append]),
        List.take_of_length_le (Nat.le_of_lt place), List.map_append]
      rfl
    rw [waiting, waiting, all]
    rfl
  · rw [Delivery.enqueue_of_not_hasPlace place]
    rw [hasPlace_waiting_iff, Nat.not_lt] at place
    rw [waiting, waiting, placed, placed, List.take_append_of_le_length place]

theorem outstanding_waiting :
    (waiting limits offered).outstanding = (offered.take limits.queueLength).flatten := by
  change [] ++ (placed limits offered).flatMap Job.records = _
  rw [List.nil_append, placed, List.flatMap_map, ← List.flatMap_id']

theorem inbox_waiting : (waiting limits offered).inbox channelName = [] := by
  rw [waiting, Delivery.addChannel, Delivery.inbox_insert, if_pos rfl]

/-- Where nobody is there to move, the delivery is at rest. -/
theorem settled_waiting : (waiting limits offered).Settled :=
  fun i => Delivery.move?_eq_none_of_size_le (Nat.zero_le i)

theorem roomy_waiting
    (enough : ((offered.take limits.queueLength).flatten).length ≤ channelCapacity) :
    (waiting limits offered).Roomy channelName where
  room := by
    refine ⟨{ capacity := channelCapacity }, ?_, rfl, ?_⟩
    · rw [waiting, Delivery.addChannel, Std.ExtTreeMap.getElem?_insert_self]
    · rw [outstanding_waiting]
      exact enough
  addressed parcel there := by
    change parcel ∈ [] ++ (placed limits offered).flatMap Job.parcels at there
    obtain ⟨job, listed, among⟩ := List.mem_flatMap.1 there
    obtain ⟨records, -, rfl⟩ := List.mem_map.1 listed
    obtain ⟨record, -, rfl⟩ := List.mem_map.1 among
    rfl

/-! ### Preparation -/

/-- A service that is prepared so far: the jobs that were offered wait for its registered channel,
as far as there was a place for them. -/
structure Prepared (limits : Limits) (store : Store) (offered : List (List Metadata))
    (service : Service) : Prop where
  present : service.store = some store
  registered : service.registered = some channelName
  delivery : service.delivery = waiting limits offered

namespace Prepared

/-- What a step is like that leaves the workers to come. -/
theorem of_perform {action : Action}
    (h : Prepared limits store offered (service.perform action).service) :
    Prepared limits store offered (service.step action).service where
  present := h.present
  registered := h.registered
  delivery := by
    have settled : (service.perform action).service.delivery.Settled := by
      rw [h.delivery]
      exact settled_waiting
    exact (congrArg Prod.fst (Delivery.settle_of_settled settled)).trans h.delivery

theorem register (limits : Limits) (instrumented : Bool) :
    Prepared limits .empty []
      ((Service.fresh limits instrumented).step
        (.register channelName (some channelCapacity))).service := by
  refine of_perform ?_
  have new : (Service.fresh limits instrumented).delivery.hasChannel channelName = false :=
    Std.ExtTreeMap.contains_empty
  have fits : channelCapacity ≤ Limits.greatestCapacity := by decide
  have empty : waiting limits [] = (Service.fresh limits instrumented).delivery.addChannel
      channelName channelCapacity := by
    rw [waiting, placed, List.take_nil]
    rfl
  have registers : (Service.fresh limits instrumented).register channelName (some channelCapacity) =
      { Service.fresh limits instrumented with
        delivery := waiting limits [] }.setRegistered (some channelName) := by
    refine (if_neg (Bool.eq_false_iff.1 new)).trans ?_
    rw [empty]
    exact if_pos fits
  change Prepared limits .empty []
    ((Service.fresh limits instrumented).register channelName (some channelCapacity)).service
  rw [registers]
  exact ⟨rfl, rfl, rfl⟩

theorem want (h : Prepared limits store offered service) (id : ContainerId) :
    Prepared limits (store.want id) offered (service.step (.want id)).service := by
  refine of_perform ?_
  simp only [Service.perform, Service.withStore, h.present]
  exact ⟨rfl, h.registered, h.delivery⟩

theorem wants (h : Prepared limits store offered service) (wanted : List ContainerId) :
    Prepared limits (store.afterAll (wanted.map .want)) offered
      (service.run (wanted.map .want)) := by
  induction wanted generalizing service store with
  | nil => exact h
  | cons id more ih => exact ih (h.want id)

/-- An update that resolves any records offers them as a job. -/
theorem apply (h : Prepared limits store offered service) (mode : Mode) (parts : List Update) :
    Prepared limits (store.apply mode parts).store
      (offered ++ [(store.apply mode parts).resolved].filter (· ≠ []))
      (service.step (.apply mode parts)).service := by
  refine of_perform ?_
  simp only [Service.perform, Service.withStore, h.present, Service.applyUpdates]
  refine ⟨rfl, h.registered, ?_⟩
  by_cases nothing : (store.apply mode parts).resolved = []
  · rw [List.filter_cons_of_neg (by simpa using nothing), List.filter_nil, List.append_nil,
      Service.dispatch, if_pos nothing]
    exact h.delivery
  · rw [List.filter_cons_of_pos (by simpa using nothing), List.filter_nil]
    change (service.dispatch _).1 = _
    rw [Service.dispatch_of_registered h.registered nothing, h.delivery, enqueue_waiting]

theorem applies (h : Prepared limits store offered service) (updates : List (Mode × List Update)) :
    Prepared limits (store.afterAll (applying updates))
      (offered ++ (store.resolutions updates).filter (· ≠ []))
      (service.run (applying updates)) := by
  induction updates generalizing service store offered with
  | nil => rwa [Store.resolutions, List.filter_nil, List.append_nil]
  | cons update more ih =>
    obtain ⟨mode, parts⟩ := update
    have rest := ih (h.apply mode parts)
    rwa [List.append_assoc, ← List.filter_append, List.singleton_append] at rest

/-- Once the delivery is started and the store dropped, what waits arrives, if the channel has room
for it. -/
theorem arrives (h : Prepared limits store offered service) (orderly : service.Orderly limits)
    (enough : ((offered.take limits.queueLength).flatten).length ≤ channelCapacity)
    {schedule : List Event} (calm : Calm schedule) (started : .action .startDelivery ∈ schedule)
    (dropped : .action .dropStore ∈ schedule)
    (settled : (service.follow schedule).delivery.Settled) :
    service.Arrives channelName limits (service.follow schedule) := by
  have roomy : service.delivery.Roomy channelName := by
    rw [h.delivery]
    exact roomy_waiting enough
  have going : service.delivery.phase ≠ .stopped := by
    rw [h.delivery]
    exact Phase.noConfusion
  have running := (Service.running_follow_iff going calm.no_stop).2 (.inr started)
  have gone : (service.follow schedule).store = none := Service.store_follow_of_dropped dropped
  exact Service.arrives_follow orderly roomy calm gone running settled

end Prepared

/-- What the store is like after containers are asked for and updates are applied. -/
def fed (wanted : List ContainerId) (updates : List (Mode × List Update)) : Store :=
  Store.empty.afterAll (wanted.map .want ++ applying updates)

/-- The records of each update that resolves any, when containers are asked for and updates are
applied. -/
def resolved (wanted : List ContainerId) (updates : List (Mode × List Update)) :
    List (List Metadata) :=
  ((Store.empty.afterAll (wanted.map .want)).resolutions updates).filter (· ≠ [])

theorem prepared (limits : Limits) (instrumented : Bool) (wanted : List ContainerId)
    (updates : List (Mode × List Update)) :
    Prepared limits (fed wanted updates) (resolved wanted updates)
      ((Service.fresh limits instrumented).run (preparation wanted updates)) := by
  rw [preparation, Service.run_append, Service.run_append, fed, Store.afterAll, List.foldl_append]
  exact ((Prepared.register limits instrumented).wants wanted).applies updates

/-! ### What becomes of it -/

/-- The records that find a place before the delivery starts: those of the first updates that
resolve any. -/
def kept (settings : Settings) (wanted : List ContainerId) (updates : List (Mode × List Update)) :
    List Metadata :=
  let jobs := resolved wanted updates
  (jobs.take (min jobs.length (max 1 settings.queueCapacity.toNat))).flatten

/-- The delivery is over, and exactly the kept records are in the channel; in order, if there is but
one worker. -/
structure Delivered (settings : Settings) (wanted : List ContainerId)
    (updates : List (Mode × List Update)) (after : Service) : Prop where
  completed : after.delivery.completed? = some true
  perm : (received after).Perm (kept settings wanted updates)
  order : settings.workers.toNat ≤ 1 → received after = kept settings wanted updates

theorem kept_eq (settings : Settings) (wanted : List ContainerId)
    (updates : List (Mode × List Update)) :
    kept settings wanted updates =
      ((resolved wanted updates).take settings.limits.queueLength).flatten := by
  rw [kept, min_comm, ← List.take_eq_take_min]
  rfl

section Preparation

variable {settings : Settings} {wanted : List ContainerId} {updates : List (Mode × List Update)}

/-- Whatever the workers do and when, exactly the kept records are delivered in the end. -/
theorem delivered_follow (enough : (kept settings wanted updates).length ≤ channelCapacity)
    {schedule : List Event} (calm : Calm schedule) (started : .action .startDelivery ∈ schedule)
    (dropped : .action .dropStore ∈ schedule) :
    let service := (Service.fresh settings.limits true).run (preparation wanted updates)
    (service.follow schedule).delivery.Settled →
      Delivered settings wanted updates (service.follow schedule) := by
  intro service settled
  have h : Prepared settings.limits _ _ service := prepared settings.limits true wanted updates
  have orderly : service.Orderly settings.limits :=
    (Service.orderly_fresh settings.limits true).run (preparation wanted updates)
  have arrives := h.arrives orderly (kept_eq settings wanted updates ▸ enough) calm started dropped
    settled
  have all : service.delivery.inbox channelName ++ service.delivery.outstanding =
      kept settings wanted updates := by
    rw [h.delivery, inbox_waiting, outstanding_waiting, kept_eq, List.nil_append]
  exact ⟨arrives.completed, all ▸ arrives.perm, fun alone => all ▸ arrives.order alone⟩

theorem delivered_run (enough : (kept settings wanted updates).length ≤ channelCapacity)
    {actions : List Action} (calm : ∀ action ∈ actions, action.interferes = false)
    (started : .startDelivery ∈ actions) (dropped : .dropStore ∈ actions) :
    Delivered settings wanted updates
      (((Service.fresh settings.limits true).run (preparation wanted updates)).run actions) := by
  have settled := Service.settled_run (Service.settled_fresh settings.limits true)
    (preparation wanted updates ++ actions)
  rw [Service.run_append] at settled
  obtain ⟨schedule, acts, same⟩ := Service.exists_schedule
    ((Service.fresh settings.limits true).run (preparation wanted updates)) actions
  subst acts
  rw [← same] at settled ⊢
  exact delivered_follow enough calm (mem_filterMap_action?.1 started)
    (mem_filterMap_action?.1 dropped) settled

end Preparation

theorem build_of_fits {settings : Settings} (readable : LogFilter.check settings.logFilter = .ok ())
    (fits : settings.limits.fits = true) :
    build settings = .ok (.fresh settings.limits true) := by
  rw [build, readable]
  exact if_pos fits

/-- With settings that a command line and an environment give, a filter that can be read and a
capacity that a queue can have, there is a service. Whatever is asked of it and applied to it before
it runs, its sizes are those of the store; and if the channel has room for the records that were
kept, exactly these are delivered when it is told to stop, by a single worker in order. The delivery
is over as soon as the store is dropped, without any time passing. None of this depends on when the
store is dropped, on the order in which the workers move, on the time that passes or on what else is
asked of the service meanwhile. -/
theorem live_delivers (arguments : List Argument) (environment : Environment)
    (settings : Settings) :
    Settings.parse arguments environment = .ok settings →
    LogFilter.check settings.logFilter = .ok () → settings.limits.fits = true →
    ∃ service, build settings = .ok service ∧
      ∀ (wanted : List ContainerId) (updates : List (Mode × List Update)),
        let prepared := service.run (preparation wanted updates)
        let report := live service wanted updates
        let kept := kept settings wanted updates
        report.sizes = some (fed wanted updates).sizes ∧
        (kept.length ≤ channelCapacity →
          report.delivered.Perm kept ∧
          (settings.workers.toNat ≤ 1 → report.delivered = kept) ∧
          Delivered settings wanted updates (prepared.run (startup ++ [.dropStore])) ∧
          ∀ schedule : List Event, Calm schedule → .action .startDelivery ∈ schedule →
            .action .dropStore ∈ schedule → (prepared.follow schedule).delivery.Settled →
              Delivered settings wanted updates (prepared.follow schedule)) := by
  intro _ readable fits
  refine ⟨.fresh settings.limits true, build_of_fits readable fits, ?_⟩
  intro wanted updates service report kept
  have h : Prepared settings.limits _ _ service := prepared settings.limits true wanted updates
  refine ⟨congrArg (Option.map Store.sizes) h.present, fun enough => ?_⟩
  have lived : Delivered settings wanted updates (service.run (startup ++ shutdown)) :=
    delivered_run enough (by decide) (by simp [startup]) (by simp [shutdown])
  refine ⟨lived.perm, lived.order, ?_, ?_⟩
  · exact delivered_run enough (by decide) (by simp [startup]) (by simp)
  · exact fun schedule calm started dropped settled =>
      delivered_follow enough calm started dropped settled

/-- The queue has a place for one job only, so the second update that resolves anything comes too
late; the first one has two records in it. The store may also be dropped before the worker has moved
at all, with a question to the service and some time in between. -/
theorem live_delivers_small_queue :
    let arguments :=
      ["--callback-queue-capacity=1", "--callback-workers", "1"].map Argument.ofText
    let environment := Environment.ofList [("SENSOR_CALLBACK_SEND_TIMEOUT_MS", "0")]
    let settings : Settings := { queueCapacity := 1, workers := 1, sendTimeout := 0 }
    let record (id : String) : Metadata := ⟨⟨"a"⟩, "pod", "app", ⟨id⟩⟩
    let report (ids : List String) : Mode × List Update :=
      (.incremental, [⟨⟨"a"⟩, some (.ofReports (ids.map fun id => .container ⟨id⟩ (record id)))⟩])
    let wanted : List ContainerId := [⟨"c"⟩, ⟨"d"⟩, ⟨"e"⟩]
    let updates := [report ["b"], report ["c", "d"], report ["e"]]
    let service := Service.fresh settings.limits true
    let schedule : List Event :=
      [.action .startDelivery, .action .dropStore, .move 0, .move 0, .move 0, .tick 7,
        .action .completion, .move 0, .move 0, .move 0]
    let after := (service.run (preparation wanted updates)).follow schedule
    Settings.parse arguments environment = .ok settings ∧
      LogFilter.check settings.logFilter = .ok () ∧ settings.limits.fits = true ∧
      build settings = .ok service ∧
      resolved wanted updates = [[record "c", record "d"], [record "e"]] ∧
      (kept settings wanted updates).length ≤ channelCapacity ∧
      (live service wanted updates).delivered = [record "c", record "d"] ∧
      Calm schedule ∧ after.delivery.Settled ∧ Delivered settings wanted updates after := by
  intro arguments environment settings record report wanted updates service schedule after
  have parsed : Settings.parse arguments environment = .ok settings := by
    decide +kernel +revert
  have readable : LogFilter.check settings.logFilter = .ok () := by
    decide +kernel +revert
  have fits : settings.limits.fits = true := by
    decide +kernel +revert
  have jobs : resolved wanted updates = [[record "c", record "d"], [record "e"]] := by
    decide +kernel +revert
  have settled : after.delivery.Settled := by
    decide +kernel +revert
  have first : kept settings wanted updates = [record "c", record "d"] := by
    rw [kept, jobs]
    rfl
  have enough : (kept settings wanted updates).length ≤ channelCapacity := by
    rw [first]
    decide
  have calm : ∀ action ∈ schedule.filterMap Event.action?, action.interferes = false := by
    decide
  have built := build_of_fits readable fits
  obtain ⟨built_service, same, lives⟩ :=
    live_delivers arguments environment settings parsed readable fits
  obtain rfl : built_service = service := Except.ok.inj (same.symm.trans built)
  obtain ⟨-, delivers⟩ := lives wanted updates
  obtain ⟨-, in_order, -, whenever⟩ := delivers enough
  have delivered := whenever schedule calm (by simp [schedule]) (by simp [schedule]) settled
  exact ⟨parsed, readable, fits, built, jobs, enough, (in_order (Nat.le_refl 1)).trans first, calm,
    settled, delivered⟩

end Boot

end Attribution
