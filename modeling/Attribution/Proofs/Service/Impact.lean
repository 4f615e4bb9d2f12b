import Attribution.Proofs.Service.Schedule
import Attribution.Proofs.Store.History

/-!
# What an event can do

To the delivery an event is one of a few things. An update hands over what it resolves, unless the
store is gone; the delivery may be given up; an action of another kind tends it from outside, if it
has to do with it at all; and the rest happens by itself, be it in the course of a sleep or by a
move or a tick of the clock. `Impact` lists these cases with the delivery and the notices after
each, and `impact_occur` says that there are no others. To the store an event is no more than its
action, which is `store_occur`.
-/

namespace Attribution

namespace Delivery

/-- What an action can do to a delivery that neither hands records over to it nor gives it up. -/
inductive Tended (delivery : Delivery) : Action → Delivery → Prop where
  | nothing (action : Action) : Tended delivery action delivery
  | start (unstarted : delivery.phase = .unstarted) :
      Tended delivery .startDelivery delivery.start
  | closeIntake : Tended delivery .dropStore delivery.closeIntake
  | addChannel {name : ChannelName} (new : name ∉ delivery.channels) (capacity : Nat) :
      Tended delivery (.register name (some capacity)) (delivery.addChannel name capacity)
  | drain {name : ChannelName} {channel : Channel} (found : delivery.channels[name]? = some channel)
      (limit : Option Nat) :
      Tended delivery (.drain name limit) (delivery.drain name channel limit).2
  | closeChannel {name : ChannelName} {channel : Channel}
      (found : delivery.channels[name]? = some channel) :
      Tended delivery (.close name) (delivery.closeChannel name channel)

end Delivery

namespace Service

/-- The delivery after resolved records are handed on, and the notices that come of it: the records
have no address, or make a job, which is queued or turned away. -/
inductive Dispatched (service : Service) (resolved : List Metadata) :
    Delivery → List Notice → Prop where
  | unaddressed (none_meant : resolved = [] ∨ service.registered = none) :
      Dispatched service resolved service.delivery
        (resolved.map fun record => ⟨.unregistered, record, none⟩)
  | queued {channel : ChannelName} (registered : service.registered = some channel)
      (some_resolved : resolved ≠ []) (place : service.delivery.HasPlace) :
      Dispatched service resolved (service.delivery.withJob ⟨channel, resolved⟩) []
  | turnedAway {channel : ChannelName} (registered : service.registered = some channel)
      (some_resolved : resolved ≠ []) (no_place : ¬ service.delivery.HasPlace) :
      Dispatched service resolved service.delivery
        (Job.notices ⟨channel, resolved⟩ service.delivery.turnedAway)

/-- The delivery after an event, and the notices that come of it. -/
inductive Impact (service : Service) : Event → Delivery → List Notice → Prop where
  | fed {store : Store} (present : service.store = some store) (mode : Mode)
      (updates : List Update) {after : Delivery} {notices : List Notice}
      (dispatched : service.Dispatched (store.apply mode updates).resolved after notices) :
      Impact service (.action (.apply mode updates)) after notices
  | unheard (absent : service.store = none) (mode : Mode) (updates : List Update) :
      Impact service (.action (.apply mode updates)) service.delivery []
  | stopped : Impact service (.action .stopDelivery) service.delivery.stop []
  | tended {action : Action} {after : Delivery}
      (no_update : ∀ mode updates, action ≠ .apply mode updates)
      (no_stop : action ≠ .stopDelivery) (tended : service.delivery.Tended action after) :
      Impact service (.action action) after []
  | slept (duration : Nat) :
      Impact service (.action (.sleep duration)) (service.delivery.sleep duration).1
        (service.delivery.sleep duration).2
  | moved {i : Nat} {move : Move} (possible : service.delivery.move? i = some move) :
      Impact service (.move i) (service.delivery.make i move) move.notice?.toList
  | stuck {i : Nat} (impossible : service.delivery.move? i = none) :
      Impact service (.move i) service.delivery []
  | ticked (time : Nat) : Impact service (.tick time) (service.delivery.setClock time) []

variable {service : Service} {action : Action}

/-! ### Records that are handed on -/

theorem dispatch_of_unregistered (unregistered : service.registered = none)
    (resolved : List Metadata) :
    service.dispatch resolved =
      (service.delivery, resolved.map fun record => ⟨.unregistered, record, none⟩) := by
  rw [dispatch]
  split
  · rename_i nothing
    rw [nothing]
    rfl
  · rw [unregistered]

theorem dispatch_of_registered {channel : ChannelName}
    (registered : service.registered = some channel) {resolved : List Metadata}
    (some_resolved : resolved ≠ []) :
    service.dispatch resolved = service.delivery.enqueue ⟨channel, resolved⟩ := by
  rw [dispatch, if_neg some_resolved, registered]

theorem dispatched (service : Service) (resolved : List Metadata) :
    service.Dispatched resolved (service.dispatch resolved).1 (service.dispatch resolved).2 := by
  cases registered : service.registered with
  | none =>
    rw [dispatch_of_unregistered registered]
    exact .unaddressed (.inr registered)
  | some channel =>
    by_cases nothing : resolved = []
    · subst nothing
      exact .unaddressed (.inl rfl)
    rw [dispatch_of_registered registered nothing]
    by_cases place : service.delivery.HasPlace
    · rw [Delivery.enqueue_of_hasPlace place]
      exact .queued registered nothing place
    · rw [Delivery.enqueue_of_not_hasPlace place]
      exact .turnedAway registered nothing place

/-! ### The delivery -/

/-- A reaction by which the action does no more than tend the delivery. -/
def Tends (service : Service) (action : Action) (reaction : Reaction) : Prop :=
  service.delivery.Tended action reaction.service.delivery ∧ reaction.notices = []

theorem tends_answering (answer : Answer) : service.Tends action (service.answering answer) :=
  ⟨.nothing action, rfl⟩

theorem tends_refuse (refusal : Refusal) : service.Tends action (service.refuse refusal) :=
  tends_answering _

theorem tends_withStore {use : Store → Reaction}
    (used : ∀ store, service.Tends action (use store)) :
    service.Tends action (service.withStore use) := by
  rw [withStore]
  split
  · exact used _
  · exact tends_refuse _

theorem tends_withMetrics (use : List OpenMetrics.Family → Answer) :
    service.Tends action (service.withMetrics use) := by
  rw [withMetrics]
  split
  · exact tends_answering _
  · exact tends_refuse _

theorem tends_respond (method target : String) :
    service.Tends action (service.respond method target) := by
  rw [respond]
  split
  · exact tends_refuse _
  · exact tends_withMetrics _

theorem tends_register (name : ChannelName) (capacity : Option Nat) :
    service.Tends (.register name capacity) (service.register name capacity) := by
  simp only [register]
  split
  · exact ⟨.nothing _, rfl⟩
  · rename_i unknown
    have new : name ∉ service.delivery.channels := by
      rwa [Delivery.hasChannel, Std.ExtTreeMap.contains_iff_mem] at unknown
    split
    · exact tends_refuse _
    · exact tends_refuse _
    · split
      · exact ⟨.addChannel new _, rfl⟩
      · exact tends_refuse _

/-- To take records out of a channel is refused, or there is a channel and its oldest records are
handed over. -/
theorem perform_drain (service : Service) (name : ChannelName) (limit : Option Nat) :
    (∃ refusal, service.perform (.drain name limit) = service.refuse refusal) ∨
      ∃ channel, service.delivery.channels[name]? = some channel ∧
        service.perform (.drain name limit) =
          { service :=
              { service with delivery := (service.delivery.drain name channel limit).2 }
            answer := .records (service.delivery.drain name channel limit).1 } := by
  simp only [perform, withChannel]
  split
  · rename_i channel found
    rw [drain]
    split
    · exact .inr ⟨channel, found, rfl⟩
    · exact .inl ⟨_, rfl⟩
  · exact .inl ⟨_, rfl⟩

/-- To close a channel is refused where there is none. -/
theorem perform_close (service : Service) (name : ChannelName) :
    (service.delivery.channels[name]? = none ∧
        service.perform (.close name) = service.refuse .unknownChannel) ∨
      ∃ channel, service.delivery.channels[name]? = some channel ∧
        service.perform (.close name) =
          { service with
            delivery := service.delivery.closeChannel name channel }.answering
              (.flag channel.isOpen) := by
  simp only [perform, withChannel]
  split
  · rename_i channel found
    exact .inr ⟨channel, found, rfl⟩
  · rename_i unknown
    exact .inl ⟨unknown, rfl⟩

theorem tends_drain (name : ChannelName) (limit : Option Nat) :
    service.Tends (.drain name limit) (service.perform (.drain name limit)) := by
  rcases perform_drain service name limit with ⟨refusal, refused⟩ | ⟨channel, found, drained⟩
  · rw [refused]
    exact tends_refuse refusal
  · rw [drained]
    exact ⟨.drain found limit, rfl⟩

theorem tends_close (name : ChannelName) :
    service.Tends (.close name) (service.perform (.close name)) := by
  rcases perform_close service name with ⟨-, refused⟩ | ⟨channel, found, closed⟩
  · rw [refused]
    exact tends_refuse .unknownChannel
  · rw [closed]
    exact ⟨.closeChannel found, rfl⟩

theorem tends_start : service.Tends .startDelivery (service.perform .startDelivery) := by
  rw [perform]
  split
  · rename_i unstarted
    exact ⟨.start unstarted, rfl⟩
  · exact tends_refuse _

/-- Apart from updates, sleeps and the end of the delivery an action tends the delivery. -/
theorem tends_perform (no_update : ∀ mode updates, action ≠ .apply mode updates)
    (no_stop : action ≠ .stopDelivery) (no_sleep : ∀ duration, action ≠ .sleep duration) :
    service.Tends action (service.perform action) := by
  cases action with
  | apply mode updates => exact absurd rfl (no_update mode updates)
  | lookup endpoint => exact tends_withStore fun store => tends_answering _
  | container id => exact tends_withStore fun store => tends_answering _
  | want id => exact tends_withStore fun store => ⟨.nothing _, rfl⟩
  | register name capacity => exact tends_withStore fun store => tends_register name capacity
  | unregister => exact tends_withStore fun store => ⟨.nothing _, rfl⟩
  | close name => exact tends_close name
  | drain name limit => exact tends_drain name limit
  | startDelivery => exact tends_start
  | stopDelivery => exact absurd rfl no_stop
  | completion => exact tends_answering _
  | sleep duration => exact absurd rfl (no_sleep duration)
  | dropStore => exact tends_withStore fun store => ⟨.closeIntake, rfl⟩
  | metrics => exact tends_withMetrics _
  | samples => exact tends_withMetrics _
  | setReady value => exact ⟨.nothing _, rfl⟩
  | request method target => exact tends_respond method target

theorem impact_apply (mode : Mode) (updates : List Update) :
    service.Impact (.action (.apply mode updates))
      (service.perform (.apply mode updates)).service.delivery
      (service.perform (.apply mode updates)).notices := by
  cases present : service.store with
  | none =>
    simp only [perform, withStore, present]
    exact .unheard present mode updates
  | some store =>
    simp only [perform, withStore, present]
    exact .fed present mode updates (dispatched service _)

theorem impact_perform (service : Service) (action : Action) :
    service.Impact (.action action) (service.perform action).service.delivery
      (service.perform action).notices := by
  by_cases update : ∃ mode updates, action = .apply mode updates
  · obtain ⟨mode, updates, rfl⟩ := update
    exact impact_apply mode updates
  by_cases sleep : ∃ duration, action = .sleep duration
  · obtain ⟨duration, rfl⟩ := sleep
    exact .slept duration
  by_cases stop : action = .stopDelivery
  · subst stop
    exact .stopped
  have no_update : ∀ mode updates, action ≠ .apply mode updates :=
    fun mode updates same => update ⟨mode, updates, same⟩
  have no_sleep : ∀ duration, action ≠ .sleep duration :=
    fun duration same => sleep ⟨duration, same⟩
  obtain ⟨tended, silent⟩ : service.Tends action (service.perform action) :=
    tends_perform no_update stop no_sleep
  rw [silent]
  exact .tended no_update stop tended

/-- Whatever happens has one of these impacts. -/
theorem impact_occur (service : Service) (event : Event) :
    service.Impact event (service.occur event).service.delivery (service.occur event).notices := by
  cases event with
  | action action => exact impact_perform service action
  | move i =>
    simp only [occur]
    split
    · rename_i move possible
      exact .moved possible
    · rename_i impossible
      exact .stuck impossible
  | tick time => exact .ticked time

/-! ### The store -/

theorem store_occur (service : Service) {event : Event} (kept : event ≠ .action .dropStore) :
    (service.occur event).service.store =
      service.store.map (Store.afterAll · event.action?.toList) := by
  cases event with
  | action action =>
    have kept : action ≠ .dropStore := fun same => kept (congrArg Event.action same)
    exact store_perform service kept
  | move worker =>
    simp only [occur]
    split <;> exact Option.map_id'.symm
  | tick time => exact Option.map_id'.symm

/-- The store at the end of a schedule that does not drop it. -/
theorem store_follow {service : Service} {store : Store} (present : service.store = some store)
    {schedule : List Event} (kept : .action .dropStore ∉ schedule) :
    (service.follow schedule).store =
      some (store.afterAll (schedule.filterMap Event.action?)) := by
  induction schedule generalizing service store with
  | nil => exact present
  | cons event more ih =>
    obtain ⟨first, later⟩ := not_or.1 (mt List.mem_cons.2 kept)
    have next : (service.occur event).service.store =
        some (store.afterAll event.action?.toList) := by
      rw [store_occur service (Ne.symm first), present]
      rfl
    rw [follow_cons, ih next later, Store.afterAll, Store.afterAll, Store.afterAll,
      ← List.foldl_append, List.filterMap_cons]
    cases event.action? <;> rfl

/-- A store that was dropped does not come back. -/
theorem store_follow_none {service : Service} (absent : service.store = none)
    (schedule : List Event) : (service.follow schedule).store = none := by
  induction schedule generalizing service with
  | nil => exact absent
  | cons event more ih =>
    rw [follow_cons]
    apply ih
    by_cases dropped : event = .action .dropStore
    · subst dropped
      simp only [occur, perform, withStore, absent]
      exact absent
    · rw [store_occur service dropped, absent]
      rfl

theorem store_occur_dropStore (service : Service) :
    (service.occur (.action .dropStore)).service.store = none := by
  cases present : service.store with
  | none =>
    simp only [occur, perform, withStore, present]
    exact present
  | some store => simp only [occur, perform, withStore, present, answering]

theorem store_follow_of_dropped {service : Service} {schedule : List Event}
    (dropped : .action .dropStore ∈ schedule) : (service.follow schedule).store = none := by
  obtain ⟨first, later, rfl⟩ := List.append_of_mem dropped
  rw [follow_append, follow_cons]
  exact store_follow_none (store_occur_dropStore _) later

/-- The store that is there at the end of a schedule is what its actions made of the first one. -/
theorem eq_afterAll_of_store_follow {service : Service} {store last : Store}
    (present : service.store = some store) {schedule : List Event}
    (at_end : (service.follow schedule).store = some last) :
    last = store.afterAll (schedule.filterMap Event.action?) := by
  by_cases kept : .action .dropStore ∉ schedule
  · rw [store_follow present kept] at at_end
    exact (Option.some.inj at_end).symm
  · rw [store_follow_of_dropped (not_not.1 kept)] at at_end
    cases at_end

end Service

end Attribution
