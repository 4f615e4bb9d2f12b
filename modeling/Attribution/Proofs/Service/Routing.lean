import Attribution.Proofs.Service.Transit
import Attribution.Proofs.Store.Requests

/-!
# Records reach the channel that they were resolved for

What enters a channel was resolved while this very channel was registered, and it is the metadata
that was resolved then. Nothing that happens later sends it elsewhere: neither another
registration, nor a channel that is closed, nor the end of the store, nor the time that it spends
in the queue or with a worker. What is resolved while nothing is registered is reported as such and
enters no channel, and it is not resolved once more unless somebody asks again.

Records are counted with their repetitions: a record that was resolved for a channel twice can
enter it twice, and not a third time.
-/

namespace Attribution

namespace Notice

/-- The record had no channel, and this is what is reported; or it had one. -/
def WellAddressed (notice : Notice) : Prop :=
  notice.outcome = .unregistered ↔ notice.channel = none

theorem wellAddressed_of_channel {outcome : Outcome} (registered : outcome ≠ .unregistered)
    (record : Metadata) (channel : ChannelName) :
    (⟨outcome, record, some channel⟩ : Notice).WellAddressed :=
  ⟨fun unregistered => absurd unregistered registered, nofun⟩

end Notice

namespace Delivery

variable {delivery : Delivery}

theorem turnedAway_ne_unregistered : delivery.turnedAway ≠ .unregistered := by
  rw [turnedAway]
  split <;> decide

theorem wellAddressed_of_move {i : Nat} {move : Move} (possible : delivery.Possible i move) :
    ∀ notice ∈ move.notice?.toList, notice.WellAddressed := by
  intro notice there
  cases possible with
  | @conclude current outcome at_i met =>
    have reported := isOfSender_of_outcome? met
    cases List.mem_singleton.1 there
    exact Notice.wellAddressed_of_channel reported.ne_unregistered _ _
  | _ => cases there

theorem wellAddressed_of_proceeds {after : Delivery} {notices : List Notice}
    (by_itself : delivery.Proceeds notices after) : ∀ notice ∈ notices, notice.WellAddressed :=
  by_itself.forall_notices wellAddressed_of_move

end Delivery

namespace Service

variable {service : Service}

/-! ### Addresses of notices -/

theorem Dispatched.wellAddressed {resolved : List Metadata} {after : Delivery}
    {notices : List Notice} (dispatched : service.Dispatched resolved after notices) :
    ∀ notice ∈ notices, notice.WellAddressed := by
  intro notice there
  cases dispatched with
  | unaddressed none_meant =>
    obtain ⟨record, -, rfl⟩ := List.mem_map.1 there
    exact ⟨fun _ => rfl, fun _ => rfl⟩
  | queued registered some_resolved place => cases there
  | @turnedAway channel registered some_resolved no_place =>
    obtain ⟨record, -, rfl⟩ := List.mem_map.1 there
    exact Notice.wellAddressed_of_channel Delivery.turnedAway_ne_unregistered record channel

theorem wellAddressed_of_occur (event : Event) :
    ∀ notice ∈ (service.occur event).notices, notice.WellAddressed := by
  have impact := impact_occur service event
  generalize (service.occur event).service.delivery = after at impact
  generalize (service.occur event).notices = notices at impact ⊢
  intro notice there
  cases impact with
  | fed _ _ _ dispatched => exact dispatched.wellAddressed notice there
  | slept duration => exact Delivery.wellAddressed_of_proceeds (.advanceTo _ _) notice there
  | moved possible =>
    exact Delivery.wellAddressed_of_move (Delivery.possible_of_move? possible) notice there
  | _ => cases there

theorem wellAddressed_of_follow (schedule : List Event) :
    ∀ notice ∈ service.notices schedule, notice.WellAddressed := by
  intro notice there
  obtain ⟨first, event, later, -, noticed⟩ := exists_of_mem_notices there
  exact wellAddressed_of_occur event notice noticed

/-! ### What a channel receives -/

/-- The records that entered a channel over a schedule: those that left it again, and those that
are in it. -/
def received (service : Service) (schedule : List Event) (name : ChannelName) : List Metadata :=
  observed (departs name) service schedule ++ (service.follow schedule).delivery.inbox name

/-- The records that entered a channel over a run. -/
def receivedIn (service : Service) (actions : List Action) (name : ChannelName) : List Metadata :=
  observedIn (departs name) service actions ++ (service.run actions).delivery.inbox name

theorem Enacts.received {actions : List Action} {schedule : List Event}
    (enacts : service.Enacts actions schedule) (name : ChannelName) :
    service.received schedule name = service.receivedIn actions name := by
  rw [Service.received, receivedIn, enacts.observed (seesActions_departs name), enacts.follow]

theorem inbox_fresh (limits : Limits) (instrumented : Bool) (name : ChannelName) :
    (fresh limits instrumented).delivery.inbox name = [] := by
  simp [fresh, Delivery.inbox]

/-- What a channel receives is what is reported to have entered it, in the same order. -/
theorem entering_fresh (limits : Limits) (instrumented : Bool) (schedule : List Event)
    (name : ChannelName) :
    entering name ((fresh limits instrumented).notices schedule) =
      (fresh limits instrumented).received schedule name := by
  have law : (fresh limits instrumented).delivery.inbox name ++ _ = _ := inbox_follow schedule name
  rwa [inbox_fresh, List.nil_append] at law

/-! ### Routing -/

/-- What is posted over a schedule is reported, on its way or given up, with the address that it had
when it was posted. -/
def Accounted (service : Service) (schedule : List Event) : Prop :=
  (observed posts service schedule : Multiset Parcel) =
    ((service.notices schedule).map Notice.parcel : List Parcel) +
      (service.follow schedule).delivery.parcels + observed abandons service schedule

/-- After actions by which a container is reported and not asked for again, no update answers a
request for it. -/
def SpentRequests (actions : List Action) (store : Option Store) : Prop :=
  ∀ first mode updates later id, actions = first ++ .apply mode updates :: later →
    (∃ update ∈ updates, update.ReportsContainer id) → .want id ∉ later →
      ∀ last, store = some last → ∀ mode updates, ∃ ids,
        last.Answers updates (last.apply mode updates).store ids
          (last.apply mode updates).resolved ∧ id ∉ ids

/-- The records that the channels received over a schedule are records that were posted to them. -/
structure RoutedAlong (service : Service) (schedule : List Event) : Prop where
  accounted : service.Accounted schedule
  /-- What is resolved while no channel is registered is reported as unregistered, and only this. -/
  unaddressed :
    ((observed posts service schedule).filter (·.channel = none) : Multiset Parcel) =
      ((service.notices schedule).filter (·.outcome = .unregistered)).map Notice.parcel
  /-- What is reported to have entered a channel is what the channel received. -/
  reported (name : ChannelName) :
    entering name (service.notices schedule) = service.received schedule name
  /-- As often as a record entered a channel it was posted to it. -/
  addressed (name : ChannelName) :
    ((service.received schedule name).map (Parcel.addressed name) : Multiset Parcel) ≤
      observed posts service schedule
  /-- It was resolved by an update while the channel was registered. -/
  origin (name : ChannelName) (record : Metadata) : record ∈ service.received schedule name →
    ∃ first mode updates later store, schedule = first ++ .action (.apply mode updates) :: later ∧
      (service.follow first).registered = some name ∧
      (service.follow first).store = some store ∧ record ∈ (store.apply mode updates).resolved
  spent : SpentRequests (schedule.filterMap Event.action?) (service.follow schedule).store

/-- The records that the channels received over a run are records that were posted to them. -/
structure RoutedIn (service : Service) (actions : List Action) : Prop where
  addressed (name : ChannelName) :
    ((service.receivedIn actions name).map (Parcel.addressed name) : Multiset Parcel) ≤
      observedIn posts service actions
  origin (name : ChannelName) (record : Metadata) : record ∈ service.receivedIn actions name →
    ∃ first mode updates later store, actions = first ++ .apply mode updates :: later ∧
      (service.run first).registered = some name ∧
      (service.run first).store = some store ∧ record ∈ (store.apply mode updates).resolved
  spent : SpentRequests actions (service.run actions).store

theorem spentRequests_follow (limits : Limits) (instrumented : Bool) (schedule : List Event) :
    SpentRequests (schedule.filterMap Event.action?)
      ((fresh limits instrumented).follow schedule).store := by
  intro first mode updates later id split reported unasked last at_end mode' updates'
  have answers := Store.answers_apply last mode' updates'
  refine ⟨last.answered updates', answers, ?_⟩
  intro answered
  have open_request : id ∈ last.pending := ((answers.asked id).1 answered).1
  have history : last = Store.empty.afterAll (schedule.filterMap Event.action?) :=
    eq_afterAll_of_store_follow rfl at_end
  rw [history, Store.mem_pending_afterAll_empty, split] at open_request
  exact not_awaited_of_reported reported unasked open_request

theorem accounted_fresh (limits : Limits) (instrumented : Bool) (schedule : List Event) :
    (fresh limits instrumented).Accounted schedule := by
  have unmanned : (fresh limits instrumented).delivery.Unmanned := fun _ => rfl
  have law := coe_parcels_follow unmanned schedule
  have nothing : (fresh limits instrumented).delivery.parcels = [] := rfl
  rwa [nothing, Multiset.coe_nil, add_zero] at law

/-- Whatever is given up has an address. -/
theorem addressed_of_mem_abandoned (service : Service) (schedule : List Event) :
    ∀ parcel ∈ observed abandons service schedule,
      ∃ channel record, parcel = .addressed channel record := by
  intro parcel there
  obtain ⟨first, event, later, -, seen⟩ := exists_of_mem_observed there
  unfold abandons at seen
  split at seen
  · exact Delivery.addressed_of_mem_parcels _ parcel seen
  · cases seen

/-- What is on its way or given up has an address; so what is posted without one is reported. -/
theorem unaddressed_of_accounted {schedule : List Event}
    (accounted : service.Accounted schedule) :
    ((observed posts service schedule).filter (·.channel = none) : Multiset Parcel) =
      ((service.notices schedule).filter (·.outcome = .unregistered)).map Notice.parcel := by
  have on_its_way : (service.follow schedule).delivery.parcels.filter (·.channel = none) = [] :=
    Parcel.filter_none_eq_nil (Delivery.addressed_of_mem_parcels _)
  have given_up : (observed abandons service schedule).filter (·.channel = none) = [] :=
    Parcel.filter_none_eq_nil (addressed_of_mem_abandoned service schedule)
  have reported : ((service.notices schedule).map Notice.parcel).filter (·.channel = none) =
      ((service.notices schedule).filter (·.outcome = .unregistered)).map Notice.parcel := by
    rw [List.filter_map]
    refine congrArg (List.map Notice.parcel) (List.filter_congr fun notice there => ?_)
    exact decide_eq_decide.2 (wellAddressed_of_follow schedule notice there).symm
  have kept := congrArg (Multiset.filter (·.channel = none)) accounted
  simp only [Multiset.filter_add, Multiset.filter_coe, on_its_way, given_up, reported,
    Multiset.coe_nil, add_zero] at kept
  exact kept

/-- What is reported to have entered a channel was posted to it. -/
theorem addressed_of_accounted {schedule : List Event}
    (accounted : service.Accounted schedule) (name : ChannelName) :
    ((entering name (service.notices schedule)).map (Parcel.addressed name) : Multiset Parcel) ≤
      observed posts service schedule := by
  rw [map_addressed_entering, accounted, add_assoc]
  have among : (((service.notices schedule).filter fun notice =>
      notice.outcome = .delivered ∧ notice.channel = some name).map Notice.parcel).Subperm
        ((service.notices schedule).map Notice.parcel) :=
    (List.filter_sublist.map Notice.parcel).subperm
  exact (Multiset.coe_le.2 among).trans (Multiset.le_add_right _ _)

theorem mem_of_addressed {records : List Metadata} {posted : List Parcel} {name : ChannelName}
    {record : Metadata} (le : (records.map (Parcel.addressed name) : Multiset Parcel) ≤ posted)
    (there : record ∈ records) : Parcel.addressed name record ∈ posted := by
  have among : Parcel.addressed name record ∈ (records.map (Parcel.addressed name) : Multiset _) :=
    Multiset.mem_coe.2 (List.mem_map_of_mem there)
  exact Multiset.mem_coe.1 (Multiset.mem_of_le le among)

/-- A record that is posted to a channel was resolved while the channel was registered. -/
theorem registered_of_mem_posts {event : Event} {name : ChannelName} {record : Metadata}
    (posted : .addressed name record ∈ service.posts event) :
    ∃ mode updates store, event = .action (.apply mode updates) ∧
      service.registered = some name ∧ service.store = some store ∧
      record ∈ (store.apply mode updates).resolved := by
  obtain ⟨mode, updates, store, same, present, channel, resolved⟩ := mem_posts.1 posted
  exact ⟨mode, updates, store, same, channel.symm, present, resolved⟩

theorem routedAlong_fresh (limits : Limits) (instrumented : Bool) (schedule : List Event) :
    (fresh limits instrumented).RoutedAlong schedule := by
  have accounted := accounted_fresh limits instrumented schedule
  have reported := entering_fresh limits instrumented schedule
  have addressed := addressed_of_accounted accounted
  simp only [reported] at addressed
  refine ⟨accounted, unaddressed_of_accounted accounted, reported, addressed, ?_,
    spentRequests_follow limits instrumented schedule⟩
  intro name record there
  have posted := mem_of_addressed (addressed name) there
  obtain ⟨first, event, later, split, seen⟩ := exists_of_mem_observed posted
  obtain ⟨mode, updates, store, rfl, registered, present, resolved⟩ := registered_of_mem_posts seen
  exact ⟨first, mode, updates, later, store, split, registered, present, resolved⟩

theorem routedIn_fresh (limits : Limits) (instrumented : Bool) (actions : List Action) :
    (fresh limits instrumented).RoutedIn actions := by
  obtain ⟨schedule, enacts⟩ := exists_enacts (fresh limits instrumented) actions
  have addressed := (routedAlong_fresh limits instrumented schedule).addressed
  simp only [enacts.received, enacts.observed seesActions_posts] at addressed
  refine ⟨addressed, ?_, ?_⟩
  · intro name record there
    have posted := mem_of_addressed (addressed name) there
    obtain ⟨first, action, later, split, seen⟩ := exists_of_mem_observedIn posted
    obtain ⟨mode, updates, store, same, registered, present, resolved⟩ :=
      registered_of_mem_posts seen
    cases same
    exact ⟨first, mode, updates, later, store, split, registered, present, resolved⟩
  · obtain ⟨schedule, acts, followed⟩ := exists_schedule (fresh limits instrumented) actions
    have spent := spentRequests_follow limits instrumented schedule
    rwa [acts, followed] at spent

/-- Whatever is done to a service and whichever worker moves when, every record that enters a
channel was resolved for this channel; and so it is in every run. -/
theorem routed_follow (limits : Limits) (instrumented : Bool) :
    (∀ schedule : List Event, (fresh limits instrumented).RoutedAlong schedule) ∧
      ∀ actions : List Action, (fresh limits instrumented).RoutedIn actions :=
  ⟨routedAlong_fresh limits instrumented, routedIn_fresh limits instrumented⟩

/-- Another channel is registered while the job for the first one waits for a worker; the record
reaches the first one. -/
theorem routed_follow_registered_again :
    let told : Metadata := ⟨⟨"a"⟩, "pod", "app", ⟨"c"⟩⟩
    let batch := Batch.ofReports [.container ⟨"c"⟩ told]
    let schedule : List Event :=
      [.action (.register "first" (some 1)), .action (.want ⟨"c"⟩),
        .action (.apply .incremental [⟨⟨"a"⟩, some batch⟩]),
        .action (.register "second" (some 1)), .action .startDelivery, .move 0, .move 0, .move 0,
        .action (.drain "first" none)]
    let service := fresh { workers := 1 } false
    (service.follow schedule).registered = some "second" ∧
      service.received schedule "first" = [told] ∧ service.received schedule "second" = [] ∧
      service.RoutedAlong schedule := by
  intro told batch schedule service
  have registered : (service.follow schedule).registered = some "second" := by
    decide +kernel +revert
  have first : service.received schedule "first" = [told] := by decide +kernel +revert
  have second : service.received schedule "second" = [] := by decide +kernel +revert
  exact ⟨registered, first, second, (routed_follow { workers := 1 } false).1 schedule⟩

end Service

end Attribution
