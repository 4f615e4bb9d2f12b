import Attribution.Proofs.Delivery.Ease
import Attribution.Proofs.Service.Completion
import Attribution.Proofs.Service.Observation

/-!
# How many workers there are

Several workers send the records of several jobs at the same time, and which of them takes which job
depends on who moves first. As long as no worker has to wait on a full channel this does not matter.
The queue is worked off between any two actions then, so that each job finds the same room in it
whoever takes it, and a record's fate depends on its channel alone. What may differ is the order in
which records enter a channel, and so which of them its receiver takes out first.

The proof follows two services through two schedules with the same actions. What the workers do
between two actions is not compared move by move: the one thing that is needed of it is where it
ends, with nobody holding a record.
-/

namespace Attribution

theorem Counters.noted_perm {notices other : List Notice} (perm : notices.Perm other)
    (counters : Counters) : counters.noted notices = counters.noted other := by
  have either_first (tally : Tally) (one other : Outcome) :
      (tally.add one).add other = (tally.add other).add one := by
    cases one <;> cases other <;> rfl
  have same : counters.outcomes.addAll notices = counters.outcomes.addAll other :=
    perm.foldl_eq' (fun one _ other _ tally => either_first tally one.outcome other.outcome) _
  rw [noted, noted, same]

/-! ### Services that are alike -/

/-- The services agree about the store and what is registered and counted, and their deliveries are
alike. -/
structure Service.Alike (one other : Service) : Prop where
  store : one.store = other.store
  registered : one.registered = other.registered
  counters : one.counters = other.counters
  delivery : one.delivery.Alike other.delivery

/-- The reactions lead to services that are alike, with the same reports. -/
structure Reaction.Alike (one other : Reaction) : Prop where
  service : one.service.Alike other.service
  notices : one.notices = other.notices

namespace Service

namespace Alike

variable {one other : Service}

theorem answering (alike : one.Alike other) (answer answer' : Answer) :
    (one.answering answer).Alike (other.answering answer') :=
  ⟨alike, rfl⟩

theorem withStore (alike : one.Alike other) {use use' : Store → Reaction}
    (used : ∀ store, (use store).Alike (use' store)) :
    (one.withStore use).Alike (other.withStore use') := by
  rw [Service.withStore, Service.withStore, alike.store]
  split
  · exact used _
  · exact alike.answering _ _

theorem withChannel (alike : one.Alike other) (name : ChannelName)
    {use use' : Channel → Reaction}
    (used : ∀ channel channel', channel.isOpen = channel'.isOpen →
      channel.contents.length = channel'.contents.length → (use channel).Alike (use' channel')) :
    (one.withChannel name use).Alike (other.withChannel name use') := by
  have opened := alike.delivery.isOpen? name
  have length := alike.delivery.length_inbox name
  rw [Delivery.isOpen?, Delivery.isOpen?] at opened
  rw [Delivery.inbox, Delivery.inbox] at length
  rw [Service.withChannel, Service.withChannel]
  cases found : one.delivery.channels[name]? with
  | none =>
    rw [found, Option.map_none, eq_comm, Option.map_eq_none_iff] at opened
    rw [opened]
    exact alike.answering _ _
  | some channel =>
    rw [found, Option.map_some, eq_comm, Option.map_eq_some_iff] at opened
    obtain ⟨channel', found', opened⟩ := opened
    rw [found, found'] at length
    rw [found']
    exact used channel channel' opened.symm length

theorem withMetrics (alike : one.Alike other) (use use' : List OpenMetrics.Family → Answer) :
    (one.withMetrics use).Alike (other.withMetrics use') := by
  rw [Service.withMetrics, Service.withMetrics]
  cases one.families? <;> cases other.families? <;> exact alike.answering _ _

theorem respond (alike : one.Alike other) (method target : String) :
    (one.respond method target).Alike (other.respond method target) := by
  rw [Service.respond, Service.respond]
  split
  · exact alike.answering _ _
  · exact alike.withMetrics _ _

theorem withDelivery (alike : one.Alike other) {delivery delivery' : Delivery}
    (still : delivery.Alike delivery') :
    Service.Alike { one with delivery := delivery } { other with delivery := delivery' } :=
  ⟨alike.store, alike.registered, alike.counters, still⟩

theorem setRegistered (alike : one.Alike other) (channel : Option ChannelName) :
    (one.setRegistered channel).Alike (other.setRegistered channel) :=
  ⟨⟨alike.store, rfl, alike.counters, alike.delivery⟩, rfl⟩

theorem register (alike : one.Alike other) (name : ChannelName) (capacity : Option Nat) :
    (one.register name capacity).Alike (other.register name capacity) := by
  have known : one.delivery.hasChannel name = other.delivery.hasChannel name := by
    rw [Delivery.hasChannel_eq, Delivery.hasChannel_eq, alike.delivery.isOpen?]
  unfold Service.register
  rw [known]
  split
  · exact alike.setRegistered _
  · split
    · exact alike.answering _ _
    · exact alike.answering _ _
    · split
      · exact (alike.withDelivery (alike.delivery.insert name rfl rfl)).setRegistered _
      · exact alike.answering _ _

theorem drain (alike : one.Alike other) (name : ChannelName) (limit : Option Nat)
    {channel channel' : Channel} (opened : channel.isOpen = channel'.isOpen)
    (length : channel.contents.length = channel'.contents.length) :
    (one.drain name channel limit).Alike (other.drain name channel' limit) := by
  rw [Service.drain, Service.drain, opened]
  split
  · have left : (channel.drop (limit.getD channel.contents.length)).contents.length =
        (channel'.drop (limit.getD channel'.contents.length)).contents.length := by
      simp only [Channel.drop, List.length_drop, length]
    exact ⟨alike.withDelivery (alike.delivery.insert name opened left), rfl⟩
  · exact alike.answering _ _

theorem dispatch (alike : one.Alike other) (resolved : List Metadata) :
    (one.dispatch resolved).1.Alike (other.dispatch resolved).1 ∧
      (one.dispatch resolved).2 = (other.dispatch resolved).2 := by
  rw [Service.dispatch, Service.dispatch, alike.registered]
  split
  · exact ⟨alike.delivery, rfl⟩
  · split
    · exact alike.delivery.enqueue _
    · exact ⟨alike.delivery, rfl⟩

theorem applyUpdates (alike : one.Alike other) (store : Store) (mode : Mode)
    (updates : List Update) :
    (one.applyUpdates store mode updates).Alike (other.applyUpdates store mode updates) := by
  obtain ⟨handed_on, reported⟩ := alike.dispatch (store.apply mode updates).resolved
  have counted : one.counters.applied mode (store.apply mode updates).purged =
      other.counters.applied mode (store.apply mode updates).purged := by rw [alike.counters]
  exact ⟨⟨rfl, alike.registered, counted, handed_on⟩, reported⟩

/-- Services that are alike react alike. -/
theorem perform (alike : one.Alike other) (action : Action) :
    (one.perform action).Alike (other.perform action) := by
  cases action with
  | apply mode updates =>
    exact alike.withStore fun store => alike.applyUpdates store mode updates
  | lookup endpoint => exact alike.withStore fun store => alike.answering _ _
  | container id => exact alike.withStore fun store => alike.answering _ _
  | want id =>
    exact alike.withStore fun store =>
      ⟨⟨rfl, alike.registered, alike.counters, alike.delivery⟩, rfl⟩
  | register name capacity => exact alike.withStore fun _ => alike.register name capacity
  | unregister => exact alike.withStore fun _ => alike.setRegistered none
  | close name =>
    refine alike.withChannel name fun channel channel' _ _ => ?_
    have closed : (one.delivery.closeChannel name channel).Alike
        (other.delivery.closeChannel name channel') := alike.delivery.insert name rfl rfl
    exact (alike.withDelivery closed).answering _ _
  | drain name limit =>
    exact alike.withChannel name fun channel channel' opened length =>
      alike.drain name limit opened length
  | startDelivery =>
    simp only [Service.perform, alike.delivery.phase]
    split
    · exact (alike.withDelivery alike.delivery.start).answering _ _
    · exact alike.answering _ _
  | stopDelivery => exact (alike.withDelivery alike.delivery.stop).answering _ _
  | completion => exact alike.answering _ _
  | sleep duration =>
    obtain ⟨slept, reported⟩ := alike.delivery.sleep duration
    exact ⟨alike.withDelivery slept, reported⟩
  | dropStore =>
    exact alike.withStore fun _ =>
      ⟨⟨rfl, alike.registered, alike.counters, alike.delivery.closeIntake⟩, rfl⟩
  | metrics | samples => exact alike.withMetrics _ _
  | request method target => exact alike.respond method target
  | setReady value => exact ⟨⟨alike.store, alike.registered, alike.counters, alike.delivery⟩, rfl⟩

theorem occur_action (alike : one.Alike other) (action : Action) :
    (one.occur (.action action)).service.Alike (other.occur (.action action)).service ∧
      (one.occur (.action action)).notices = (other.occur (.action action)).notices := by
  obtain ⟨⟨store, registered, counters, delivery⟩, reported⟩ := alike.perform action
  have counted : (one.occur (.action action)).service.counters =
      (other.occur (.action action)).service.counters := by
    simp only [occur, counters, reported]
  exact ⟨⟨store, registered, counted, delivery⟩, reported⟩

end Alike

/-! ### Schedules without waiting -/

variable {service : Service}

/-- No worker ever has to wait on a full channel in the course of a schedule. Whenever an action
comes, and at the end, the workers have done all that they can, and none is left holding a record;
and no record is given up for want of room, not even where the timeout leaves no time to wait. -/
def Unhindered (service : Service) : List Event → Prop
  | [] => service.delivery.AtEase
  | event :: more =>
    (event.action?.isSome → service.delivery.AtEase) ∧ InTime (service.occur event).notices ∧
      (service.occur event).service.Unhindered more

instance decidableUnhindered (service : Service) :
    (schedule : List Event) → Decidable (service.Unhindered schedule)
  | [] => inferInstanceAs (Decidable service.delivery.AtEase)
  | event :: more =>
    have := decidableUnhindered (service.occur event).service more
    inferInstanceAs (Decidable (_ ∧ _ ∧ _))

theorem Unhindered.append {first later : List Event} (h : service.Unhindered (first ++ later)) :
    InTime (service.notices first) ∧ (service.follow first).Unhindered later := by
  induction first generalizing service with
  | nil => exact ⟨fun notice there => absurd there List.not_mem_nil, h⟩
  | cons event more ih =>
    obtain ⟨-, now, rest⟩ := h
    obtain ⟨afterwards, unhindered⟩ := ih rest
    exact ⟨inTime_append.2 ⟨now, afterwards⟩, unhindered⟩

theorem Unhindered.inTime {schedule : List Event} (h : service.Unhindered schedule) :
    InTime (service.notices schedule) := by
  rw [← List.append_nil schedule] at h
  exact h.append.1

theorem Unhindered.atEase {schedule : List Event} (h : service.Unhindered schedule) :
    (service.follow schedule).delivery.AtEase := by
  rw [← List.append_nil schedule] at h
  exact h.append.2

/-- Between actions it is enough that no record is given up. -/
theorem unhindered_of_silent {first later : List Event}
    (silent : first.filterMap Event.action? = []) (in_time : InTime (service.notices first))
    (h : (service.follow first).Unhindered later) : service.Unhindered (first ++ later) := by
  induction first generalizing service with
  | nil => exact h
  | cons event more ih =>
    obtain ⟨now, afterwards⟩ := inTime_append.1 in_time
    obtain ⟨no_action, silent_then⟩ :
        event.action? = none ∧ more.filterMap Event.action? = [] := by
      simpa [List.filterMap_eq_nil_iff] using silent
    exact ⟨fun acts => by simp [no_action] at acts, now, ih silent_then afterwards h⟩

/-- What happens without an action happens by itself. -/
theorem proceeds_of_silent {schedule : List Event}
    (silent : schedule.filterMap Event.action? = []) :
    service.delivery.Proceeds (service.notices schedule) (service.follow schedule).delivery ∧
      service.follow schedule =
        { service with
          delivery := (service.follow schedule).delivery
          counters := service.counters.noted (service.notices schedule) } := by
  induction schedule generalizing service with
  | nil => exact ⟨.rest _, rfl⟩
  | cons event more ih =>
    cases event with
    | action action => cases silent
    | move i =>
      obtain ⟨by_itself, rest⟩ := @ih (service.occur (.move i)).service silent
      cases found : service.delivery.move? i with
      | none =>
        have still : service.occur (.move i) = service.answering .done := by
          simp only [occur, found]
        rw [notices, follow_cons, still]
        rw [still] at by_itself rest
        exact ⟨by_itself, rest⟩
      | some move =>
        have moved : service.occur (.move i) =
            { service :=
                { service with
                  delivery := service.delivery.make i move
                  counters := service.counters.noted move.notice?.toList }
              answer := .done
              notices := move.notice?.toList } := by
          simp only [occur, found]
        rw [notices, follow_cons, moved, Counters.noted_append]
        rw [moved] at by_itself rest
        exact ⟨.move found by_itself, rest⟩
    | tick time =>
      obtain ⟨by_itself, rest⟩ := @ih (service.occur (.tick time)).service silent
      exact ⟨.tick time by_itself, rest⟩

/-- Both work off what is queued, whoever moves when. -/
theorem Alike.follow_silent {one other : Service} {limits limits' : Limits}
    (alike : one.Alike other) (orderly : one.Orderly limits) (orderly' : other.Orderly limits')
    {schedule schedule' : List Event} (silent : schedule.filterMap Event.action? = [])
    (silent' : schedule'.filterMap Event.action? = [])
    (at_ease : (one.follow schedule).delivery.AtEase)
    (at_ease' : (other.follow schedule').delivery.AtEase)
    (in_time : InTime (one.notices schedule)) (in_time' : InTime (other.notices schedule')) :
    (one.follow schedule).Alike (other.follow schedule') ∧
      (one.notices schedule).Perm (other.notices schedule') := by
  obtain ⟨by_itself, rest⟩ := @proceeds_of_silent one _ silent
  obtain ⟨by_itself', rest'⟩ := @proceeds_of_silent other _ silent'
  obtain ⟨delivery, perm⟩ := alike.delivery.proceeds orderly.delivery orderly'.delivery by_itself
    by_itself' at_ease at_ease' in_time in_time'
  have counters : one.counters.noted (one.notices schedule) =
      other.counters.noted (other.notices schedule') := by
    rw [alike.counters, Counters.noted_perm perm]
  refine ⟨?_, perm⟩
  rw [rest, rest']
  exact ⟨alike.store, alike.registered, counters, delivery⟩

/-- A schedule in front of its first action, and behind it. -/
theorem exists_first_action {schedule : List Event} {action : Action} {more : List Action}
    (acts : schedule.filterMap Event.action? = action :: more) :
    ∃ first later, schedule = first ++ .action action :: later ∧
      first.filterMap Event.action? = [] ∧ later.filterMap Event.action? = more := by
  obtain ⟨first, event, later, rfl, silent, acts, rest⟩ := List.filterMap_eq_cons_iff.1 acts
  cases event with
  | action given =>
    cases acts
    exact ⟨first, later, rfl, List.filterMap_eq_nil_iff.2 silent, rest⟩
  | _ => cases acts

/-- Services that are alike stay so if they are used in the same way and nobody has to wait. -/
theorem Alike.follow {one other : Service} {limits limits' : Limits} (alike : one.Alike other)
    (orderly : one.Orderly limits) (orderly' : other.Orderly limits')
    {actions : List Action} {schedule schedule' : List Event}
    (acts : schedule.filterMap Event.action? = actions)
    (acts' : schedule'.filterMap Event.action? = actions)
    (unhindered : one.Unhindered schedule) (unhindered' : other.Unhindered schedule') :
    (one.follow schedule).Alike (other.follow schedule') ∧
      (one.notices schedule).Perm (other.notices schedule') := by
  induction actions generalizing one other schedule schedule' with
  | nil =>
    exact alike.follow_silent orderly orderly' acts acts' unhindered.atEase unhindered'.atEase
      unhindered.inTime unhindered'.inTime
  | cons action more ih =>
    -- what happens before the action, the action, and the rest
    obtain ⟨first, later, rfl, silent, acts⟩ := exists_first_action acts
    obtain ⟨first', later', rfl, silent', acts'⟩ := exists_first_action acts'
    obtain ⟨in_time, at_ease, -, rest⟩ := unhindered.append
    obtain ⟨in_time', at_ease', -, rest'⟩ := unhindered'.append
    obtain ⟨alike, before⟩ := alike.follow_silent orderly orderly' silent silent' (at_ease rfl)
      (at_ease' rfl) in_time in_time'
    obtain ⟨alike, acted⟩ := alike.occur_action action
    obtain ⟨alike, after⟩ := ih alike ((orderly.follow first).follow [.action action])
      ((orderly'.follow first').follow [.action action]) acts acts' rest rest'
    rw [follow_append, follow_append, notices_append, notices_append]
    exact ⟨alike, before.append ((List.Perm.of_eq acted).append after)⟩

/-! ### The number of workers -/

/-- What is seen of two services after the given reports: the counters and the sizes, how many
records each channel holds and which have ever entered it, and whether the delivery is over. -/
structure Agrees (one other : Service) (notices notices' : List Notice) : Prop where
  counters : one.counters = other.counters
  sizes : one.sizes? = other.sizes?
  length_inbox (name : ChannelName) :
    (one.delivery.inbox name).length = (other.delivery.inbox name).length
  entered (name : ChannelName) :
    (entering name notices : Multiset Metadata) = (entering name notices' : Multiset Metadata)
  completed : one.delivery.completed? = other.delivery.completed?

/-- At ease a running delivery is over exactly if no more jobs are to come. -/
theorem completed?_of_atEase {limits : Limits} (h : service.Orderly limits)
    (at_ease : service.delivery.AtEase) :
    service.delivery.completed? =
      if service.delivery.phase = .running then some (!service.delivery.accepting) else none := by
  rw [Delivery.completed?]
  split
  · rename_i running
    refine congrArg some ?_
    cases accepting : service.delivery.accepting with
    | true =>
      have manned := h.delivery.size_pos running
      have there := Array.getElem_mem manned
      have stays : service.delivery.workers[0] ≠ .ended := by
        intro gone
        have closed := (h.delivery.gone (gone ▸ there)).2
        rw [accepting] at closed
        cases closed
      rw [Bool.not_true, Bool.eq_false_iff]
      exact fun all => stays (of_decide_eq_true (Array.all_eq_true'.1 all _ there))
    | false =>
      have queue := at_ease.queue_eq_nil h.delivery running
      have deserted := at_ease.settled.deserted queue accepting at_ease.idle.outstanding_eq_nil
      exact Array.all_eq_true'.2 fun worker there => decide_eq_true (deserted worker there)
  · rfl

theorem Alike.agrees {one other : Service} {limits limits' : Limits} (alike : one.Alike other)
    (orderly : one.Orderly limits) (orderly' : other.Orderly limits')
    (at_ease : one.delivery.AtEase) (at_ease' : other.delivery.AtEase)
    {notices notices' : List Notice} (perm : notices.Perm notices') :
    one.Agrees other notices notices' where
  counters := alike.counters
  sizes := by rw [sizes?, sizes?, alike.store]
  length_inbox := alike.delivery.length_inbox
  entered name := Multiset.coe_eq_coe.2 (perm_entering perm name)
  completed := by
    rw [completed?_of_atEase orderly at_ease, completed?_of_atEase orderly' at_ease',
      alike.delivery.phase, alike.delivery.accepting]

/-- No worker ever has to wait on a full channel in the course of a run: none is left holding a
record after any action, and no record is given up for want of room. -/
def RunsUnhindered (service : Service) : List Action → Prop
  | [] => service.delivery.Idle
  | action :: more =>
    service.delivery.Idle ∧ InTime (service.step action).notices ∧
      (service.step action).service.RunsUnhindered more

instance decidableRunsUnhindered (service : Service) :
    (actions : List Action) → Decidable (service.RunsUnhindered actions)
  | [] => inferInstanceAs (Decidable service.delivery.Idle)
  | action :: more =>
    have := decidableRunsUnhindered (service.step action).service more
    inferInstanceAs (Decidable (_ ∧ _ ∧ _))

theorem RunsUnhindered.of_append {first later : List Action}
    (h : service.RunsUnhindered (first ++ later)) : service.RunsUnhindered first := by
  induction first generalizing service with
  | nil =>
    cases later with
    | nil => exact h
    | cons action more => exact h.1
  | cons action more ih => exact ⟨h.1, h.2.1, ih h.2.2⟩

/-- A run without waiting is a schedule without waiting. -/
theorem exists_unhindered {actions : List Action} (settled : service.delivery.Settled)
    (h : service.RunsUnhindered actions) :
    ∃ schedule : List Event, schedule.filterMap Event.action? = actions ∧
      service.follow schedule = service.run actions ∧
      service.notices schedule = service.reports actions ∧ service.Unhindered schedule := by
  induction actions generalizing service with
  | nil => exact ⟨[], rfl, rfl, rfl, settled, h⟩
  | cons action more ih =>
    obtain ⟨idle, in_time, rest⟩ := h
    obtain ⟨moves, silent, stepped, noticed⟩ := service.exists_schedule_step action
    obtain ⟨later, acts, followed, reported, unhindered⟩ := ih (settled_step service action) rest
    rw [← noticed] at in_time
    obtain ⟨now, afterwards⟩ := inTime_append.1 in_time
    rw [← stepped] at followed reported unhindered
    refine ⟨.action action :: (moves ++ later), ?_, ?_, ?_, ?_⟩
    · rw [List.filterMap_cons, List.filterMap_append, silent, acts]
      rfl
    · rw [← List.cons_append, follow_append, followed, stepped, run_cons]
    · rw [← List.cons_append, notices_append, noticed, reported, stepped, reports]
    · exact ⟨fun _ => ⟨settled, idle⟩, now, unhindered_of_silent silent afterwards unhindered⟩

theorem alike_fresh (limits : Limits) (workers workers' : Nat) (instrumented : Bool) :
    (fresh { limits with workers := workers } instrumented).Alike
      (fresh { limits with workers := workers' } instrumented) :=
  ⟨rfl, rfl, rfl, rfl, rfl, rfl, rfl, fun _ => rfl, fun _ => rfl,
    fun worker there => absurd there (Array.not_mem_empty worker),
    fun worker there => absurd there (Array.not_mem_empty worker)⟩

/-- The number of workers only matters where a channel is full. Two services that differ in nothing
else and are used in the same way cannot be told apart as long as no worker of either has to wait:
whichever workers move when between the actions, provided that they do all that they can, and after
every action of a run. It makes no difference when the delivery is started, what finds no place in
the queue before, and which channels are closed or drained meanwhile. -/
theorem agrees_follow (limits : Limits) (workers workers' : Nat) (instrumented : Bool) :
    let one := fresh { limits with workers := workers } instrumented
    let other := fresh { limits with workers := workers' } instrumented
    (∀ schedule schedule' : List Event,
      schedule.filterMap Event.action? = schedule'.filterMap Event.action? →
      one.Unhindered schedule → other.Unhindered schedule' →
        (one.follow schedule).Agrees (other.follow schedule') (one.notices schedule)
          (other.notices schedule')) ∧
    ∀ actions : List Action, one.RunsUnhindered actions → other.RunsUnhindered actions →
      ∀ first, first <+: actions →
        (one.run first).Agrees (other.run first) (one.reports first) (other.reports first) := by
  intro one other
  have orderly : one.Orderly { limits with workers := workers } := orderly_fresh _ _
  have orderly' : other.Orderly { limits with workers := workers' } := orderly_fresh _ _
  have schedules (schedule schedule' : List Event)
      (same : schedule.filterMap Event.action? = schedule'.filterMap Event.action?)
      (h : one.Unhindered schedule) (h' : other.Unhindered schedule') :
      (one.follow schedule).Agrees (other.follow schedule') (one.notices schedule)
        (other.notices schedule') := by
    obtain ⟨alike, perm⟩ := (alike_fresh limits workers workers' instrumented).follow orderly
      orderly' same rfl h h'
    exact alike.agrees (orderly.follow schedule) (orderly'.follow schedule') h.atEase h'.atEase perm
  refine ⟨schedules, ?_⟩
  rintro _ h h' first ⟨later, rfl⟩
  obtain ⟨schedule, acts, followed, reported, unhindered⟩ :=
    exists_unhindered (settled_fresh _ instrumented) h.of_append
  obtain ⟨schedule', acts', followed', reported', unhindered'⟩ :=
    exists_unhindered (settled_fresh _ instrumented) h'.of_append
  rw [← followed, ← followed', ← reported, ← reported']
  exact schedules schedule schedule' (acts.trans acts'.symm) unhindered unhindered'

/-- Three records are resolved before the delivery is started, and the queue has room for two. One
worker sends them in order; of two workers the second is faster than the first. The records come in
another order then, and that is all. -/
theorem agrees_follow_faster_worker :
    let limits : Limits := { queueCapacity := 2 }
    let report (name : String) : Action := .apply .incremental
      [⟨⟨"a"⟩, some (.ofReports [.container ⟨name⟩ ⟨⟨"a"⟩, "pod", "app", ⟨name⟩⟩])⟩]
    let first : List Action :=
      [.register "callbacks" (some 4), .want ⟨"c0"⟩, .want ⟨"c1"⟩, .want ⟨"c2"⟩, report "c0",
        report "c1", report "c2", .startDelivery]
    let actions : List Action := first ++ [.dropStore]
    let alone : List Event :=
      [.move 0, .move 0, .move 0, .move 0, .move 0, .move 0, .move 0, .action .dropStore, .move 0]
    let together : List Event :=
      [.move 0, .move 1, .move 0, .move 1, .move 1, .move 0, .move 0, .move 1, .action .dropStore,
        .move 1, .move 0]
    let schedule : List Event := first.map .action ++ alone
    let schedule' : List Event := first.map .action ++ together
    let one := fresh { limits with workers := 1 } false
    let other := fresh { limits with workers := 2 } false
    let names (service : Service) : List String :=
      (service.delivery.inbox "callbacks").map fun record => record.container.text
    (schedule.filterMap Event.action? = schedule'.filterMap Event.action? ∧
        one.Unhindered schedule ∧ other.Unhindered schedule' ∧
        names (one.follow schedule) = ["c0", "c1"] ∧
        names (other.follow schedule') = ["c1", "c0"] ∧
        (one.follow schedule).Agrees (other.follow schedule') (one.notices schedule)
          (other.notices schedule')) ∧
      one.RunsUnhindered actions ∧ other.RunsUnhindered actions ∧
        (one.run actions).delivery.completed? = some true ∧
        (one.run actions).Agrees (other.run actions) (one.reports actions)
          (other.reports actions) := by
  intro limits report first actions alone together schedule schedule' one other names
  have unhindered : one.Unhindered schedule ∧ other.Unhindered schedule' ∧
      one.RunsUnhindered actions ∧ other.RunsUnhindered actions := by
    decide +kernel +revert
  obtain ⟨one_follows, other_follows, one_runs, other_runs⟩ := unhindered
  have seen : names (one.follow schedule) = ["c0", "c1"] ∧
      names (other.follow schedule') = ["c1", "c0"] ∧
      (one.run actions).delivery.completed? = some true := by
    clear one_follows other_follows one_runs other_runs
    decide +kernel +revert
  obtain ⟨in_order, overtaken, completed⟩ := seen
  have same : schedule.filterMap Event.action? = schedule'.filterMap Event.action? := rfl
  obtain ⟨follow, run⟩ := agrees_follow limits 1 2 false
  exact ⟨⟨same, one_follows, other_follows, in_order, overtaken,
      follow schedule schedule' same one_follows other_follows⟩,
    one_runs, other_runs, completed,
    run actions one_runs other_runs actions (List.prefix_refl actions)⟩

end Service

end Attribution
