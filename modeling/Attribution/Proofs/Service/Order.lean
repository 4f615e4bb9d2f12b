import Attribution.Proofs.Delivery.Order
import Attribution.Proofs.Service.Phase
import Attribution.Proofs.Service.Rest
import Attribution.Proofs.Service.Routing

/-!
# The order of delivery

The records of one job enter their channel in the order in which they were resolved, whatever the
other workers do meanwhile: the worker that takes the job reports its records one after the other,
and some of them are lost on the way. With a single worker this goes for all records. They are
reported in the order in which their jobs were queued, so that a record that has arrived says of
every record that was queued before it that its fate is decided.

Sleeps are not events here: time passes by ticks, between which the workers move. Every run is such
a schedule. Once the delivery is given up nobody moves any more, and what was reported until then
is all that is ever reported.
-/

namespace Attribution

namespace Delivery

variable {delivery : Delivery}

namespace Tended

variable {action : Action} {after : Delivery}

/-- Who tends a delivery neither queues jobs nor moves the workers. -/
theorem carries (tended : delivery.Tended action after) (unmanned : delivery.Unmanned) :
    delivery.Carries [] [] after := by
  have nothing_came : delivery.queue = delivery.queue ++ [] := (List.append_nil _).symm
  cases tended with
  | start unstarted => exact .start (unmanned unstarted)
  | _ => exact .of_queue nothing_came fun _ => rfl

end Tended

end Delivery

namespace Service

variable {service : Service}

/-! ### What is seen of jobs and workers -/

/-- The jobs that are queued when records are handed on: one for the registered channel, if there is
a place for it. -/
def places (service : Service) (resolved : List Metadata) : List Job :=
  match service.registered with
  | some channel =>
    if resolved ≠ [] ∧ service.delivery.HasPlace then [⟨channel, resolved⟩] else []
  | none => []

/-- The jobs that an event puts into the queue. -/
def queues (service : Service) : Event → List Job
  | .action (.apply mode updates) =>
    match service.store with
    | some store => service.places (store.apply mode updates).resolved
    | none => []
  | _ => []

/-- The move that a worker makes by an event. -/
def deeds (service : Service) : Event → List Deed
  | .move worker => (service.delivery.move? worker).toList.map (Deed.mk worker)
  | _ => []

theorem seesActions_queues : SeesActions queues :=
  ⟨fun _ _ => rfl, fun _ _ => rfl, fun _ _ => rfl⟩

/-- What is handed on makes the queue longer by the job that finds a place. -/
theorem Dispatched.carries {resolved : List Metadata} {after : Delivery} {notices : List Notice}
    (dispatched : service.Dispatched resolved after notices) :
    service.delivery.Carries (service.places resolved) [] after := by
  cases dispatched with
  | unaddressed none_meant =>
    have nothing : service.places resolved = [] := by
      rcases none_meant with rfl | unregistered
      · rw [places]
        split <;> rfl
      · rw [places, unregistered]
    rw [nothing]
    exact .refl _
  | @queued channel registered some_resolved place =>
    have queued : service.places resolved = [⟨channel, resolved⟩] := by
      simp only [places, registered, if_pos (And.intro some_resolved place)]
    rw [queued]
    exact .of_queue rfl fun _ => rfl
  | turnedAway registered some_resolved no_place =>
    have nothing : service.places resolved = [] := by
      simp only [places, registered, no_place, and_false, ↓reduceIte]
    rw [nothing]
    exact .refl _

theorem queues_of_no_update {action : Action}
    (no_update : ∀ mode updates, action ≠ .apply mode updates) :
    service.queues (.action action) = [] := by
  cases action with
  | apply mode updates => exact absurd rfl (no_update mode updates)
  | _ => rfl

/-- What an event does to the queue and to the hands of the workers; a sleep may be many moves, and
by the end of the delivery both are emptied. -/
theorem carries_occur (unmanned : service.delivery.Unmanned) {event : Event}
    (no_sleep : ∀ duration, event ≠ .action (.sleep duration))
    (no_stop : event ≠ .action .stopDelivery) :
    service.delivery.Carries (service.queues event) (service.deeds event)
      (service.occur event).service.delivery := by
  have impact := impact_occur service event
  generalize (service.occur event).service.delivery = after at impact ⊢
  generalize (service.occur event).notices = notices at impact
  cases impact with
  | @fed store present mode updates _ _ dispatched =>
    have queued : service.queues (.action (.apply mode updates)) =
        service.places (store.apply mode updates).resolved := by
      simp only [queues, present]
    rw [queued]
    exact dispatched.carries
  | unheard absent mode updates =>
    have queued : service.queues (.action (.apply mode updates)) = [] := by
      simp only [queues, absent]
    rw [queued]
    exact .refl _
  | stopped => exact absurd rfl no_stop
  | tended no_update _ tended =>
    rw [queues_of_no_update no_update]
    exact tended.carries unmanned
  | slept duration => exact absurd rfl (no_sleep duration)
  | moved possible =>
    simp only [deeds, possible, Option.toList_some, List.map_cons, List.map_nil]
    exact .make (Delivery.possible_of_move? possible)
  | stuck impossible =>
    simp only [deeds, impossible, Option.toList_none, List.map_nil]
    exact .refl _
  | ticked time => exact .of_queue (List.append_nil _).symm fun _ => rfl

/-! ### The end of the delivery -/

variable {limits : Limits}

/-- No job is queued in a delivery that was given up. -/
theorem queues_of_stopped (stopped : service.delivery.phase = .stopped) (event : Event) :
    service.queues event = [] := by
  have no_place : ¬ service.delivery.HasPlace := fun place => place.1 stopped
  unfold queues
  split
  · split
    · unfold places
      split
      · rw [if_neg fun both => no_place both.2]
      · rfl
    · rfl
  · rfl

/-- Where there are no workers nobody moves. -/
theorem deeds_of_no_workers (nobody : service.delivery.workers = #[]) (event : Event) :
    service.deeds event = [] := by
  cases event with
  | move worker =>
    have idle : service.delivery.move? worker = none :=
      Delivery.move?_eq_none_of_size_le (by rw [nobody]; exact Nat.zero_le worker)
    rw [deeds, idle]
    rfl
  | _ => rfl

/-- Once the delivery is given up no job is queued and no worker moves. -/
theorem observed_of_stopped (orderly : service.Orderly limits)
    (stopped : service.delivery.phase = .stopped) (schedule : List Event) :
    observed queues service schedule = [] ∧ observed deeds service schedule = [] := by
  constructor
  · apply observed_eq_nil
    intro first event
    exact queues_of_stopped (stopped_follow stopped first) event
  · apply observed_eq_nil
    intro first event
    have nobody : (service.follow first).delivery.workers = #[] := by
      apply (orderly.follow first).delivery.unmanned
      rw [stopped_follow stopped first]
      decide
    exact deeds_of_no_workers nobody event

/-- What is seen of a schedule is what was carried until its end, or until the delivery was given
up. -/
theorem exists_carries (orderly : service.Orderly limits) {schedule : List Event}
    (wakeful : Wakeful schedule) :
    ∃ last, service.delivery.Carries (observed queues service schedule)
      (observed deeds service schedule) last := by
  induction schedule generalizing service with
  | nil => exact ⟨service.delivery, .refl _⟩
  | cons event more ih =>
    have orderly_after : (service.occur event).service.Orderly limits := orderly.follow [event]
    obtain ⟨no_sleep, wakeful_after⟩ := wakeful_cons.1 wakeful
    by_cases stop : event = .action .stopDelivery
    · subst stop
      have stopped : (service.occur (.action .stopDelivery)).service.delivery.phase = .stopped :=
        rfl
      obtain ⟨no_jobs, no_deeds⟩ := observed_of_stopped orderly_after stopped more
      refine ⟨service.delivery, ?_⟩
      rw [observed, observed, no_jobs, no_deeds]
      exact .refl _
    · obtain ⟨last, rest⟩ := ih orderly_after wakeful_after
      have now : service.delivery.Carries _ _ _ :=
        carries_occur orderly.delivery.isUnmanned no_sleep stop
      exact ⟨last, now.trans rest⟩

/-! ### Order -/

/-- Where nobody sleeps a record enters a channel by the move of a worker. -/
theorem entering_notices_occur {event : Event}
    (no_sleep : ∀ duration, event ≠ .action (.sleep duration)) (name : ChannelName) :
    entering name (service.occur event).notices =
      entering name (Deed.notices (service.deeds event)) := by
  have impact := impact_occur service event
  generalize (service.occur event).service.delivery = after at impact
  generalize (service.occur event).notices = notices at impact ⊢
  cases impact with
  | fed _ _ _ dispatched => exact (dispatched.inbox_eq name).2
  | slept duration => exact absurd rfl (no_sleep duration)
  | moved possible =>
    simp only [deeds, possible, Option.toList_some, List.map_cons, List.map_nil,
      Deed.notices_singleton]
  | stuck impossible =>
    simp only [deeds, impossible, Option.toList_none, List.map_nil]
    rfl
  | _ => rfl

theorem entering_notices_follow {schedule : List Event} (wakeful : Wakeful schedule)
    (name : ChannelName) :
    entering name (service.notices schedule) =
      entering name (Deed.notices (observed deeds service schedule)) := by
  induction schedule generalizing service with
  | nil => rfl
  | cons event more ih =>
    obtain ⟨no_sleep, wakeful_after⟩ := wakeful_cons.1 wakeful
    rw [notices, observed, Deed.notices_append, entering_append, entering_append,
      entering_notices_occur no_sleep, ih wakeful_after]

/-- How jobs and their records go through the delivery, with any number of workers. -/
structure Ordered (service : Service) (schedule : List Event) : Prop where
  /-- Jobs are taken in the order in which they were queued. -/
  taken : Deed.jobs (observed deeds service schedule) <+: observed queues service schedule
  /-- A worker takes the job that comes next. What it reports from then on is the records of the
  job, as many as there are and in their order; and in this order they enter the channel, as far as
  they do. -/
  within (first later : List Event) (worker : Nat) (job : Job) (others : List Job) :
    schedule = first ++ .move worker :: later →
    (service.follow first).delivery.move? worker = some (.take job others) →
      let afterwards := observed deeds (service.follow (first ++ [.move worker])) later
      let reports := (Deed.notices (Deed.ofWorker worker afterwards)).take job.records.length
      Deed.jobs (observed deeds service first) ++ [job] <+: observed queues service first ∧
        reports.map Notice.parcel <+: job.parcels ∧
        (entering job.channel reports).Sublist job.records
  /-- A channel receives the records in the order in which they are reported to have entered it. -/
  received (name : ChannelName) :
    entering name (Deed.notices (observed deeds service schedule)) =
      service.received schedule name

/-- How records go through a delivery with a single worker. -/
structure OrderedAlone (service : Service) (schedule : List Event) : Prop where
  /-- The records meet their outcomes in the order of the jobs in the queue, and within a job in
  the order of its records. -/
  reported :
    (Deed.notices (observed deeds service schedule)).map Notice.parcel <+:
      (observed queues service schedule).flatMap Job.parcels
  /-- When a record meets its outcome, all that were queued before it have met theirs. -/
  before (earlier later : List Notice) (notice : Notice) :
    Deed.notices (observed deeds service schedule) = earlier ++ notice :: later →
      ∃ rest, (observed queues service schedule).flatMap Job.parcels =
        earlier.map Notice.parcel ++ notice.parcel :: rest
  /-- A channel receives a part of what was queued for it, in the order of the queue. -/
  received (name : ChannelName) :
    (service.received schedule name).Sublist
      (((observed queues service schedule).filter (·.channel = name)).flatMap Job.records)

/-- What a worker has in hand when it has taken a job is the job. -/
theorem hand_of_taken {worker : Nat} {job : Job} {others : List Job}
    (taken : service.delivery.move? worker = some (.take job others)) :
    (service.occur (.move worker)).service.delivery.hand worker = job.parcels := by
  obtain ⟨idle, at_worker, -, -⟩ := (Delivery.possible_of_move? taken).exists_worker
  simp only [occur, taken]
  rw [Delivery.hand_make_self at_worker]
  exact Delivery.parcels_continuing job.channel job.records

variable {instrumented : Bool} {schedule : List Event}

theorem jobs_le_queues (wakeful : Wakeful schedule) :
    Deed.jobs (observed deeds (fresh limits instrumented) schedule) <+:
      observed queues (fresh limits instrumented) schedule := by
  obtain ⟨last, carries⟩ := exists_carries (orderly_fresh limits instrumented) wakeful
  have nothing : (fresh limits instrumented).delivery.queue = [] := rfl
  have taken := carries.jobs_le
  rwa [nothing, List.nil_append] at taken

theorem ordered_fresh (wakeful : Wakeful schedule) :
    (fresh limits instrumented).Ordered schedule where
  taken := jobs_le_queues wakeful
  within first later worker job others := by
    rintro rfl taken afterwards reports
    obtain ⟨wakeful_first, wakeful_rest⟩ := wakeful_append.1 wakeful
    obtain ⟨no_sleep, wakeful_later⟩ := wakeful_cons.1 wakeful_rest
    have in_hand : ((fresh limits instrumented).follow (first ++ [.move worker])).delivery.hand
        worker = job.parcels := by
      rw [follow_append]
      exact hand_of_taken taken
    obtain ⟨last, carries⟩ := exists_carries
      ((orderly_fresh limits instrumented).follow (first ++ [.move worker])) wakeful_later
    have in_order := carries.take_notices_le in_hand
    refine ⟨?_, in_order, entering_sublist_of_le in_order⟩
    have now : observed deeds ((fresh limits instrumented).follow first) [.move worker] =
        [⟨worker, .take job others⟩] := by
      simp only [observed, deeds, taken, Option.toList_some, List.map_cons, List.map_nil,
        List.append_nil]
    have until_now : Wakeful (first ++ [.move worker]) :=
      wakeful_append.2 ⟨wakeful_first, wakeful_cons.2 ⟨no_sleep, fun _ => List.not_mem_nil⟩⟩
    have jobs : Deed.jobs (observed deeds (fresh limits instrumented) (first ++ [.move worker])) <+:
        observed queues (fresh limits instrumented) (first ++ [.move worker]) :=
      jobs_le_queues until_now
    rw [observed_append, observed_append, now, Deed.jobs_append, Deed.jobs_singleton] at jobs
    simpa [observed, queues, Move.job?] using jobs
  received name := by
    rw [← entering_notices_follow wakeful, entering_fresh]

/-- There is no worker but the first. -/
theorem worker_eq_zero (alone : limits.workers ≤ 1) {deed : Deed}
    (there : deed ∈ observed deeds (fresh limits instrumented) schedule) : deed.worker = 0 := by
  obtain ⟨first, event, later, -, seen⟩ := exists_of_mem_observed there
  have orderly := ((orderly_fresh limits instrumented).follow first).delivery
  have single := orderly.size_le_one alone
  unfold deeds at seen
  split at seen
  · rename_i worker
    obtain ⟨move, possible, rfl⟩ := List.mem_map.1 seen
    by_contra other
    have nobody : ((fresh limits instrumented).follow first).delivery.move? worker = none := by
      apply Delivery.move?_eq_none_of_size_le
      have positive : worker ≠ 0 := other
      omega
    rw [nobody] at possible
    cases possible
  · cases seen

theorem orderedAlone_fresh (alone : limits.workers ≤ 1) (wakeful : Wakeful schedule) :
    (fresh limits instrumented).OrderedAlone schedule := by
  obtain ⟨last, carries⟩ := exists_carries (orderly_fresh limits instrumented) wakeful
  have reported := carries.notices_le_of_alone
    (fun deed there => worker_eq_zero alone there) rfl rfl
  refine ⟨reported, ?_, ?_⟩
  · intro earlier later notice split
    obtain ⟨others, whole⟩ := reported
    refine ⟨later.map Notice.parcel ++ others, ?_⟩
    rw [← whole, split, List.map_append, List.map_cons, List.append_assoc, List.cons_append]
  · intro name
    rw [← (ordered_fresh wakeful).received]
    exact entering_sublist_of_queue reported name

/-- The records of each job enter their channel in order, and with a single worker all records do;
whatever is done to the service and whichever worker moves when, and in every run. -/
theorem ordered_follow (limits : Limits) (instrumented : Bool) :
    (∀ schedule : List Event, Wakeful schedule →
      (fresh limits instrumented).Ordered schedule ∧
        (limits.workers ≤ 1 → (fresh limits instrumented).OrderedAlone schedule)) ∧
    ∀ actions : List Action, ∃ schedule, (fresh limits instrumented).Enacts actions schedule ∧
      (fresh limits instrumented).Ordered schedule ∧
      (limits.workers ≤ 1 → (fresh limits instrumented).OrderedAlone schedule ∧
        ∀ name : ChannelName,
          ((fresh limits instrumented).receivedIn actions name).Sublist
            (((observedIn queues (fresh limits instrumented) actions).filter
              (·.channel = name)).flatMap Job.records)) := by
  refine ⟨fun schedule wakeful => ?_, fun actions => ?_⟩
  · exact ⟨ordered_fresh wakeful, fun alone => orderedAlone_fresh alone wakeful⟩
  · obtain ⟨schedule, enacts⟩ := exists_enacts (fresh limits instrumented) actions
    refine ⟨schedule, enacts, ordered_fresh enacts.wakeful, fun alone => ?_⟩
    have in_order : (fresh limits instrumented).OrderedAlone schedule :=
      orderedAlone_fresh alone enacts.wakeful
    refine ⟨in_order, fun name => ?_⟩
    rw [← enacts.received, ← enacts.observed seesActions_queues]
    exact in_order.received name

/-- A single worker has two records of one job to send and one of the next. The first fills the
channel, the second is given up, and the third enters when there is room again. -/
theorem ordered_follow_timeout :
    let told (name : String) : Metadata := ⟨⟨"a"⟩, "pod", "app", ⟨name⟩⟩
    let report (names : List String) : Action :=
      .apply .incremental
        [⟨⟨"a"⟩, some (.ofReports (names.map fun name => .container ⟨name⟩ (told name)))⟩]
    let schedule : List Event :=
      [.action (.register "callbacks" (some 1)), .action .startDelivery, .move 0,
        .action (.want ⟨"c0"⟩), .action (.want ⟨"c1"⟩), .action (report ["c0", "c1"]),
        .action (.want ⟨"c2"⟩), .action (report ["c2"]), .move 0, .move 0, .tick 10, .move 0,
        .move 0, .move 0, .action (.drain "callbacks" none), .move 0]
    let limits : Limits := { workers := 1, sendTimeout := 10 }
    let service := fresh limits false
    (Wakeful schedule ∧ limits.workers ≤ 1) ∧
      observed queues service schedule =
        [⟨"callbacks", [told "c0", told "c1"]⟩, ⟨"callbacks", [told "c2"]⟩] ∧
      service.received schedule "callbacks" = [told "c0", told "c2"] ∧
      service.Ordered schedule ∧ service.OrderedAlone schedule := by
  intro told report schedule limits service
  have queued : observed queues service schedule =
      [⟨"callbacks", [told "c0", told "c1"]⟩, ⟨"callbacks", [told "c2"]⟩] := by
    decide +kernel +revert
  have received : service.received schedule "callbacks" = [told "c0", told "c2"] := by
    decide +kernel +revert
  have wakeful : Wakeful schedule := by
    intro duration there
    simp [schedule, report] at there
  obtain ⟨ordered, alone⟩ := (ordered_follow limits false).1 schedule wakeful
  exact ⟨⟨wakeful, Nat.le_refl 1⟩, queued, received, ordered, alone (Nat.le_refl 1)⟩

end Service

end Attribution
