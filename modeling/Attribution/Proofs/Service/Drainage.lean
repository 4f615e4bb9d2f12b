import Attribution.Proofs.Delivery.Pace
import Attribution.Proofs.Service.Completion

/-!
# How long a delivery goes on without its store

Once the store is dropped there are no further jobs, and what is outstanding is worked off. No
receiver is needed for this: a record for which no room is made is given up in the end. So there
is a bound, one timeout for each record, on the time until everything is reported and the delivery
is over.

In a run time passes by sleeps, and these wait for the workers. A schedule may set the clock at any
time, also while workers could still move; such a schedule says nothing about how long they take.
So the bound is stated of schedules whose clock waits for the workers and stops at every deadline.
-/

namespace Attribution

namespace Action

/-- The time that passes in the course of an action. -/
def duration : Action → Nat
  | .sleep duration => duration
  | _ => 0

end Action

namespace Delivery

variable {delivery : Delivery}

/-- Who tends a running delivery neither queues records nor takes them up. -/
theorem Paced.tended {limits : Limits} {finish : Nat} (h : delivery.Paced limits finish)
    {action : Action} {after : Delivery} (tended : delivery.Tended action after) :
    after.Paced limits finish := by
  have orderly := tended.orderly h.orderly
  cases tended with
  | start unstarted =>
    rw [h.running] at unstarted
    cases unstarted
  | _ => exact ⟨orderly, h.running, h.onPace.congr rfl rfl rfl rfl⟩

end Delivery

namespace Service

variable {service : Service}

/-! ### A clock that waits -/

/-- The clock goes on only when no worker can move, and not beyond a deadline; a sleep stops at the
deadlines by itself. -/
def OnTime (service : Service) : Event → Prop
  | .action action => action.isSleep = true → service.delivery.Settled
  | .move _ => True
  | .tick time =>
    service.delivery.Settled ∧ ∀ deadline ∈ service.delivery.deadlines, time ≤ deadline

/-- The clock waits for the workers throughout a schedule. -/
def Punctual (service : Service) : List Event → Prop
  | [] => True
  | event :: more => service.OnTime event ∧ (service.occur event).service.Punctual more

instance decidableOnTime (service : Service) : (event : Event) → Decidable (service.OnTime event)
  | .action _ => inferInstanceAs (Decidable (_ → _))
  | .move _ => inferInstanceAs (Decidable True)
  | .tick _ => inferInstanceAs (Decidable (_ ∧ _))

instance decidablePunctual (service : Service) :
    (schedule : List Event) → Decidable (service.Punctual schedule)
  | [] => inferInstanceAs (Decidable True)
  | event :: more =>
    have := decidablePunctual (service.occur event).service more
    inferInstanceAs (Decidable (_ ∧ _))

/-! ### What happens without a store -/

section WithoutStore

variable {limits : Limits} {finish : Nat} {event : Event} {after : Delivery} {notices : List Notice}

/-- As long as the clock waits, nothing keeps the records from being done with in time. -/
theorem Impact.paced (impact : service.Impact event after notices) (absent : service.store = none)
    (no_stop : event ≠ .action .stopDelivery) (on_time : service.OnTime event)
    (paced : service.delivery.Paced limits finish) : after.Paced limits finish := by
  cases impact with
  | fed present =>
    rw [absent] at present
    cases present
  | unheard => exact paced
  | stopped => exact absurd rfl no_stop
  | tended _ _ tended => exact paced.tended tended
  | slept duration => exact paced.advanceTo (on_time rfl)
  | moved possible => exact paced.make possible
  | stuck => exact paced
  | ticked time =>
    obtain ⟨settled, in_time⟩ := on_time
    exact paced.setClock settled in_time

/-- Without a store only senders report. -/
theorem Impact.isOfSender (impact : service.Impact event after notices)
    (absent : service.store = none) : ∀ notice ∈ notices, notice.outcome.IsOfSender := by
  have moves {delivery : Delivery} {i : Nat} {move : Move} (possible : delivery.Possible i move) :
      ∀ notice ∈ move.notice?.toList, notice.outcome.IsOfSender :=
    Delivery.isOfSender_of_move possible
  cases impact with
  | fed present =>
    rw [absent] at present
    cases present
  | slept duration =>
    have slept : service.delivery.Proceeds (service.delivery.sleep duration).2
        (service.delivery.sleep duration).1 := .advanceTo _ _
    exact slept.forall_notices moves
  | moved possible => exact moves (Delivery.possible_of_move? possible)
  | _ => exact fun notice there => absurd there List.not_mem_nil

theorem isOfSender_of_follow (absent : service.store = none) (schedule : List Event) :
    ∀ notice ∈ service.notices schedule, notice.outcome.IsOfSender := by
  intro notice there
  obtain ⟨first, event, later, -, noticed⟩ := exists_of_mem_notices there
  have impact := impact_occur (service.follow first) event
  exact impact.isOfSender (store_follow_none absent first) notice noticed

theorem paced_follow (absent : service.store = none) {schedule : List Event}
    (no_stop : .action .stopDelivery ∉ schedule) (punctual : service.Punctual schedule)
    (paced : service.delivery.Paced limits finish) :
    (service.follow schedule).delivery.Paced limits finish := by
  induction schedule generalizing service with
  | nil => exact paced
  | cons event more ih =>
    obtain ⟨first, later⟩ := not_or.1 (mt List.mem_cons.2 no_stop)
    obtain ⟨on_time, punctual⟩ := punctual
    have impact := impact_occur service event
    exact ih (store_follow_none absent [event]) later punctual
      (impact.paced absent (Ne.symm first) on_time paced)

theorem paced_run (absent : service.store = none) {actions : List Action}
    (no_stop : .stopDelivery ∉ actions) (settled : service.delivery.Settled)
    (paced : service.delivery.Paced limits finish) :
    (service.run actions).delivery.Paced limits finish := by
  induction actions generalizing service with
  | nil => exact paced
  | cons action more ih =>
    obtain ⟨first, later⟩ := not_or.1 (mt List.mem_cons.2 no_stop)
    have performed : (service.perform action).service.delivery.Paced limits finish :=
      (impact_perform service action).paced absent
        (fun same => first (Event.action.inj same).symm) (fun _ => settled) paced
    exact ih (store_follow_none absent [.action action]) later (settled_step service action)
      performed.settle

end WithoutStore

/-! ### The clock in a run -/

theorem Impact.now_eq {action : Action} {after : Delivery} {notices : List Notice}
    (impact : service.Impact (.action action) after notices)
    (awake : ∀ duration, action ≠ .sleep duration) : after.now = service.delivery.now := by
  cases impact with
  | fed _ _ _ dispatched => cases dispatched <;> rfl
  | tended _ _ tended => cases tended <;> rfl
  | slept duration => exact absurd rfl (awake duration)
  | _ => rfl

theorem now_step (action : Action) :
    (service.step action).service.delivery.now = service.delivery.now + action.duration := by
  refine (Delivery.now_settle _).trans ?_
  by_cases sleep : ∃ duration, action = .sleep duration
  · obtain ⟨duration, rfl⟩ := sleep
    exact Delivery.now_sleep service.delivery duration
  · have awake : ∀ duration, action ≠ .sleep duration := fun duration same => sleep ⟨duration, same⟩
    have at_once : action.duration = 0 := by
      cases action with
      | sleep duration => exact absurd rfl (awake duration)
      | _ => rfl
    rw [(impact_perform service action).now_eq awake, at_once]
    rfl

/-- In a run time passes by what its actions take. -/
theorem now_run (actions : List Action) :
    (service.run actions).delivery.now =
      service.delivery.now + (actions.map Action.duration).sum := by
  induction actions generalizing service with
  | nil => rfl
  | cons action more ih => rw [run_cons, ih, now_step, List.map_cons, List.sum_cons, Nat.add_assoc]

/-! ### The end -/

/-- Of what was outstanding everything was reported, each record with the outcome that its sender
met, and counted for it; and the delivery is over. -/
structure WorksOff (service : Service) (notices : List Notice) (after : Service) : Prop where
  completed : after.delivery.completed? = some true
  reported : (notices.map Notice.parcel : Multiset Parcel) = service.delivery.parcels
  outcome : ∀ notice ∈ notices, notice.outcome.IsOfSender
  counted (outcome : Outcome) :
    after.counters.outcomes.count outcome =
      service.counters.outcomes.count outcome +
        notices.countP fun notice => notice.outcome = outcome
  total :
    after.counters.outcomes.delivered + after.counters.outcomes.timeout +
        after.counters.outcomes.closed =
      service.counters.outcomes.delivered + service.counters.outcomes.timeout +
        service.counters.outcomes.closed + service.delivery.outstanding.length

/-- Each report of a sender is of one of three outcomes. -/
theorem countP_of_isOfSender {notices : List Notice}
    (senders : ∀ notice ∈ notices, notice.outcome.IsOfSender) :
    (notices.countP fun notice => notice.outcome = .delivered) +
        (notices.countP fun notice => notice.outcome = .timeout) +
        (notices.countP fun notice => notice.outcome = .closed) = notices.length := by
  induction notices with
  | nil => rfl
  | cons notice more ih =>
    have others := ih fun other there => senders other (List.mem_cons_of_mem _ there)
    simp only [List.countP_cons, List.length_cons]
    rcases senders notice List.mem_cons_self with met | met | met <;> simp [met] <;> omega

/-- At rest nothing is queued where nothing is outstanding, not even a job without records. -/
theorem Orderly.exhausted_of_outstanding {limits : Limits} (h : service.Orderly limits)
    (absent : service.store = none) (running : service.delivery.phase = .running)
    (settled : service.delivery.Settled) (nothing : service.delivery.outstanding = []) :
    service.Exhausted := by
  obtain ⟨held, -⟩ := List.append_eq_nil_iff.1 nothing
  have hands : ∀ worker ∈ service.delivery.workers, worker.outstanding = [] :=
    fun worker there => List.flatMap_eq_nil_iff.1 held worker (Array.mem_toList_iff.2 there)
  refine ⟨absent, ?_, hands⟩
  by_contra queued
  obtain ⟨current, there⟩ := Delivery.exists_sending_of_queued h.delivery running settled queued
  cases hands _ there

/-- Without a store what is on its way is reported or still on its way, unless it is given up. -/
theorem coe_parcels_follow_of_absent (absent : service.store = none)
    (unmanned : service.delivery.Unmanned) {schedule : List Event}
    (no_stop : .action .stopDelivery ∉ schedule) :
    (service.delivery.parcels : Multiset Parcel) =
      ((service.notices schedule).map Notice.parcel : List Parcel) +
        (service.follow schedule).delivery.parcels := by
  have law := coe_parcels_follow unmanned schedule
  rwa [observed_posts_eq_nil absent, observed_abandons_eq_nil no_stop, Multiset.coe_nil, zero_add,
    add_zero] at law

/-- When nothing is left of what the dropped store handed on, all of it was reported. -/
theorem worksOff_of_outstanding {limits : Limits} (h : service.Orderly limits)
    (absent : service.store = none) {schedule : List Event}
    (no_stop : .action .stopDelivery ∉ schedule)
    (running : (service.follow schedule).delivery.phase = .running)
    (settled : (service.follow schedule).delivery.Settled)
    (nothing : (service.follow schedule).delivery.outstanding = []) :
    service.WorksOff (service.notices schedule) (service.follow schedule) := by
  have exhausted := (h.follow schedule).exhausted_of_outstanding
    (store_follow_none absent schedule) running settled nothing
  have senders := isOfSender_of_follow absent schedule
  have empty : (service.follow schedule).delivery.parcels = [] := by
    apply List.eq_nil_of_length_eq_zero
    rw [Delivery.length_parcels, nothing]
    rfl
  have reported := coe_parcels_follow_of_absent absent h.delivery.isUnmanned no_stop
  rw [empty, Multiset.coe_nil, add_zero] at reported
  have counted (outcome : Outcome) : (service.follow schedule).counters.outcomes.count outcome =
      service.counters.outcomes.count outcome +
        (service.notices schedule).countP fun notice => notice.outcome = outcome := by
    rw [outcomes_follow, notices_ledger, Tally.count_addAll]
  have length : (service.notices schedule).length = service.delivery.outstanding.length := by
    have cards := congrArg Multiset.card reported
    rw [Multiset.coe_card, Multiset.coe_card, List.length_map, Delivery.length_parcels] at cards
    exact cards.symm
  refine ⟨exhausted.completed (h.follow schedule) running settled, reported.symm, senders, counted,
    ?_⟩
  have whole := countP_of_isOfSender senders
  have delivered := counted .delivered
  have timeout := counted .timeout
  have closed := counted .closed
  simp only [Tally.count] at delivered timeout closed
  omega

/-- Without its store a running delivery that is not given up is over after as many timeouts as
there are records outstanding, whatever the receivers do in the meantime, if anything. By then each
of these records was counted once, as delivered, given up at its deadline, or turned away by a
closed channel. This holds from any moment of any schedule on, for every schedule whose clock
waits for the workers and which ends when they are at rest; and it holds from any action of a run
on, in whatever pieces the time passes. -/
theorem worksOff_follow (limits : Limits) (instrumented : Bool) :
    (∀ first later : List Event,
      let service := (fresh limits instrumented).follow first
      let after := service.follow later
      service.store = none → service.delivery.phase = .running → service.Punctual later →
      .action .stopDelivery ∉ later → after.delivery.Settled →
      service.delivery.now + service.delivery.outstanding.length * limits.sendTimeout ≤
        after.delivery.now →
        service.WorksOff (service.notices later) after) ∧
    ∀ first later : List Action,
      let service := (fresh limits instrumented).run first
      service.store = none → service.delivery.phase = .running → .stopDelivery ∉ later →
      service.delivery.outstanding.length * limits.sendTimeout ≤
        (later.map Action.duration).sum →
        service.WorksOff (service.reports later) (service.run later) := by
  have begin_paced {service : Service} (h : service.Orderly limits)
      (running : service.delivery.phase = .running) : service.delivery.Paced limits
        (service.delivery.now + service.delivery.outstanding.length * limits.sendTimeout) := by
    refine ⟨h.delivery, running, .ahead ?_⟩
    rw [h.delivery.limits_eq]
  refine ⟨?_, ?_⟩
  · intro first later service after absent running punctual no_stop settled passed
    have h := (orderly_fresh limits instrumented).follow first
    have paced := paced_follow absent no_stop punctual (begin_paced h running)
    exact worksOff_of_outstanding h absent no_stop paced.running settled
      (paced.outstanding_eq_nil settled passed)
  · intro first later service absent running no_stop passed
    obtain ⟨begun, -, same⟩ := exists_schedule (fresh limits instrumented) first
    have h : service.Orderly limits := by
      have followed := (orderly_fresh limits instrumented).follow begun
      rwa [same] at followed
    have rests := settled_run (settled_fresh limits instrumented) first
    have settled := settled_run rests later
    have paced := paced_run absent no_stop rests (begin_paced h running)
    have nothing : (service.run later).delivery.outstanding = [] := by
      refine paced.outstanding_eq_nil settled ?_
      rw [now_run later]
      exact Nat.add_le_add_left passed _
    obtain ⟨schedule, enacts⟩ := exists_enacts service later
    have kept : .action .stopDelivery ∉ schedule := by
      intro there
      have acts := mem_filterMap_action?.2 there
      rw [enacts.acts] at acts
      exact no_stop (List.mem_filter.1 acts).1
    have phase := paced.running
    rw [← enacts.follow] at phase settled nothing ⊢
    rw [← enacts.notices]
    exact worksOff_of_outstanding h absent kept phase settled nothing

/-- Two workers and one full channel, which nobody drains. In a run both give up a record at the
same time, and one of them waits once more. In a schedule a job is still queued at first, and the
channel is closed while the last record waits. -/
theorem worksOff_follow_nobody_drains :
    let limits : Limits := { workers := 2, sendTimeout := 5 }
    let wants : List Action := ["c0", "c1", "c2", "c3"].map (.want ⟨·⟩)
    let report (names : List String) : Action :=
      .apply .incremental
        [⟨⟨"a"⟩, some (.ofReports (names.map fun name =>
          .container ⟨name⟩ ⟨⟨"a"⟩, "pod", "app", ⟨name⟩⟩))⟩]
    let first : List Action := .register "callbacks" (some 1) :: wants ++
      [report ["c0", "c1"], report ["c2", "c3"], .dropStore, .startDelivery]
    let slept : List Action := [.sleep 4, .sleep 1, .sleep 7, .sleep 3]
    let begun : List Event := first.map .action ++ [.move 0, .move 0, .move 0]
    let later : List Event := [.move 1, .move 1, .tick 3, .tick 5, .move 0, .move 1, .move 0,
      .move 0, .tick 9, .action (.close "callbacks"), .move 1, .move 1, .move 1, .tick 15]
    let service := (fresh limits false).run first
    let busy := (fresh limits false).follow begun
    (service.store = none ∧ service.delivery.phase = .running ∧
      service.delivery.outstanding.length = 3 ∧
      service.WorksOff (service.reports slept) (service.run slept)) ∧
    busy.store = none ∧ busy.delivery.phase = .running ∧ busy.delivery.outstanding.length = 3 ∧
      busy.WorksOff (busy.notices later) (busy.follow later) := by
  intro limits wants report first slept begun later service busy
  have in_run : service.store.isNone ∧ service.delivery.phase = .running ∧
      service.delivery.outstanding.length = 3 ∧
      service.delivery.outstanding.length * limits.sendTimeout ≤
        (slept.map Action.duration).sum := by
    decide +kernel +revert
  have in_schedule : busy.store.isNone ∧ busy.delivery.phase = .running ∧
      busy.delivery.outstanding.length = 3 ∧ busy.Punctual later ∧
      (busy.follow later).delivery.Settled ∧
      busy.delivery.now + busy.delivery.outstanding.length * limits.sendTimeout ≤
        (busy.follow later).delivery.now := by
    clear in_run
    decide +kernel +revert
  obtain ⟨dropped, running, left, long_enough⟩ := in_run
  obtain ⟨gone, under_way, held, punctual, settled, passed⟩ := in_schedule
  rw [Option.isNone_iff_eq_none] at dropped gone
  have awake : .stopDelivery ∉ slept := by simp [slept]
  have kept : .action .stopDelivery ∉ later := by simp [later]
  -- nothing is to be computed any more
  clear_value limits slept later first begun
  obtain ⟨schedules, runs⟩ := worksOff_follow limits false
  have after_run := runs first slept dropped running awake long_enough
  have after_schedule := schedules begun later gone under_way punctual kept settled passed
  exact ⟨⟨dropped, running, left, after_run⟩, gone, under_way, held, after_schedule⟩

end Service

end Attribution
