import Attribution.Proofs.Service.Schedule

/-!
# What is seen of a service

A history of a service is told by what is seen event by event: the jobs that are queued, what a
receiver is handed, the moves of a worker. What is seen of a schedule is all of this in order. A
look that sees nothing of what happens by itself sees the same of a run as of any schedule that
enacts it, and for every run there is a schedule without sleeps that does: a sleep is a row of
moves and ticks. So an order of events that is proved for such schedules is the order in a run.
-/

namespace Attribution

namespace Action

/-- The action lets time pass, and nothing else. -/
def isSleep : Action → Bool
  | .sleep _ => true
  | _ => false

end Action

namespace Service

variable {α : Type} {look : Service → Event → List α} {service : Service}

/-- What is seen of the events of a schedule, in order. -/
def observed (look : Service → Event → List α) (service : Service) : List Event → List α
  | [] => []
  | event :: more => look service event ++ observed look (service.occur event).service more

/-- What is seen of the actions of a run, in order. -/
def observedIn (look : Service → Event → List α) (service : Service) : List Action → List α
  | [] => []
  | action :: more =>
    look service (.action action) ++ observedIn look (service.step action).service more

/-- What became of records in the course of a run. -/
def reports (service : Service) : List Action → List Notice
  | [] => []
  | action :: more => (service.step action).notices ++ (service.step action).service.reports more

theorem observed_append (first second : List Event) :
    observed look service (first ++ second) =
      observed look service first ++ observed look (service.follow first) second := by
  induction first generalizing service with
  | nil => rfl
  | cons event more ih =>
    rw [List.cons_append, observed, observed, ih, follow_cons, List.append_assoc]

/-- What is seen was to be seen of some event, in the state in which it occurred. -/
theorem exists_of_mem_observed {seen : α} {schedule : List Event}
    (there : seen ∈ observed look service schedule) :
    ∃ first event later, schedule = first ++ event :: later ∧
      seen ∈ look (service.follow first) event := by
  induction schedule generalizing service with
  | nil => cases there
  | cons event more ih =>
    rcases List.mem_append.1 there with now | afterwards
    · exact ⟨[], event, more, rfl, now⟩
    · obtain ⟨first, later_event, later, rfl, seen_then⟩ := ih afterwards
      exact ⟨event :: first, later_event, later, rfl, seen_then⟩

/-- A notice was given on the occasion of some event. -/
theorem exists_of_mem_notices {notice : Notice} {schedule : List Event}
    (there : notice ∈ service.notices schedule) :
    ∃ first event later, schedule = first ++ event :: later ∧
      notice ∈ ((service.follow first).occur event).notices := by
  have seen (service : Service) (schedule : List Event) : service.notices schedule =
      observed (fun service event => (service.occur event).notices) service schedule := by
    induction schedule generalizing service with
    | nil => rfl
    | cons event more ih => exact congrArg (_ ++ ·) (ih _)
  rw [seen] at there
  exact exists_of_mem_observed there

/-- Where there is nothing to be seen at any moment nothing is seen. -/
theorem observed_eq_nil (nothing : ∀ first event, look (service.follow first) event = [])
    (schedule : List Event) : observed look service schedule = [] := by
  apply List.eq_nil_iff_forall_not_mem.2
  intro seen there
  obtain ⟨first, event, later, -, seen_then⟩ := exists_of_mem_observed there
  rw [nothing first event] at seen_then
  cases seen_then

/-- Where there is nothing to be seen of any event of a schedule nothing is seen. -/
theorem observed_eq_nil_of_mem {schedule : List Event}
    (nothing : ∀ service, ∀ event ∈ schedule, look service event = []) :
    observed look service schedule = [] := by
  apply List.eq_nil_iff_forall_not_mem.2
  intro seen there
  obtain ⟨first, event, later, rfl, seen_then⟩ := exists_of_mem_observed there
  rw [nothing _ event (List.mem_append_right first List.mem_cons_self)] at seen_then
  cases seen_then

theorem exists_of_mem_observedIn {seen : α} {actions : List Action}
    (there : seen ∈ observedIn look service actions) :
    ∃ first action later, actions = first ++ action :: later ∧
      seen ∈ look (service.run first) (.action action) := by
  induction actions generalizing service with
  | nil => cases there
  | cons action more ih =>
    rcases List.mem_append.1 there with now | afterwards
    · exact ⟨[], action, more, rfl, now⟩
    · obtain ⟨first, later_action, later, rfl, seen_then⟩ := ih afterwards
      exact ⟨action :: first, later_action, later, rfl, seen_then⟩

/-! ### Schedules without sleeps -/

/-- Time passes by itself, and nobody sleeps. -/
def Wakeful (schedule : List Event) : Prop :=
  ∀ duration, .action (.sleep duration) ∉ schedule

/-- Nothing is seen of what happens by itself. -/
structure SeesActions (look : Service → Event → List α) : Prop where
  move (service : Service) (worker : Nat) : look service (.move worker) = []
  tick (service : Service) (time : Nat) : look service (.tick time) = []
  sleep (service : Service) (duration : Nat) : look service (.action (.sleep duration)) = []

theorem wakeful_append {first later : List Event} :
    Wakeful (first ++ later) ↔ Wakeful first ∧ Wakeful later := by
  simp only [Wakeful, List.mem_append, not_or, forall_and]

theorem wakeful_cons {event : Event} {more : List Event} :
    Wakeful (event :: more) ↔
      (∀ duration, event ≠ .action (.sleep duration)) ∧ Wakeful more := by
  simp only [Wakeful, List.mem_cons, not_or, forall_and, ne_eq, eq_comm]

/-- A schedule without actions is wakeful. -/
theorem wakeful_of_silent {schedule : List Event}
    (silent : schedule.filterMap Event.action? = []) : Wakeful schedule := by
  intro duration there
  have listed : Action.sleep duration ∈ schedule.filterMap Event.action? :=
    List.mem_filterMap.2 ⟨_, there, rfl⟩
  rw [silent] at listed
  cases listed

theorem SeesActions.observed_silent (sees : SeesActions look) {schedule : List Event}
    (silent : schedule.filterMap Event.action? = []) : observed look service schedule = [] := by
  induction schedule generalizing service with
  | nil => rfl
  | cons event more ih =>
    rw [List.filterMap_cons] at silent
    cases event with
    | action action => cases silent
    | move worker =>
      rw [observed, sees.move, ih silent]
      rfl
    | tick time =>
      rw [observed, sees.tick, ih silent]
      rfl

/-- A schedule without sleeps does what a run does: with the same actions but for the sleeps, to the
same end, and with the same to be seen on the way. -/
structure Enacts (service : Service) (actions : List Action) (schedule : List Event) : Prop where
  wakeful : Wakeful schedule
  acts : schedule.filterMap Event.action? = actions.filter (! ·.isSleep)
  follow : service.follow schedule = service.run actions
  notices : service.notices schedule = service.reports actions
  observed {α : Type} {look : Service → Event → List α} :
    SeesActions look → observed look service schedule = observedIn look service actions

namespace Enacts

variable {action : Action} {more : List Action} {first later : List Event}

theorem nil (service : Service) : service.Enacts [] [] where
  wakeful _ := List.not_mem_nil
  acts := rfl
  follow := rfl
  notices := rfl
  observed _ := rfl

/-- One action after the other. -/
theorem cons (one : service.Enacts [action] first)
    (rest : (service.step action).service.Enacts more later) :
    service.Enacts (action :: more) (first ++ later) where
  wakeful := wakeful_append.2 ⟨one.wakeful, rest.wakeful⟩
  acts := by
    rw [List.filterMap_append, one.acts, rest.acts, ← List.filter_append]
    rfl
  follow := by
    have stepped : service.follow first = (service.step action).service := one.follow
    rw [follow_append, stepped, rest.follow, run_cons]
  notices := by
    have stepped : service.follow first = (service.step action).service := one.follow
    rw [notices_append, stepped, one.notices, rest.notices, reports, reports, reports,
      List.append_nil]
  observed sees := by
    have stepped : service.follow first = (service.step action).service := one.follow
    rw [observed_append, stepped, one.observed sees, rest.observed sees, observedIn, observedIn,
      observedIn, List.append_nil]

/-- A sleep is enacted by what happens in its course. -/
theorem exists_sleep (service : Service) (duration : Nat) :
    ∃ schedule, service.Enacts [.sleep duration] schedule := by
  have slept : service.delivery.Proceeds (service.step (.sleep duration)).notices
      (service.step (.sleep duration)).service.delivery :=
    (Delivery.Proceeds.advanceTo _ _).trans (.settle _)
  obtain ⟨schedule, silent, followed, noticed⟩ := exists_follow_of_proceeds slept rfl
  refine ⟨schedule, wakeful_of_silent silent, silent, followed, ?_, ?_⟩
  · rw [noticed, reports, reports, List.append_nil]
  · intro α look sees
    rw [sees.observed_silent silent, observedIn, observedIn, sees.sleep, List.append_nil]

theorem exists_step (service : Service) (action : Action) :
    ∃ schedule, service.Enacts [action] schedule := by
  cases asleep : action.isSleep with
  | true =>
    cases action with
    | sleep duration => exact exists_sleep service duration
    | _ => cases asleep
  | false =>
    obtain ⟨moves, silent, followed, noticed⟩ := service.exists_schedule_step action
    refine ⟨.action action :: moves, ?_, ?_, followed, ?_, ?_⟩
    · refine wakeful_cons.2 ⟨?_, wakeful_of_silent silent⟩
      rintro duration same
      cases same
      cases asleep
    · rw [List.filterMap_cons, silent, List.filter_cons, asleep]
      rfl
    · rw [noticed, reports, reports, List.append_nil]
    · intro α look sees
      rw [Service.observed, sees.observed_silent silent, observedIn, observedIn]

end Enacts

/-- Every run is enacted by a schedule without sleeps. -/
theorem exists_enacts (service : Service) (actions : List Action) :
    ∃ schedule, service.Enacts actions schedule := by
  induction actions generalizing service with
  | nil => exact ⟨[], .nil service⟩
  | cons action more ih =>
    obtain ⟨first, one⟩ := Enacts.exists_step service action
    obtain ⟨later, rest⟩ := ih (service.step action).service
    exact ⟨first ++ later, one.cons rest⟩

end Service

end Attribution
