import Attribution.Proofs.Delivery.Passage
import Attribution.Service

/-!
# Schedules

`Service.step` lets the workers move in one particular order, and until they come to rest. A
schedule leaves both open: between actions any worker may move that can, or none, and the clock
may go on at any time. What a service does by `run` is one schedule out of many, which
`exists_schedule` says; so what holds for every schedule holds for a run.
-/

namespace Attribution

/-- What can happen next to a service. -/
inductive Event where
  | action (action : Action)
  /-- A worker moves, if it can. -/
  | move (worker : Nat)
  | tick (time : Nat)

namespace Event

/-- The action that an event is, if it is one. -/
def action? : Event → Option Action
  | .action given => some given
  | _ => none

end Event

/-- The actions of a schedule are those of its events that are actions. -/
theorem mem_filterMap_action? {schedule : List Event} {action : Action} :
    action ∈ schedule.filterMap Event.action? ↔ .action action ∈ schedule := by
  constructor
  · intro listed
    obtain ⟨event, there, acts⟩ := List.mem_filterMap.1 listed
    cases event with
    | action given =>
      cases acts
      exact there
    | _ => cases acts
  · exact fun there => List.mem_filterMap.2 ⟨_, there, rfl⟩

namespace Counters

theorem noted_append (counters : Counters) (first second : List Notice) :
    counters.noted (first ++ second) = (counters.noted first).noted second := by
  simp only [noted, Tally.addAll, List.foldl_append]

end Counters

namespace Service

/-- What comes of an event. The workers do nothing on the occasion of an action but what takes
place in its course. -/
def occur (service : Service) : Event → Reaction
  | .action action =>
    let reaction := service.perform action
    { reaction with
      service :=
        { reaction.service with counters := reaction.service.counters.noted reaction.notices } }
  | .move worker =>
    match service.delivery.move? worker with
    | some move =>
      { service :=
          { service with
            delivery := service.delivery.make worker move
            counters := service.counters.noted move.notice?.toList }
        answer := .done
        notices := move.notice?.toList }
    | none => service.answering .done
  | .tick time =>
    { service with delivery := service.delivery.setClock time }.answering .done

/-- The service after the events of a schedule. -/
def follow (service : Service) (schedule : List Event) : Service :=
  schedule.foldl (fun service event => (service.occur event).service) service

@[simp] theorem follow_nil (service : Service) : service.follow [] = service := rfl

@[simp] theorem follow_cons (service : Service) (event : Event) (more : List Event) :
    service.follow (event :: more) = (service.occur event).service.follow more := rfl

theorem follow_append (service : Service) (first second : List Event) :
    service.follow (first ++ second) = (service.follow first).follow second :=
  List.foldl_append

/-- What became of records in the course of a schedule. -/
def notices (service : Service) : List Event → List Notice
  | [] => []
  | event :: more => (service.occur event).notices ++ (service.occur event).service.notices more

theorem notices_append (service : Service) (first second : List Event) :
    service.notices (first ++ second) =
      service.notices first ++ (service.follow first).notices second := by
  induction first generalizing service with
  | nil => rfl
  | cons event more ih =>
    rw [List.cons_append, notices, notices, ih, follow_cons, List.append_assoc]

/-- Whatever a delivery does by itself is a schedule without actions. -/
theorem exists_follow_of_proceeds {before after : Delivery} {notices : List Notice}
    (by_itself : before.Proceeds notices after) {service : Service}
    (same : service.delivery = before) :
    ∃ schedule : List Event, schedule.filterMap Event.action? = [] ∧
      service.follow schedule =
        { service with delivery := after, counters := service.counters.noted notices } ∧
      service.notices schedule = notices := by
  induction by_itself generalizing service with
  | rest =>
    subst same
    exact ⟨[], rfl, rfl, rfl⟩
  | @move _ after i move notices possible _ ih =>
    subst same
    have moved : (service.occur (.move i)).service.delivery = service.delivery.make i move := by
      simp only [occur, possible]
    obtain ⟨schedule, silent, followed, noticed⟩ := ih moved
    refine ⟨.move i :: schedule, silent, ?_, ?_⟩
    · rw [follow_cons, followed]
      simp only [occur, possible, Counters.noted_append]
    · rw [Service.notices, noticed]
      simp only [occur, possible]
  | @tick _ _ _ time _ ih =>
    subst same
    have later : (service.occur (.tick time)).service.delivery = service.delivery.setClock time :=
      rfl
    obtain ⟨schedule, silent, followed, noticed⟩ := ih later
    refine ⟨.tick time :: schedule, silent, ?_, ?_⟩
    · rw [follow_cons, followed]
      rfl
    · rw [Service.notices, noticed]
      rfl

/-- An action, and what the workers do after it. -/
theorem exists_schedule_step (service : Service) (action : Action) :
    ∃ moves : List Event, moves.filterMap Event.action? = [] ∧
      service.follow (.action action :: moves) = (service.step action).service ∧
      service.notices (.action action :: moves) = (service.step action).notices := by
  have begun : (service.occur (.action action)).service.delivery =
      (service.perform action).service.delivery := rfl
  obtain ⟨moves, silent, followed, noticed⟩ := exists_follow_of_proceeds (.settle _) begun
  refine ⟨moves, silent, ?_, ?_⟩
  · rw [follow_cons, followed]
    simp only [occur, step, Counters.noted_append]
  · rw [notices, noticed]
    rfl

/-- A run is a schedule. -/
theorem exists_schedule (service : Service) (actions : List Action) :
    ∃ schedule : List Event, schedule.filterMap Event.action? = actions ∧
      service.follow schedule = service.run actions := by
  induction actions generalizing service with
  | nil => exact ⟨[], rfl, rfl⟩
  | cons action more ih =>
    obtain ⟨moves, silent, stepped, -⟩ := service.exists_schedule_step action
    obtain ⟨later, afterwards, followed⟩ := ih (service.step action).service
    refine ⟨(.action action :: moves) ++ later, ?_, ?_⟩
    · rw [List.filterMap_append, afterwards, List.filterMap_cons, silent]
      rfl
    · rw [follow_append, stepped, followed, run_cons]

end Service

end Attribution
