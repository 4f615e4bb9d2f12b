import Attribution.Proofs.Service.Impact

/-!
# How far a delivery has come

A delivery is started once, if ever, and it can be given up at any time, before or after. Nothing
else changes its phase: neither the end of the store nor the last worker that goes. So a delivery
is running after a schedule exactly if it was started in its course and never given up.
-/

namespace Attribution

namespace Delivery

variable {delivery : Delivery}

theorem Tended.phase_eq {action : Action} {after : Delivery}
    (tended : delivery.Tended action after) (no_start : action ≠ .startDelivery) :
    after.phase = delivery.phase := by
  cases tended with
  | start => exact absurd rfl no_start
  | _ => rfl

end Delivery

namespace Service

variable {service : Service}

theorem Impact.phase_eq {event : Event} {after : Delivery} {notices : List Notice}
    (impact : service.Impact event after notices) (no_start : event ≠ .action .startDelivery)
    (no_stop : event ≠ .action .stopDelivery) : after.phase = service.delivery.phase := by
  cases impact with
  | fed _ _ _ dispatched => cases dispatched <;> rfl
  | stopped => exact absurd rfl no_stop
  | tended _ _ tended => exact tended.phase_eq fun same => no_start (congrArg Event.action same)
  | slept duration => exact Delivery.phase_proceeds (.advanceTo _ _)
  | moved => exact Delivery.phase_make _ _
  | _ => rfl

/-- Only a delivery that was neither started nor given up before can be started. -/
theorem phase_occur_start (service : Service) :
    (service.occur (.action .startDelivery)).service.delivery.phase =
      if service.delivery.phase = .unstarted then .running else service.delivery.phase := by
  simp only [occur, perform]
  split <;> rfl

/-- A delivery that was given up stays so. -/
theorem stopped_occur (stopped : service.delivery.phase = .stopped) (event : Event) :
    (service.occur event).service.delivery.phase = .stopped := by
  by_cases start : event = .action .startDelivery
  · rw [start, phase_occur_start, stopped]
    rfl
  by_cases stop : event = .action .stopDelivery
  · rw [stop]
    rfl
  rw [(impact_occur service event).phase_eq start stop, stopped]

theorem stopped_follow (stopped : service.delivery.phase = .stopped) (schedule : List Event) :
    (service.follow schedule).delivery.phase = .stopped := by
  induction schedule generalizing service with
  | nil => exact stopped
  | cons event more ih => exact ih (stopped_occur stopped event)

theorem running_occur_iff (going : service.delivery.phase ≠ .stopped) {event : Event}
    (no_stop : event ≠ .action .stopDelivery) :
    ((service.occur event).service.delivery.phase = .running ↔
        service.delivery.phase = .running ∨ event = .action .startDelivery) ∧
      (service.occur event).service.delivery.phase ≠ .stopped := by
  by_cases start : event = .action .startDelivery
  · rw [start, phase_occur_start]
    cases phase : service.delivery.phase with
    | stopped => exact absurd phase going
    | _ => simp
  · rw [(impact_occur service event).phase_eq start no_stop]
    simp [start, going]

theorem running_follow_iff (going : service.delivery.phase ≠ .stopped) {schedule : List Event}
    (no_stop : .action .stopDelivery ∉ schedule) :
    (service.follow schedule).delivery.phase = .running ↔
      service.delivery.phase = .running ∨ .action .startDelivery ∈ schedule := by
  induction schedule generalizing service with
  | nil => simp
  | cons event more ih =>
    obtain ⟨first, later⟩ := not_or.1 (mt List.mem_cons.2 no_stop)
    obtain ⟨running_iff, going_on⟩ := running_occur_iff going (Ne.symm first)
    rw [follow_cons, ih going_on later, running_iff, List.mem_cons, or_assoc, @eq_comm _ event]

/-- A delivery is running from its start on, unless it is given up. -/
theorem running_follow_fresh (limits : Limits) (instrumented : Bool) (schedule : List Event) :
    ((fresh limits instrumented).follow schedule).delivery.phase = .running ↔
      .action .startDelivery ∈ schedule ∧ .action .stopDelivery ∉ schedule := by
  by_cases stop : .action .stopDelivery ∈ schedule
  · obtain ⟨first, later, rfl⟩ := List.append_of_mem stop
    have stopped : ((fresh limits instrumented).follow
        (first ++ .action .stopDelivery :: later)).delivery.phase = .stopped := by
      rw [follow_append, follow_cons]
      exact stopped_follow rfl later
    simp [stopped]
  · have unstarted : (fresh limits instrumented).delivery.phase = .unstarted := rfl
    rw [running_follow_iff (by rw [unstarted]; decide) stop, unstarted]
    simp [stop]

end Service

end Attribution
