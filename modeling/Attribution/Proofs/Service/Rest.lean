import Attribution.Proofs.Delivery.Quiescence
import Attribution.Proofs.Service.Impact

/-!
# A service at rest

Whatever is done to a service, its delivery stays orderly. The one thing that this needs to know
about the service is that a delivery expects jobs exactly as long as the store is there to make
them; so no worker goes while a job may still come. Whenever no worker can move, and that is
between any two actions of a run, a running delivery is quiescent.
-/

namespace Attribution

namespace Delivery

variable {delivery : Delivery}

/-! ### Whether jobs are expected -/

namespace Tended

variable {action : Action} {after : Delivery}

/-- Only with the store do the jobs come to an end. -/
theorem accepting_eq (tended : delivery.Tended action after) (kept : action ≠ .dropStore) :
    after.accepting = delivery.accepting := by
  cases tended with
  | closeIntake => exact absurd rfl kept
  | _ => rfl

theorem orderly {limits : Limits} (tended : delivery.Tended action after)
    (h : delivery.Orderly limits) : after.Orderly limits := by
  cases tended with
  | nothing => exact h
  | start => exact h.start
  | closeIntake => exact h.closeIntake
  | @addChannel name _ capacity => exact h.insert name (Nat.zero_le capacity)
  | @drain name channel found limit =>
    refine h.insert name ?_
    have before := h.channel_le name channel found
    simp only [Channel.drop, List.length_drop]
    omega
  | @closeChannel name channel found => exact h.insert name (Nat.zero_le channel.capacity)

end Tended

end Delivery

namespace Service

variable {service : Service}

theorem Dispatched.accepting_eq {resolved : List Metadata} {after : Delivery}
    {notices : List Notice} (dispatched : service.Dispatched resolved after notices) :
    after.accepting = service.delivery.accepting := by
  cases dispatched <;> rfl

/-- Jobs are expected exactly as long as the store is there to make them. -/
def Attended (service : Service) : Prop :=
  service.delivery.accepting = service.store.isSome

namespace Impact

variable {event : Event} {after : Delivery} {notices : List Notice} {limits : Limits}

theorem accepting_eq (impact : service.Impact event after notices)
    (kept : event ≠ .action .dropStore) : after.accepting = service.delivery.accepting := by
  cases impact with
  | fed _ _ _ dispatched => exact dispatched.accepting_eq
  | tended _ _ tended => exact tended.accepting_eq fun same => kept (congrArg Event.action same)
  | slept duration => exact Delivery.accepting_proceeds (.advanceTo _ _)
  | moved => exact Delivery.accepting_make _ _
  | _ => rfl

/-- Whatever happens to an orderly delivery, it is orderly afterwards. -/
theorem orderly (impact : service.Impact event after notices)
    (h : service.delivery.Orderly limits) (attended : service.Attended) :
    after.Orderly limits := by
  cases impact with
  | fed present mode updates dispatched =>
    have accepting : service.delivery.accepting = true := by
      rw [attended, present]
      rfl
    cases dispatched with
    | queued registered some_resolved place => exact h.withJob accepting place _
    | _ => exact h
  | unheard => exact h
  | stopped => exact h.stop
  | tended _ _ tended => exact tended.orderly h
  | slept duration => exact h.proceeds (.advanceTo _ _)
  | moved possible => exact h.make possible
  | stuck => exact h
  | ticked time => exact h.setClock time

end Impact

theorem Attended.occur (h : service.Attended) (event : Event) :
    (service.occur event).service.Attended := by
  by_cases dropped : event = .action .dropStore
  · subst dropped
    cases present : service.store with
    | none =>
      simp only [Service.occur, perform, withStore, present]
      exact h
    | some store =>
      simp only [Service.occur, perform, withStore, present]
      rfl
  · rw [Attended, (impact_occur service event).accepting_eq dropped, store_occur service dropped,
      Option.isSome_map]
    exact h

/-- What holds of a service at all times, as far as delivery is concerned. -/
structure Orderly (service : Service) (limits : Limits) : Prop where
  delivery : service.delivery.Orderly limits
  attended : service.Attended

theorem orderly_fresh (limits : Limits) (instrumented : Bool) :
    (fresh limits instrumented).Orderly limits :=
  ⟨.fresh limits, rfl⟩

theorem Orderly.follow {limits : Limits} (h : service.Orderly limits) (schedule : List Event) :
    (service.follow schedule).Orderly limits := by
  induction schedule generalizing service with
  | nil => exact h
  | cons event more ih =>
    have delivery := (impact_occur service event).orderly h.delivery h.attended
    exact ih ⟨delivery, h.attended.occur event⟩

theorem Orderly.run {limits : Limits} (h : service.Orderly limits) (actions : List Action) :
    (service.run actions).Orderly limits := by
  obtain ⟨schedule, -, same⟩ := exists_schedule service actions
  rw [← same]
  exact h.follow schedule

/-! ### Rest -/

/-- After a run that has begun no worker can move, and before it there is none. -/
theorem settled_run (h : service.delivery.Settled) (actions : List Action) :
    (service.run actions).delivery.Settled := by
  induction actions generalizing service with
  | nil => exact h
  | cons action more ih => exact ih (settled_step service action)

theorem settled_fresh (limits : Limits) (instrumented : Bool) :
    (fresh limits instrumented).delivery.Settled :=
  fun i => Delivery.move?_eq_none_of_size_le (Nat.zero_le i)

/-- Whenever the workers of a running delivery have done all that they can, the delivery is
quiescent, whatever was done to the service and whichever worker moved when; and in a run this is
after every action. It is so for every timeout: where there is none nobody waits. -/
theorem quiescent_follow (limits : Limits) (instrumented : Bool) :
    (∀ schedule : List Event,
      ((fresh limits instrumented).follow schedule).delivery.Settled →
      ((fresh limits instrumented).follow schedule).delivery.phase = .running →
        ((fresh limits instrumented).follow schedule).delivery.Quiescent limits) ∧
    ∀ actions : List Action,
      ((fresh limits instrumented).run actions).delivery.phase = .running →
        ((fresh limits instrumented).run actions).delivery.Quiescent limits := by
  have orderly (schedule : List Event) :=
    (orderly_fresh limits instrumented).follow schedule
  refine ⟨fun schedule settled running => ?_, fun actions running => ?_⟩
  · exact (orderly schedule).delivery.quiescent settled running
  · have settled := settled_run (settled_fresh limits instrumented) actions
    obtain ⟨schedule, -, same⟩ := exists_schedule (fresh limits instrumented) actions
    rw [← same] at running settled ⊢
    exact (orderly schedule).delivery.quiescent settled running

/-- A single worker waits on a full channel, and a further job is queued behind its own. -/
theorem quiescent_follow_full_channel :
    let limits : Limits := { workers := 1 }
    let report (pod : String) : Action :=
      .apply .incremental
        [⟨⟨"a"⟩, some (.ofReports [.container ⟨"c"⟩ ⟨⟨"a"⟩, pod, "app", ⟨"c"⟩⟩])⟩]
    let schedule : List Event :=
      [.action (.register "callbacks" (some 1)), .action .startDelivery, .move 0,
        .action (.want ⟨"c"⟩), .action (report "pod-0"), .move 0, .move 0, .move 0,
        .action (.want ⟨"c"⟩), .action (report "pod-1"), .move 0,
        .action (.want ⟨"c"⟩), .action (report "pod-2")]
    let delivery := ((fresh limits false).follow schedule).delivery
    delivery.Settled ∧ delivery.phase = .running ∧ delivery.queue.length = 1 ∧
      delivery.Quiescent limits := by
  intro limits report schedule delivery
  have alone : delivery.workers.size = 1 := by decide +kernel +revert
  have waits : delivery.move? 0 = none := by decide +kernel +revert
  have running : delivery.phase = .running := by decide +kernel +revert
  have queued : delivery.queue.length = 1 := by decide +kernel +revert
  have settled : delivery.Settled := by
    intro i
    cases i with
    | zero => exact waits
    | succ i => exact Delivery.move?_eq_none_of_size_le (by omega)
  exact ⟨settled, running, queued, (quiescent_follow limits false).1 schedule settled running⟩

end Service

end Attribution
