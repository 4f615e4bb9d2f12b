import Attribution.Proofs.Delivery.Pace
import Attribution.Proofs.Service.Observation
import Attribution.Proofs.Service.Rest

/-!
# Sleeping in parts

Nothing is to be seen of where a sleep ends and the next one begins. The clock stops at every
deadline anyhow; where it stops besides, the workers are at rest, and before the next deadline there
is nothing that they could do. So two sleeps that follow one another leave behind what one sleep
does that is as long as both. A record that is given up lets its worker go on, with deadlines of its
own; that these are met by either way is what the induction over the deadlines says.
-/

namespace Attribution

namespace Delivery

variable {delivery : Delivery} {time first second : Nat}

theorem setClock_setClock (le : first ≤ second) :
    (delivery.setClock first).setClock second = delivery.setClock second := by
  simp only [setClock, Nat.max_assoc, Nat.max_eq_right le]

/-- Before the first deadline it does not matter where the clock stands. -/
theorem advanceTo_setClock (le : first ≤ second)
    (early : ∀ deadline ∈ delivery.deadlines, first < deadline) :
    (delivery.setClock first).advanceTo second = delivery.advanceTo second := by
  cases due : (delivery.deadlinesUntil second).min? with
  | none =>
    have due_then : ((delivery.setClock first).deadlinesUntil second).min? = none := due
    rw [advanceTo_of_none due_then, advanceTo_of_none due, setClock_setClock le]
  | some next =>
    have due_then : ((delivery.setClock first).deadlinesUntil second).min? = some next := due
    have before : first ≤ next := (early next (mem_deadlines_of_min? due)).le
    rw [advanceTo_of_some due_then, advanceTo_of_some due, setClock_setClock before]

/-- The first deadline until a time is also the first until any later time. -/
theorem min?_deadlinesUntil_of_le (le : first ≤ second) {next : Nat}
    (due : (delivery.deadlinesUntil first).min? = some next) :
    (delivery.deadlinesUntil second).min? = some next := by
  obtain ⟨until_first, least⟩ := le_of_min?_deadlinesUntil due
  have until_second : next ≤ second := until_first.trans le
  refine List.min?_eq_some_iff.2 ⟨?_, ?_⟩
  · exact List.mem_filter.2 ⟨mem_deadlines_of_min? due, decide_eq_true until_second⟩
  · exact fun deadline listed => least deadline (List.mem_filter.1 listed).1

/-- Time may be let pass up to some moment first. -/
theorem advanceTo_advanceTo (delivery : Delivery) (le : first ≤ second) :
    delivery.advanceTo second =
      (((delivery.advanceTo first).1.advanceTo second).1,
        (delivery.advanceTo first).2 ++ ((delivery.advanceTo first).1.advanceTo second).2) := by
  fun_induction advanceTo delivery first with
  | case1 delivery nothing_due =>
    rw [advanceTo_setClock le (lt_of_min?_deadlinesUntil_eq_none nothing_due)]
    rfl
  | case2 delivery next due less settled later ih =>
    rw [advanceTo_of_some (min?_deadlinesUntil_of_le le due), ih, List.append_assoc]

/-- Who has to wait has to wait until the deadline, if nothing else changes. -/
theorem outcome?_setClock {current : Sending} (waits : delivery.outcome? current = none)
    (early : time < current.deadline) : (delivery.setClock time).outcome? current = none := by
  obtain ⟨channel, found, opened, full, due⟩ := exists_channel_of_outcome?_eq_none waits
  have crowded : ¬ delivery.ahead current < channel.room := Nat.not_lt.2 full
  have not_yet : ¬ current.deadline ≤ max delivery.now time :=
    Nat.not_le.2 (Nat.max_lt.2 ⟨due, early⟩)
  have found_then : (delivery.setClock time).channels[current.channel]? = some channel := found
  rw [outcome?, found_then]
  change (if !channel.isOpen then _ else if delivery.ahead current < channel.room then _
    else if current.deadline ≤ max delivery.now time then _ else _) = _
  rw [opened, if_neg (by decide), if_neg crowded, if_neg not_yet]

/-- Who is at rest stays so until the first deadline. -/
theorem Settled.setClock (h : delivery.Settled)
    (early : ∀ deadline ∈ delivery.deadlines, time < deadline) :
    (delivery.setClock time).Settled := by
  intro i
  have rests := h i
  have same : (delivery.setClock time).workers[i]? = delivery.workers[i]? := rfl
  rw [move?, same]
  rw [move?] at rests
  cases at_i : delivery.workers[i]? with
  | none => rfl
  | some worker =>
    rw [at_i] at rests
    cases worker with
    | sending current =>
      have there := Array.mem_of_getElem? at_i
      have later : time < current.deadline :=
        early _ (List.mem_filterMap.2 ⟨_, Array.mem_toList_iff.2 there, rfl⟩)
      exact Option.map_eq_none_iff.2 (outcome?_setClock (h.outcome?_eq_none there) later)
    | _ => exact rests

theorem Settled.advanceTo (h : delivery.Settled) (time : Nat) :
    (delivery.advanceTo time).1.Settled := by
  fun_induction Delivery.advanceTo delivery time with
  | case1 delivery nothing_due => exact h.setClock (lt_of_min?_deadlinesUntil_eq_none nothing_due)
  | case2 delivery next due less settled later ih => exact ih (settled_settle _)

/-- Where no worker can move nothing happens without the passing of time. -/
theorem Settled.sleep_zero (h : delivery.Settled) : delivery.sleep 0 = (delivery, []) := by
  have nothing_due : (delivery.deadlinesUntil delivery.now).min? = none := by
    rw [List.min?_eq_none_iff, deadlinesUntil, List.filter_eq_nil_iff]
    intro deadline listed
    obtain ⟨worker, there, due⟩ := List.mem_filterMap.1 listed
    cases worker with
    | sending current =>
      cases due
      have waits := h.outcome?_eq_none (Array.mem_toList_iff.1 there)
      obtain ⟨-, -, -, -, early⟩ := exists_channel_of_outcome?_eq_none waits
      simpa using early
    | _ => cases due
  rw [sleep, Nat.add_zero, advanceTo_of_none nothing_due, Delivery.setClock, Nat.max_self]

theorem sleep_add (delivery : Delivery) (one other : Nat) :
    delivery.sleep (one + other) =
      (((delivery.sleep one).1.sleep other).1,
        (delivery.sleep one).2 ++ ((delivery.sleep one).1.sleep other).2) := by
  have stands := now_sleep delivery one
  rw [sleep, advanceTo_advanceTo delivery (Nat.add_le_add_left (Nat.le_add_right one other) _)]
  rw [sleep, sleep, ← sleep, stands, Nat.add_assoc]

end Delivery

namespace Service

variable {service : Service}

/-- After a sleep nobody has anything left to do, so nothing more becomes of the step. -/
theorem step_sleep (settled : service.delivery.Settled) (duration : Nat) :
    service.step (.sleep duration) =
      { service :=
          { service with
            delivery := (service.delivery.sleep duration).1
            counters := service.counters.noted (service.delivery.sleep duration).2 }
        answer := .done
        notices := (service.delivery.sleep duration).2 } := by
  have rests := Delivery.settle_of_settled (settled.advanceTo (service.delivery.now + duration))
  simp only [step, perform]
  rw [Delivery.sleep, rests, List.append_nil]

/-- It makes no difference into how many sleeps a time is cut, and where: neither for the state that
they lead to nor for what becomes of records on the way. -/
structure SleepsInParts (service : Service) : Prop where
  run_two (one other : Nat) :
    service.run [.sleep one, .sleep other] = service.run [.sleep (one + other)]
  reports_two (one other : Nat) :
    service.reports [.sleep one, .sleep other] = service.reports [.sleep (one + other)]
  run_many (durations : List Nat) :
    service.run (durations.map .sleep) = service.run [.sleep durations.sum]
  reports_many (durations : List Nat) :
    service.reports (durations.map .sleep) = service.reports [.sleep durations.sum]

/-- Two sleeps, by what is left behind and by what is reported. -/
theorem sleep_two (settled : service.delivery.Settled) (one other : Nat) :
    service.run [.sleep one, .sleep other] = service.run [.sleep (one + other)] ∧
      service.reports [.sleep one, .sleep other] = service.reports [.sleep (one + other)] := by
  have first := step_sleep settled one
  have settled_then : (service.step (.sleep one)).service.delivery.Settled := settled_step _ _
  have second := step_sleep settled_then other
  rw [first] at second
  have whole := step_sleep settled (one + other)
  rw [Delivery.sleep_add, Counters.noted_append] at whole
  simp only [run_cons, run_nil, reports, first, second, whole, List.append_nil, and_self]

theorem sleep_many (settled : service.delivery.Settled) (durations : List Nat) :
    service.run (durations.map .sleep) = service.run [.sleep durations.sum] ∧
      service.reports (durations.map .sleep) = service.reports [.sleep durations.sum] := by
  induction durations generalizing service with
  | nil =>
    have still := step_sleep settled 0
    rw [settled.sleep_zero] at still
    simp only [List.map_nil, List.sum_nil, run_cons, run_nil, reports, still, List.append_nil]
    exact ⟨rfl, trivial⟩
  | cons duration more ih =>
    obtain ⟨same, reported⟩ := sleep_two settled duration more.sum
    obtain ⟨same_later, reported_later⟩ := ih (settled_step service (.sleep duration))
    rw [List.map_cons, List.sum_cons, ← same, ← reported, run_cons, same_later, reports,
      reported_later]
    exact ⟨rfl, rfl⟩

theorem sleepsInParts_of_settled (settled : service.delivery.Settled) : service.SleepsInParts where
  run_two one other := (sleep_two settled one other).1
  reports_two one other := (sleep_two settled one other).2
  run_many durations := (sleep_many settled durations).1
  reports_many durations := (sleep_many settled durations).2

/-- Whenever the workers have done all that they can, whatever was done before and whichever worker
moved when, and so between any two actions of a run, a sleep may be cut into parts. The states are
the same in every respect: the queue, the workers with the records that they hold and their
deadlines, the channels, the counters, and whether the delivery is over. It is so for every timeout:
where there is none nobody waits for time to pass. -/
theorem parts_follow (limits : Limits) (instrumented : Bool) :
    (∀ schedule : List Event,
      ((fresh limits instrumented).follow schedule).delivery.Settled →
        ((fresh limits instrumented).follow schedule).SleepsInParts) ∧
    ∀ actions : List Action, ((fresh limits instrumented).run actions).SleepsInParts :=
  ⟨fun _ settled => sleepsInParts_of_settled settled,
    fun actions =>
      sleepsInParts_of_settled (settled_run (settled_fresh limits instrumented) actions)⟩

/-- Of three records the first fills the channel, and the others are given up one after the other,
each ten milliseconds after its worker has turned to it. The time is cut at the first deadline. -/
theorem parts_follow_cut_at_deadline :
    let limits : Limits := { workers := 1, sendTimeout := 10 }
    let report : Action := .apply .incremental
      [⟨⟨"a"⟩, some (.ofReports (["c0", "c1", "c2"].map fun name =>
        .container ⟨name⟩ ⟨⟨"a"⟩, "pod", "app", ⟨name⟩⟩))⟩]
    let schedule : List Event :=
      [.action (.register "callbacks" (some 1)), .action (.want ⟨"c0"⟩), .action (.want ⟨"c1"⟩),
        .action (.want ⟨"c2"⟩), .action report, .action .startDelivery, .move 0, .move 0, .move 0]
    let service := (fresh limits false).follow schedule
    service.delivery.Settled ∧ service.delivery.deadlines = [10] ∧
      (service.run [.sleep 10]).delivery.deadlines = [20] ∧
      (service.run [.sleep 10, .sleep 15]).counters.outcomes.timeout = 2 := by
  intro limits report schedule service
  have alone : service.delivery.workers.size = 1 := by decide +kernel +revert
  have waits : service.delivery.move? 0 = none := by decide +kernel +revert
  have due : service.delivery.deadlines = [10] := by decide +kernel +revert
  have due_next : (service.run [.sleep 10]).delivery.deadlines = [20] := by
    decide +kernel +revert
  have whole : (service.run [.sleep 25]).counters.outcomes.timeout = 2 := by
    decide +kernel +revert
  have settled : service.delivery.Settled := by
    intro i
    cases i with
    | zero => exact waits
    | succ i => exact Delivery.move?_eq_none_of_size_le (by omega)
  have same : service.run [.sleep 10, .sleep 15] = service.run [.sleep 25] :=
    ((parts_follow limits false).1 schedule settled).run_two 10 15
  exact ⟨settled, due, due_next, by rw [same, whole]⟩

end Service

end Attribution
