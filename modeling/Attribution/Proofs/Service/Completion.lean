import Attribution.Proofs.Service.Phase
import Attribution.Proofs.Service.Rest
import Attribution.Proofs.Service.Transit

/-!
# When a delivery is over

The workers of a delivery go one by one, each when it finds the queue empty and no more jobs to
come. So a worker that has gone says that the store was dropped and that nothing is queued; that
all have gone says, beyond this, that nobody holds a record. The converse needs the workers to be
at rest: whoever has nothing to do and nothing to wait for would go.

When all have gone it is over. There is nobody left who could move, the store cannot come back, and
a delivery is not started twice; so no record meets an outcome any more.
-/

namespace Attribution

namespace Delivery

variable {delivery : Delivery}

/-- All workers have gone, or none ever came. -/
def Deserted (delivery : Delivery) : Prop :=
  ∀ worker ∈ delivery.workers, worker = .ended

/-- All workers of a running delivery have gone. -/
theorem completed?_eq_some_true_iff :
    delivery.completed? = some true ↔ delivery.phase = .running ∧ delivery.Deserted := by
  rw [completed?, Deserted]
  split
  · rename_i running
    rw [Option.some.injEq, Array.all_eq_true']
    simp [running]
  · rename_i resting
    simp [resting]

theorem Deserted.settled (deserted : delivery.Deserted) : delivery.Settled := by
  intro i
  rw [move?]
  split
  · rfl
  · rfl
  all_goals
    rename_i at_i
    cases deserted _ (Array.mem_of_getElem? at_i)

/-- Where everybody has gone nothing happens by itself but the passing of time. -/
theorem Deserted.proceeds {after : Delivery} {notices : List Notice}
    (by_itself : delivery.Proceeds notices after) (deserted : delivery.Deserted) :
    notices = [] ∧ after.Deserted := by
  induction by_itself with
  | rest => exact ⟨rfl, deserted⟩
  | @move _ _ i _ _ possible =>
    rw [deserted.settled i] at possible
    cases possible
  | tick time _ ih => exact ih deserted

/-- At rest everybody has gone where nothing is left to do and nothing can come. -/
theorem Settled.deserted (h : delivery.Settled) (queue : delivery.queue = [])
    (closed : delivery.accepting = false)
    (hands : ∀ worker ∈ delivery.workers, worker.outstanding = []) : delivery.Deserted := by
  intro worker there
  obtain ⟨i, at_i⟩ := Array.getElem?_of_mem there
  cases worker with
  | arriving => exact absurd there h.not_arriving
  | inLine turn =>
    have rests := h i
    simp only [move?, at_i, serve?, queue, closed] at rests
    cases rests
  | sending current => cases hands _ there
  | ended => rfl

end Delivery

namespace Service

variable {service : Service}

/-- The store was dropped, and of the jobs that it made nothing is queued and nothing held. -/
structure Exhausted (service : Service) : Prop where
  dropped : service.store = none
  queue : service.delivery.queue = []
  hands : ∀ worker ∈ service.delivery.workers, worker.outstanding = []

/-- Between two states of a service no record was counted and none entered a channel: what a
channel holds is what it held before, or the newest part of it. -/
structure AddsNothing (service after : Service) : Prop where
  counters : after.counters.outcomes = service.counters.outcomes
  inbox (name : ChannelName) : after.delivery.inbox name <:+ service.delivery.inbox name

/-! ### Completion -/

/-- A pool has at least one worker; if it has gone, there is nothing more to come. -/
theorem Orderly.exhausted {limits : Limits} (h : service.Orderly limits)
    (completed : service.delivery.completed? = some true) : service.Exhausted := by
  obtain ⟨running, deserted⟩ := Delivery.completed?_eq_some_true_iff.1 completed
  have first : .ended ∈ service.delivery.workers := by
    have there := Array.getElem_mem (h.delivery.size_pos running)
    rwa [deserted _ there] at there
  obtain ⟨queue, closed⟩ := h.delivery.gone first
  refine ⟨?_, queue, ?_⟩
  · rw [h.attended] at closed
    exact Option.isNone_iff_eq_none.1 (Option.isSome_eq_false_iff.1 closed)
  · intro worker there
    rw [deserted worker there]
    rfl

theorem Exhausted.completed {limits : Limits} (exhausted : service.Exhausted)
    (h : service.Orderly limits) (running : service.delivery.phase = .running)
    (settled : service.delivery.Settled) : service.delivery.completed? = some true := by
  have closed : service.delivery.accepting = false := by
    rw [h.attended, exhausted.dropped]
    rfl
  exact Delivery.completed?_eq_some_true_iff.2
    ⟨running, settled.deserted exhausted.queue closed exhausted.hands⟩

/-! ### Afterwards -/

/-- Nobody can make a job, start the delivery or move. -/
structure Over (service : Service) : Prop where
  dropped : service.store = none
  started : service.delivery.phase ≠ .unstarted
  deserted : service.delivery.Deserted

theorem Over.impact {event : Event} {after : Delivery} {notices : List Notice}
    (h : service.Over) (impact : service.Impact event after notices) :
    notices = [] ∧ after.phase ≠ .unstarted ∧ after.Deserted := by
  have same : [] = ([] : List Notice) ∧ service.delivery.phase ≠ .unstarted ∧
      service.delivery.Deserted := ⟨rfl, h.started, h.deserted⟩
  cases impact with
  | fed present =>
    rw [h.dropped] at present
    cases present
  | stopped =>
    refine ⟨rfl, nofun, fun worker there => ?_⟩
    simp [Delivery.stop] at there
  | tended _ _ tended =>
    cases tended with
    | start unstarted => exact absurd unstarted h.started
    | _ => exact same
  | slept duration =>
    have slept : service.delivery.Proceeds (service.delivery.sleep duration).2
        (service.delivery.sleep duration).1 := .advanceTo _ _
    obtain ⟨silent, deserted⟩ := h.deserted.proceeds slept
    exact ⟨silent, (Delivery.phase_proceeds slept).symm ▸ h.started, deserted⟩
  | @moved i move possible =>
    rw [h.deserted.settled i] at possible
    cases possible
  | _ => exact same

theorem Over.occur (h : service.Over) (event : Event) :
    (service.occur event).notices = [] ∧ (service.occur event).service.Over := by
  obtain ⟨silent, started, deserted⟩ := h.impact (impact_occur service event)
  exact ⟨silent, store_follow_none h.dropped [event], started, deserted⟩

/-- When it is over nothing becomes of records any more. -/
theorem Over.notices_eq_nil (h : service.Over) (schedule : List Event) :
    service.notices schedule = [] := by
  induction schedule generalizing service with
  | nil => rfl
  | cons event more ih =>
    obtain ⟨silent, h⟩ := h.occur event
    rw [notices, silent, ih h]
    rfl

theorem Over.addsNothing (h : service.Over) (schedule : List Event) :
    service.AddsNothing (service.follow schedule) where
  counters := by
    rw [outcomes_follow, notices_ledger, h.notices_eq_nil schedule]
    rfl
  inbox name := by
    have law : service.delivery.inbox name ++ _ = _ := inbox_follow schedule name
    rw [h.notices_eq_nil schedule] at law
    have nothing : entering name [] = [] := rfl
    rw [nothing, List.append_nil] at law
    exact ⟨_, law.symm⟩

/-! ### Completion over whole schedules -/

/-- When a delivery that was started, and not given up, is over, and what is left to happen then. -/
structure EndsDuly (service : Service) : Prop where
  answered : service.delivery.completed?.isSome
  completed_iff : service.delivery.Settled →
    (service.delivery.completed? = some true ↔ service.Exhausted)
  /-- Also while others still move, nothing is left behind. -/
  exhausted : service.delivery.completed? = some true → service.Exhausted
  follow (later : List Event) : service.delivery.completed? = some true →
    service.AddsNothing (service.follow later)
  run (later : List Action) : service.delivery.completed? = some true →
    service.AddsNothing (service.run later)

theorem Orderly.endsDuly {limits : Limits} (h : service.Orderly limits)
    (running : service.delivery.phase = .running) : service.EndsDuly := by
  have follow (later : List Event) (completed : service.delivery.completed? = some true) :
      service.AddsNothing (service.follow later) := by
    have is_over : service.Over := by
      refine ⟨(h.exhausted completed).dropped, ?_,
        (Delivery.completed?_eq_some_true_iff.1 completed).2⟩
      rw [running]
      decide
    exact is_over.addsNothing later
  refine ⟨?_, ?_, h.exhausted, follow, ?_⟩
  · rw [Delivery.completed?, if_pos running]
    rfl
  · intro settled
    exact ⟨h.exhausted, fun exhausted => exhausted.completed h running settled⟩
  · intro later completed
    obtain ⟨schedule, -, same⟩ := exists_schedule service later
    rw [← same]
    exact follow schedule completed

/-- A delivery that was started and not given up is over exactly if the store was dropped and no
record is queued or held, as soon as the workers have done all that they can; whatever was done to
the service and whichever worker moved when, and after every action of a run. From then on no
record is counted any more, and none enters a channel. -/
theorem completes_follow (limits : Limits) (instrumented : Bool) :
    (∀ schedule : List Event,
      .action .startDelivery ∈ schedule → .action .stopDelivery ∉ schedule →
        ((fresh limits instrumented).follow schedule).EndsDuly) ∧
    ∀ actions : List Action, .startDelivery ∈ actions → .stopDelivery ∉ actions →
      ((fresh limits instrumented).run actions).delivery.Settled ∧
        ((fresh limits instrumented).run actions).EndsDuly := by
  have ends (schedule : List Event) (started : .action .startDelivery ∈ schedule)
      (kept : .action .stopDelivery ∉ schedule) :
      ((fresh limits instrumented).follow schedule).EndsDuly := by
    have running := (running_follow_fresh limits instrumented schedule).2 ⟨started, kept⟩
    exact ((orderly_fresh limits instrumented).follow schedule).endsDuly running
  refine ⟨ends, fun actions started kept => ?_⟩
  refine ⟨settled_run (settled_fresh limits instrumented) actions, ?_⟩
  obtain ⟨schedule, acts, same⟩ := exists_schedule (fresh limits instrumented) actions
  rw [← same]
  rw [← acts] at started kept
  exact ends schedule (mem_filterMap_action?.1 started) (mt mem_filterMap_action?.2 kept)

/-- The store is dropped before the delivery is started. One worker finds nothing to do and goes,
while the other waits for room for the second record of a job; only when this record is given up
the delivery is over. -/
theorem completes_follow_waiting_worker :
    let report : Action := .apply .incremental
      [⟨⟨"a"⟩, some (.ofReports (["c0", "c1"].map fun name =>
        .container ⟨name⟩ ⟨⟨"a"⟩, "pod", "app", ⟨name⟩⟩))⟩]
    let first : List Event :=
      [.action (.register "callbacks" (some 1)), .action (.want ⟨"c0"⟩), .action (.want ⟨"c1"⟩),
        .action report, .action .dropStore, .action .startDelivery, .move 0, .move 1, .move 0,
        .move 0, .move 1]
    let later : List Event := [.tick 5000, .move 0, .move 0, .move 0]
    let waiting := (fresh {} false).follow first
    let finished := (fresh {} false).follow (first ++ later)
    (.action .startDelivery ∈ first ++ later ∧ .action .stopDelivery ∉ first ++ later) ∧
      waiting.delivery.Settled ∧ waiting.delivery.completed? = some false ∧ waiting.EndsDuly ∧
      finished.delivery.Settled ∧ finished.delivery.completed? = some true ∧ finished.EndsDuly := by
  intro report first later waiting finished
  have pool : waiting.delivery.workers.size = 2 := by decide +kernel +revert
  have sender : waiting.delivery.move? 0 = none := by decide +kernel +revert
  have gone : waiting.delivery.move? 1 = none := by decide +kernel +revert
  have still : waiting.delivery.completed? = some false := by decide +kernel +revert
  have completed : finished.delivery.completed? = some true := by decide +kernel +revert
  have settled : waiting.delivery.Settled := by
    intro i
    match i with
    | 0 => exact sender
    | 1 => exact gone
    | i + 2 => exact Delivery.move?_eq_none_of_size_le (by omega)
  have started : .action .startDelivery ∈ first := by simp [first]
  have kept : .action .stopDelivery ∉ first ++ later := by simp [first, later, report]
  have before := (completes_follow {} false).1 first started
    fun there => kept (List.mem_append_left later there)
  have after := (completes_follow {} false).1 (first ++ later)
    (List.mem_append_left later started) kept
  exact ⟨⟨List.mem_append_left later started, kept⟩, settled, still, before,
    (Delivery.completed?_eq_some_true_iff.1 completed).2.settled, completed, after⟩

end Service

end Attribution
