import Attribution.Proofs.Delivery.Parcel

/-!
# Where nobody has to wait

A worker that finds room for every record works off its jobs at once. So a delivery of which no
worker has to wait is at ease between any two actions: nobody has a job in hand, and if it is
running nothing is queued. What became of the queue is then known without regard to who took which
job when: each record entered its channel, or met a channel without a receiver. Two deliveries that
are alike but for their workers, and for the order of what their channels hold, stay so.
-/

namespace Attribution

/-- No record was given up for want of room. -/
def InTime (notices : List Notice) : Prop :=
  ∀ notice ∈ notices, notice.outcome ≠ .timeout

instance (notices : List Notice) : Decidable (InTime notices) :=
  inferInstanceAs (Decidable (∀ notice ∈ notices, _))

theorem inTime_append {first second : List Notice} :
    InTime (first ++ second) ↔ InTime first ∧ InTime second :=
  List.forall_mem_append

theorem perm_entering {notices other : List Notice} (perm : notices.Perm other)
    (name : ChannelName) : (entering name notices).Perm (entering name other) :=
  (perm.filter _).map Notice.record

/-- Without a job in hand a worker holds no record and has no deadline to meet. -/
theorem Worker.empty_of_isSending_eq_false {worker : Worker} (free : worker.isSending = false) :
    worker.outstanding = [] ∧ worker.parcels = [] ∧ worker.deadline? = none := by
  cases worker with
  | sending current => cases free
  | _ => exact ⟨rfl, rfl, rfl⟩

namespace Delivery

variable {delivery before after : Delivery} {notices : List Notice} {limits : Limits}

/-- No worker has a job in hand. -/
def Idle (delivery : Delivery) : Prop :=
  ∀ worker ∈ delivery.workers, worker.isSending = false

instance (delivery : Delivery) : Decidable delivery.Idle :=
  inferInstanceAs (Decidable (∀ worker ∈ delivery.workers, _))

/-- The workers have done all that they can, and none of them waits for room. -/
structure AtEase (delivery : Delivery) : Prop where
  settled : delivery.Settled
  idle : delivery.Idle

instance (delivery : Delivery) : Decidable delivery.AtEase :=
  decidable_of_iff (delivery.Settled ∧ delivery.Idle)
    ⟨fun ⟨settled, idle⟩ => ⟨settled, idle⟩, fun h => ⟨h.settled, h.idle⟩⟩

/-- Whether a channel's receiver is still there; nothing where there is no such channel. -/
def isOpen? (delivery : Delivery) (name : ChannelName) : Option Bool :=
  delivery.channels[name]?.map Channel.isOpen

theorem hasChannel_eq (delivery : Delivery) (name : ChannelName) :
    delivery.hasChannel name = (delivery.isOpen? name).isSome := by
  rw [hasChannel, isOpen?, Option.isSome_map, Std.ExtTreeMap.contains_eq_isSome_getElem?]

/-- What becomes of a parcel that does not have to wait. -/
def fate (delivery : Delivery) (parcel : Parcel) : Notice where
  outcome := if parcel.channel.bind delivery.isOpen? = some true then .delivered else .closed
  record := parcel.record
  channel := parcel.channel

/-! ### Records that do not wait -/

theorem isOpen?_make (i : Nat) (move : Move) (name : ChannelName) :
    (delivery.make i move).isOpen? name = delivery.isOpen? name := by
  rw [isOpen?, isOpen?, channels_make]
  split
  · rw [getElem?_channels_deposit]
    split
    · rename_i same
      subst same
      rw [Option.map_map]
      rfl
    · rfl
  · rfl

theorem isOpen?_insert (name other : ChannelName) (channel : Channel) :
    ({ delivery with channels := delivery.channels.insert name channel } : Delivery).isOpen? other =
      if name = other then some channel.isOpen else delivery.isOpen? other := by
  simp only [isOpen?, Std.ExtTreeMap.getElem?_insert, Std.LawfulEqCmp.compare_eq_iff_eq]
  split <;> rfl

theorem fate_make (i : Nat) (move : Move) : (delivery.make i move).fate = delivery.fate := by
  funext parcel
  have same : (delivery.make i move).isOpen? = delivery.isOpen? := funext (isOpen?_make i move)
  rw [fate, fate, same]

theorem isOpen?_proceeds (by_itself : before.Proceeds notices after) (name : ChannelName) :
    after.isOpen? name = before.isOpen? name := by
  induction by_itself with
  | rest => rfl
  | move _ _ ih => rw [ih, isOpen?_make]
  | tick time _ ih => exact ih

theorem outcome_eq_of_ne_timeout {current : Sending} {outcome : Outcome}
    (met : delivery.outcome? current = some outcome) (in_time : outcome ≠ .timeout) :
    outcome = if delivery.isOpen? current.channel = some true then .delivered else .closed := by
  rw [outcome?] at met
  rw [isOpen?]
  cases found : delivery.channels[current.channel]? with
  | none =>
    rw [found] at met
    exact (Option.some.inj met).symm
  | some channel =>
    simp only [found] at met
    cases opened : channel.isOpen with
    | false =>
      simp only [opened, Bool.not_false, ↓reduceIte, Option.some.injEq] at met
      simp [opened, ← met]
    | true =>
      simp only [opened, Bool.not_true, Bool.false_eq_true, ↓reduceIte] at met
      split at met
      · simp [opened, ← Option.some.inj met]
      · split at met
        · exact absurd (Option.some.inj met).symm in_time
        · cases met

theorem eq_fate_of_possible {i : Nat} {move : Move} (possible : delivery.Possible i move) :
    ∀ notice ∈ move.notice?.toList, notice.outcome ≠ .timeout →
      notice = delivery.fate notice.parcel := by
  intro notice there in_time
  cases possible with
  | conclude at_i met =>
    cases List.mem_singleton.1 there
    rw [outcome_eq_of_ne_timeout met in_time]
    rfl
  | _ => cases there

theorem eq_fate_of_proceeds (by_itself : before.Proceeds notices after) (in_time : InTime notices) :
    ∀ notice ∈ notices, notice = before.fate notice.parcel := by
  induction by_itself with
  | rest => exact fun notice there => absurd there List.not_mem_nil
  | move possible _ ih =>
    obtain ⟨now, later⟩ := inTime_append.1 in_time
    intro notice there
    rcases List.mem_append.1 there with first | second
    · exact eq_fate_of_possible (possible_of_move? possible) notice first (now notice first)
    · rw [← fate_make]
      exact ih later notice second
  | tick time _ ih => exact ih in_time

/-! ### Working off the queue -/

theorem Idle.outstanding_eq_nil (idle : delivery.Idle) :
    ∀ worker ∈ delivery.workers, worker.outstanding = [] :=
  fun worker there => (Worker.empty_of_isSending_eq_false (idle worker there)).1

theorem Idle.parcels_eq (idle : delivery.Idle) :
    delivery.parcels = delivery.queue.flatMap Job.parcels := by
  have hands : delivery.workers.toList.flatMap Worker.parcels = [] := by
    rw [List.flatMap_eq_nil_iff]
    intro worker there
    exact (Worker.empty_of_isSending_eq_false (idle worker (Array.mem_toList_iff.1 there))).2.1
  rw [parcels, hands, List.nil_append]

/-- Who waits for nothing has no deadline to meet. -/
theorem Idle.sleep_eq (idle : delivery.Idle) (duration : Nat) :
    delivery.sleep duration = (delivery.setClock (delivery.now + duration), []) := by
  have no_deadline : delivery.deadlines = [] := by
    rw [deadlines, List.filterMap_eq_nil_iff]
    intro worker there
    exact (Worker.empty_of_isSending_eq_false (idle worker (Array.mem_toList_iff.1 there))).2.2
  rw [sleep, advanceTo_of_none]
  rw [deadlinesUntil, no_deadline]
  rfl

/-- A running delivery at ease has nothing to do. -/
theorem AtEase.queue_eq_nil (at_ease : delivery.AtEase) (h : delivery.Orderly limits)
    (running : delivery.phase = .running) : delivery.queue = [] := by
  by_contra queued
  have there := Array.getElem_mem (h.size_pos running)
  have busy := h.busy at_ease.settled queued there
  rw [at_ease.idle _ there] at busy
  cases busy

theorem proceeds_of_nobody (by_itself : before.Proceeds notices after)
    (nobody : before.workers = #[]) : notices = [] ∧ after.queue = before.queue := by
  induction by_itself with
  | rest => exact ⟨rfl, rfl⟩
  | @move _ _ i _ _ possible =>
    rw [move?_eq_none_of_size_le (by rw [nobody]; exact Nat.zero_le i)] at possible
    cases possible
  | tick time _ ih => exact ih nobody

/-- What becomes of a queue that is worked off without waiting. Without workers it stays. -/
def settlement (delivery : Delivery) : List Notice :=
  if delivery.phase = .running then (delivery.queue.flatMap Job.parcels).map delivery.fate else []

/-- Whichever worker moves when, the same is reported of the queue. -/
theorem perm_settlement (by_itself : before.Proceeds notices after) (h : before.Orderly limits)
    (idle : before.Idle) (at_ease : after.AtEase) (in_time : InTime notices) :
    notices.Perm before.settlement ∧
      after.queue = if before.phase = .running then [] else before.queue := by
  have phase := phase_proceeds by_itself
  rw [settlement]
  split
  · rename_i running
    have worked_off := at_ease.queue_eq_nil (h.proceeds by_itself) (phase.trans running)
    refine ⟨?_, worked_off⟩
    have parcels := coe_parcels_proceeds by_itself
    rw [idle.parcels_eq, at_ease.idle.parcels_eq, worked_off, List.flatMap_nil, Multiset.coe_nil,
      add_zero, Multiset.coe_eq_coe] at parcels
    have reported : (notices.map Notice.parcel).map before.fate = notices := by
      rw [List.map_map]
      refine (List.map_congr_left fun notice there => ?_).trans (List.map_id notices)
      exact (eq_fate_of_proceeds by_itself in_time notice there).symm
    rw [← reported]
    exact (parcels.map before.fate).symm
  · rename_i resting
    obtain ⟨silent, same⟩ := proceeds_of_nobody by_itself (h.unmanned resting)
    exact ⟨silent ▸ .refl _, same⟩

/-! ### Deliveries that are alike -/

/-- Nobody has a job in hand, and the deliveries differ in nothing but their workers, in time and in
the order of what their channels hold. -/
structure Alike (one other : Delivery) : Prop where
  queueLength : one.limits.queueLength = other.limits.queueLength
  queue : one.queue = other.queue
  phase : one.phase = other.phase
  accepting : one.accepting = other.accepting
  isOpen? (name : ChannelName) : one.isOpen? name = other.isOpen? name
  length_inbox (name : ChannelName) : (one.inbox name).length = (other.inbox name).length
  idle : one.Idle
  idle_other : other.Idle

namespace Alike

variable {one other after after' : Delivery} {notices' : List Notice} {limits' : Limits}

/-- Both work off their queues in their own ways, and are alike again. -/
theorem proceeds (alike : one.Alike other) (orderly : one.Orderly limits)
    (orderly' : other.Orderly limits') (by_itself : one.Proceeds notices after)
    (by_itself' : other.Proceeds notices' after') (at_ease : after.AtEase)
    (at_ease' : after'.AtEase) (in_time : InTime notices) (in_time' : InTime notices') :
    after.Alike after' ∧ notices.Perm notices' := by
  obtain ⟨reported, queue⟩ := perm_settlement by_itself orderly alike.idle at_ease in_time
  obtain ⟨reported', queue'⟩ :=
    perm_settlement by_itself' orderly' alike.idle_other at_ease' in_time'
  have same : one.settlement = other.settlement := by
    have fates : one.fate = other.fate := by
      funext parcel
      rw [fate, fate, funext alike.isOpen?]
    rw [settlement, settlement, alike.phase, alike.queue, fates]
  have perm : notices.Perm notices' := (same ▸ reported).trans reported'.symm
  refine ⟨⟨?_, ?_, ?_, ?_, fun name => ?_, fun name => ?_, at_ease.idle, at_ease'.idle⟩, perm⟩
  · rw [limits_proceeds by_itself, limits_proceeds by_itself', alike.queueLength]
  · rw [queue, queue', alike.phase, alike.queue]
  · rw [phase_proceeds by_itself, phase_proceeds by_itself', alike.phase]
  · rw [accepting_proceeds by_itself, accepting_proceeds by_itself', alike.accepting]
  · rw [isOpen?_proceeds by_itself, isOpen?_proceeds by_itself', alike.isOpen?]
  · rw [inbox_proceeds by_itself, inbox_proceeds by_itself', List.length_append,
      List.length_append, alike.length_inbox, (perm_entering perm name).length_eq]

/-! Whatever is done from outside is done to both. -/

theorem enqueue (alike : one.Alike other) (job : Job) :
    (one.enqueue job).1.Alike (other.enqueue job).1 ∧
      (one.enqueue job).2 = (other.enqueue job).2 := by
  have place : one.HasPlace ↔ other.HasPlace := by
    rw [HasPlace, HasPlace, alike.phase, alike.queue, alike.queueLength]
  by_cases there : one.HasPlace
  · rw [enqueue_of_hasPlace there, enqueue_of_hasPlace (place.1 there)]
    have queue : (one.withJob job).queue = (other.withJob job).queue :=
      congrArg (· ++ [job]) alike.queue
    exact ⟨⟨alike.queueLength, queue, alike.phase, alike.accepting, alike.isOpen?,
      alike.length_inbox, alike.idle, alike.idle_other⟩, rfl⟩
  · rw [enqueue_of_not_hasPlace there, enqueue_of_not_hasPlace (mt place.2 there)]
    exact ⟨alike, by rw [turnedAway, turnedAway, alike.phase]⟩

theorem start (alike : one.Alike other) : one.start.Alike other.start := by
  have idle (delivery : Delivery) : delivery.start.Idle := by
    intro worker there
    rw [(Array.mem_replicate.1 there).2]
    rfl
  exact ⟨alike.queueLength, alike.queue, rfl, alike.accepting, alike.isOpen?, alike.length_inbox,
    idle one, idle other⟩

theorem stop (alike : one.Alike other) : one.stop.Alike other.stop := by
  have idle (delivery : Delivery) : delivery.stop.Idle :=
    fun worker there => absurd there (Array.not_mem_empty worker)
  exact ⟨alike.queueLength, rfl, rfl, alike.accepting, alike.isOpen?, alike.length_inbox,
    idle one, idle other⟩

theorem closeIntake (alike : one.Alike other) : one.closeIntake.Alike other.closeIntake :=
  ⟨alike.queueLength, alike.queue, alike.phase, rfl, alike.isOpen?, alike.length_inbox,
    alike.idle, alike.idle_other⟩

/-- A channel may be made or replaced in both. -/
theorem insert (alike : one.Alike other) (name : ChannelName) {channel channel' : Channel}
    (opened : channel.isOpen = channel'.isOpen)
    (length : channel.contents.length = channel'.contents.length) :
    ({ one with channels := one.channels.insert name channel } : Delivery).Alike
      { other with channels := other.channels.insert name channel' } := by
  refine ⟨alike.queueLength, alike.queue, alike.phase, alike.accepting, fun read => ?_,
    fun read => ?_, alike.idle, alike.idle_other⟩
  · rw [isOpen?_insert, isOpen?_insert, alike.isOpen?, opened]
  · rw [inbox_insert, inbox_insert]
    split
    · exact length
    · exact alike.length_inbox read

/-- While nobody waits nothing but time passes in the course of a sleep. -/
theorem sleep (alike : one.Alike other) (duration : Nat) :
    (one.sleep duration).1.Alike (other.sleep duration).1 ∧
      (one.sleep duration).2 = (other.sleep duration).2 := by
  rw [alike.idle.sleep_eq, alike.idle_other.sleep_eq]
  exact ⟨⟨alike.queueLength, alike.queue, alike.phase, alike.accepting, alike.isOpen?,
    alike.length_inbox, alike.idle, alike.idle_other⟩, rfl⟩

end Alike

end Delivery

end Attribution
