import Attribution.Proofs.Delivery.Passage

/-!
# When the workers are at rest

A delivery stays within its dimensions, whatever happens to it: the queue, the pool and the
channels hold no more than they may, no deadline is further off than the timeout, and a worker
goes only after the last job. `Orderly` collects this, with one lemma for each thing that can
happen.

When no worker can move there is more to say. Of the workers that wait on one channel the first to
be served would send its record if there were any room, so the channel is full; and of those that
stand in line for the queue the first would take a job, so there is nobody in line while jobs are
queued. Both arguments go down from a turn to an earlier one.
-/

namespace Attribution

namespace Worker

/-- Whether the worker has a job in hand. -/
def isSending : Worker → Bool
  | .sending _ => true
  | _ => false

theorem sendsBefore_eq_true_iff {channel : ChannelName} {turn : Nat} {worker : Worker} :
    worker.sendsBefore channel turn = true ↔
      ∃ current, worker = .sending current ∧ current.channel = channel ∧ current.turn < turn := by
  cases worker <;> simp [sendsBefore]

theorem isInLineBefore_eq_true_iff {turn : Nat} {worker : Worker} :
    worker.isInLineBefore turn = true ↔ ∃ earlier, worker = .inLine earlier ∧ earlier < turn := by
  cases worker <;> simp [isInLineBefore]

end Worker

namespace Delivery

variable {delivery : Delivery}

/-! ### What a move changes -/

/-- What a worker is doing after a move. -/
def afterMove (delivery : Delivery) : Move → Worker
  | .join => .inLine delivery.nextTurn
  | .take job _ => delivery.continuing job.channel job.records
  | .conclude current _ => delivery.continuing current.channel current.rest
  | .leave => .ended

@[simp] theorem limits_make (i : Nat) (move : Move) :
    (delivery.make i move).limits = delivery.limits := by
  cases move with
  | conclude current outcome =>
    simp only [make, conclude]
    split <;> rfl
  | _ => rfl

@[simp] theorem now_make (i : Nat) (move : Move) : (delivery.make i move).now = delivery.now := by
  cases move with
  | conclude current outcome =>
    simp only [make, conclude]
    split <;> rfl
  | _ => rfl

@[simp] theorem accepting_make (i : Nat) (move : Move) :
    (delivery.make i move).accepting = delivery.accepting := by
  cases move with
  | conclude current outcome =>
    simp only [make, conclude]
    split <;> rfl
  | _ => rfl

@[simp] theorem workers_make (i : Nat) (move : Move) :
    (delivery.make i move).workers =
      delivery.workers.setIfInBounds i (delivery.afterMove move) := by
  cases move with
  | conclude current outcome =>
    simp only [make, conclude]
    split <;> rfl
  | _ => rfl

theorem queue_make (i : Nat) (move : Move) :
    (delivery.make i move).queue =
      match move with
      | .take _ others => others
      | _ => delivery.queue := by
  cases move with
  | conclude current outcome =>
    simp only [make, conclude]
    split <;> rfl
  | _ => rfl

theorem channels_make (i : Nat) (move : Move) :
    (delivery.make i move).channels =
      match move with
      | .conclude current .delivered => (delivery.deposit current.channel current.record).channels
      | _ => delivery.channels := by
  cases move with
  | conclude current outcome => cases outcome <;> rfl
  | _ => rfl

theorem limits_proceeds {after : Delivery} {notices : List Notice}
    (by_itself : delivery.Proceeds notices after) : after.limits = delivery.limits := by
  induction by_itself with
  | rest => rfl
  | move _ _ ih => rw [ih, limits_make]
  | tick _ _ ih => exact ih

theorem accepting_proceeds {after : Delivery} {notices : List Notice}
    (by_itself : delivery.Proceeds notices after) : after.accepting = delivery.accepting := by
  induction by_itself with
  | rest => rfl
  | move _ _ ih => rw [ih, accepting_make]
  | tick _ _ ih => exact ih

/-- A worker that goes on with a job has its deadline before it, and has not gone. -/
theorem deadline_of_continuing {channel : ChannelName} {records : List Metadata}
    {current : Sending} (going_on : delivery.continuing channel records = .sending current) :
    current.deadline = delivery.now + delivery.limits.sendTimeout := by
  cases records with
  | nil => cases going_on
  | cons record rest =>
    cases going_on
    rfl

theorem continuing_ne_ended (channel : ChannelName) (records : List Metadata) :
    delivery.continuing channel records ≠ .ended := by
  cases records <;> exact nofun

theorem deadline_of_afterMove {move : Move} {current : Sending}
    (going_on : delivery.afterMove move = .sending current) :
    current.deadline = delivery.now + delivery.limits.sendTimeout := by
  cases move with
  | take job others => exact deadline_of_continuing going_on
  | conclude last outcome => exact deadline_of_continuing going_on
  | _ => cases going_on

/-- A record enters its channel only where there is room. -/
theorem room_of_delivered {current : Sending} {channel : Channel}
    (met : delivery.outcome? current = some .delivered)
    (found : delivery.channels[current.channel]? = some channel) : 0 < channel.room := by
  simp only [outcome?, found] at met
  split at met
  · cases met
  · split at met
    · rename_i room
      exact Nat.zero_lt_of_lt room
    · split at met <;> cases met

/-! ### What holds at all times -/

/-- The delivery is within its dimensions, and no worker has gone too early. -/
structure Orderly (delivery : Delivery) (limits : Limits) : Prop where
  limits_eq : delivery.limits = limits
  queue_le : delivery.queue.length ≤ limits.queueLength
  manned : delivery.phase = .running → delivery.workers.size = limits.poolSize
  unmanned : delivery.phase ≠ .running → delivery.workers = #[]
  channel_le (name : ChannelName) (channel : Channel) :
    delivery.channels[name]? = some channel → channel.contents.length ≤ channel.capacity
  deadline_le (current : Sending) : .sending current ∈ delivery.workers →
    current.deadline ≤ delivery.now + limits.sendTimeout
  gone : .ended ∈ delivery.workers → delivery.queue = [] ∧ delivery.accepting = false

namespace Orderly

variable {limits : Limits}

theorem isUnmanned (h : delivery.Orderly limits) : delivery.Unmanned := by
  intro unstarted
  apply h.unmanned
  rw [unstarted]
  decide

/-- A pool has at least one worker. -/
theorem size_pos (h : delivery.Orderly limits) (running : delivery.phase = .running) :
    0 < delivery.workers.size := by
  rw [h.manned running]
  exact Nat.lt_of_lt_of_le Nat.zero_lt_one (Nat.le_max_left _ _)

/-- Where one worker is enough there are no more. -/
theorem size_le_one (h : delivery.Orderly limits) (alone : limits.workers ≤ 1) :
    delivery.workers.size ≤ 1 := by
  by_cases running : delivery.phase = .running
  · rw [h.manned running]
    exact Nat.max_le.2 ⟨Nat.le_refl 1, alone⟩
  · rw [h.unmanned running]
    exact Nat.zero_le 1

theorem fresh (limits : Limits) : ({ limits } : Delivery).Orderly limits where
  limits_eq := rfl
  queue_le := Nat.zero_le _
  manned := nofun
  unmanned _ := rfl
  channel_le name channel found := by simp at found
  deadline_le current there := by simp at there
  gone there := by simp at there

theorem channel_le_make (h : delivery.Orderly limits) {i : Nat} {move : Move}
    (possible : delivery.Possible i move) (name : ChannelName) (channel : Channel)
    (found : (delivery.make i move).channels[name]? = some channel) :
    channel.contents.length ≤ channel.capacity := by
  rw [channels_make] at found
  split at found
  · rename_i current
    cases possible with
    | conclude _ met =>
      rw [getElem?_channels_deposit] at found
      split at found
      · obtain ⟨before, there, rfl⟩ := Option.map_eq_some_iff.1 found
        have room : 0 < before.capacity - before.contents.length := room_of_delivered met there
        simp only [Channel.send, List.length_append, List.length_singleton]
        omega
      · exact h.channel_le name channel found
  · exact h.channel_le name channel found

theorem gone_make (h : delivery.Orderly limits) {i : Nat} {move : Move}
    (possible : delivery.Possible i move) (there : .ended ∈ (delivery.make i move).workers) :
    (delivery.make i move).queue = [] ∧ (delivery.make i move).accepting = false := by
  rw [workers_make] at there
  rw [accepting_make]
  -- whether somebody had gone before or goes now, there is no job left that could be taken
  have last : delivery.queue = [] ∧ delivery.accepting = false := by
    rcases Array.mem_or_eq_of_mem_setIfInBounds there with before | now
    · exact h.gone before
    · cases possible with
      | join => cases now
      | take => exact absurd now.symm (continuing_ne_ended _ _)
      | conclude => exact absurd now.symm (continuing_ne_ended _ _)
      | leave _ nothing closed => exact ⟨nothing, closed⟩
  refine ⟨?_, last.2⟩
  cases possible with
  | take _ queued =>
    rw [last.1] at queued
    cases queued
  | conclude =>
    rw [queue_make]
    exact last.1
  | _ => exact last.1

theorem make (h : delivery.Orderly limits) {i : Nat} {move : Move}
    (found : delivery.move? i = some move) : (delivery.make i move).Orderly limits := by
  have possible := possible_of_move? found
  refine ⟨(limits_make i move).trans h.limits_eq, ?_, ?_, ?_, h.channel_le_make possible, ?_,
    h.gone_make possible⟩
  · have before := h.queue_le
    rw [queue_make]
    cases possible with
    | take _ queued =>
      rw [queued, List.length_cons] at before
      exact Nat.le_of_succ_le before
    | _ => exact before
  · intro running
    rw [phase_make] at running
    rw [workers_make, Array.size_setIfInBounds]
    exact h.manned running
  · intro resting
    rw [phase_make] at resting
    rw [workers_make, h.unmanned resting]
    rfl
  · intro current there
    rw [workers_make] at there
    rw [now_make, ← h.limits_eq]
    rcases Array.mem_or_eq_of_mem_setIfInBounds there with before | now
    · rw [h.limits_eq]
      exact h.deadline_le current before
    · exact (deadline_of_afterMove now.symm).le

theorem setClock (h : delivery.Orderly limits) (time : Nat) :
    (delivery.setClock time).Orderly limits := by
  refine ⟨h.limits_eq, h.queue_le, h.manned, h.unmanned, h.channel_le, ?_, h.gone⟩
  intro current there
  have before := h.deadline_le current there
  have later : delivery.now ≤ (delivery.setClock time).now := Nat.le_max_left _ _
  omega

theorem proceeds {after : Delivery} {notices : List Notice} (h : delivery.Orderly limits)
    (by_itself : delivery.Proceeds notices after) : after.Orderly limits := by
  induction by_itself with
  | rest => exact h
  | move possible _ ih => exact ih (h.make possible)
  | tick time _ ih => exact ih (h.setClock time)

/-- A job may come as long as jobs are expected; no worker has gone by then. -/
theorem withJob (h : delivery.Orderly limits) (accepting : delivery.accepting = true)
    (place : delivery.HasPlace) (job : Job) : (delivery.withJob job).Orderly limits := by
  have queue_le : (delivery.queue ++ [job]).length ≤ limits.queueLength := by
    have shorter := place.2
    rw [h.limits_eq] at shorter
    rw [List.length_append, List.length_singleton]
    omega
  refine ⟨h.limits_eq, queue_le, h.manned, h.unmanned, h.channel_le, h.deadline_le, ?_⟩
  intro there
  have closed := (h.gone there).2
  rw [accepting] at closed
  cases closed

theorem start (h : delivery.Orderly limits) : delivery.start.Orderly limits := by
  have arriving : ∀ worker ∈ delivery.start.workers, worker = .arriving :=
    fun worker there => (Array.mem_replicate.1 there).2
  refine ⟨h.limits_eq, h.queue_le, ?_, fun resting => absurd rfl resting, h.channel_le, ?_, ?_⟩
  · intro running
    rw [← h.limits_eq]
    exact Array.size_replicate
  · intro current there
    cases arriving _ there
  · intro there
    cases arriving _ there

theorem stop (h : delivery.Orderly limits) : delivery.stop.Orderly limits where
  limits_eq := h.limits_eq
  queue_le := Nat.zero_le _
  manned := nofun
  unmanned _ := rfl
  channel_le := h.channel_le
  deadline_le current there := by simp [Delivery.stop] at there
  gone there := by simp [Delivery.stop] at there

theorem closeIntake (h : delivery.Orderly limits) : delivery.closeIntake.Orderly limits :=
  ⟨h.limits_eq, h.queue_le, h.manned, h.unmanned, h.channel_le, h.deadline_le,
    fun there => ⟨(h.gone there).1, rfl⟩⟩

/-- A channel may be replaced by one that holds no more than it may. -/
theorem insert (h : delivery.Orderly limits) (name : ChannelName) {channel : Channel}
    (le : channel.contents.length ≤ channel.capacity) :
    ({ delivery with channels := delivery.channels.insert name channel } : Delivery).Orderly
      limits := by
  refine ⟨h.limits_eq, h.queue_le, h.manned, h.unmanned, ?_, h.deadline_le, h.gone⟩
  intro other there found
  rw [Std.ExtTreeMap.getElem?_insert] at found
  split at found
  · cases found
    exact le
  · exact h.channel_le other there found

end Orderly

/-! ### What holds when no worker can move -/

/-- A record that has to wait is meant for an open channel, in which there is no more room than
those before it need, and its deadline is still to come. -/
theorem exists_channel_of_outcome?_eq_none {current : Sending}
    (waits : delivery.outcome? current = none) :
    ∃ channel, delivery.channels[current.channel]? = some channel ∧ channel.isOpen = true ∧
      channel.room ≤ delivery.ahead current ∧ delivery.now < current.deadline := by
  rw [outcome?] at waits
  split at waits
  · cases waits
  · rename_i channel found
    split at waits
    · cases waits
    · rename_i there
      split at waits
      · cases waits
      · rename_i crowded
        split at waits
        · cases waits
        · rename_i early
          refine ⟨channel, found, ?_, Nat.not_lt.1 crowded, Nat.not_le.1 early⟩
          simpa using there

namespace Settled

theorem outcome?_eq_none (h : delivery.Settled) {current : Sending}
    (there : .sending current ∈ delivery.workers) : delivery.outcome? current = none := by
  obtain ⟨i, at_i⟩ := Array.getElem?_of_mem there
  have rests := h i
  rw [move?, at_i] at rests
  exact Option.map_eq_none_iff.1 rests

/-- There is no room in a channel on which somebody waits: the first of those who wait there would
send its record. -/
theorem room_eq_zero (h : delivery.Settled) {current : Sending} {channel : Channel}
    (there : .sending current ∈ delivery.workers)
    (found : delivery.channels[current.channel]? = some channel) : channel.room = 0 := by
  generalize earliest : current.turn = turn
  induction turn using Nat.strongRecOn generalizing current with
  | ind turn ih =>
    obtain ⟨same, found', -, crowded, -⟩ :=
      exists_channel_of_outcome?_eq_none (h.outcome?_eq_none there)
    rw [found] at found'
    cases found'
    by_cases first : delivery.ahead current = 0
    · omega
    · obtain ⟨worker, among, before⟩ := Array.countP_pos_iff.1 (Nat.pos_of_ne_zero first)
      obtain ⟨other, rfl, channel_eq, turn_lt⟩ := Worker.sendsBefore_eq_true_iff.1 before
      rw [earliest] at turn_lt
      rw [← channel_eq] at found
      exact ih other.turn turn_lt among found rfl

/-- Nobody stands in line while jobs are queued: the first in line would take one. -/
theorem not_inLine (h : delivery.Settled) (queued : delivery.queue ≠ []) (turn : Nat) :
    .inLine turn ∉ delivery.workers := by
  induction turn using Nat.strongRecOn with
  | ind turn ih =>
    intro there
    obtain ⟨i, at_i⟩ := Array.getElem?_of_mem there
    obtain ⟨job, others, split⟩ := List.exists_cons_of_ne_nil queued
    have rests := h i
    simp only [move?, at_i, serve?, split] at rests
    by_cases first : delivery.isFirstInLine turn
    · rw [if_pos first] at rests
      cases rests
    · have somebody : delivery.workers.any (Worker.isInLineBefore turn) = true := by
        simpa [isFirstInLine] using first
      obtain ⟨worker, among, before⟩ := Array.any_eq_true'.1 somebody
      obtain ⟨earlier, rfl, turn_lt⟩ := Worker.isInLineBefore_eq_true_iff.1 before
      exact ih earlier turn_lt among

theorem not_arriving (h : delivery.Settled) : .arriving ∉ delivery.workers := by
  intro there
  obtain ⟨i, at_i⟩ := Array.getElem?_of_mem there
  have rests := h i
  rw [move?, at_i] at rests
  cases rests

end Settled

/-- A running delivery at rest: within its dimensions, with nobody idle while there is work, and
with nobody waiting who could go on. -/
structure Quiescent (delivery : Delivery) (limits : Limits) : Prop where
  queue_le : delivery.queue.length ≤ limits.queueLength
  manned : delivery.workers.size = limits.poolSize
  held_le : delivery.workers.countP Worker.isSending ≤ limits.poolSize
  channel_le (name : ChannelName) (channel : Channel) :
    delivery.channels[name]? = some channel → channel.contents.length ≤ channel.capacity
  busy : delivery.queue ≠ [] → ∀ worker ∈ delivery.workers, worker.isSending = true
  waiting (current : Sending) : .sending current ∈ delivery.workers →
    (∃ channel, delivery.channels[current.channel]? = some channel ∧ channel.isOpen = true ∧
      channel.contents.length = channel.capacity) ∧
    delivery.now < current.deadline ∧ current.deadline ≤ delivery.now + limits.sendTimeout

namespace Orderly

variable {limits : Limits}

/-- Who waits at rest waits with reason, and not for long. -/
theorem waiting (h : delivery.Orderly limits) (settled : delivery.Settled) {current : Sending}
    (there : .sending current ∈ delivery.workers) :
    (∃ channel, delivery.channels[current.channel]? = some channel ∧ channel.isOpen = true ∧
      channel.contents.length = channel.capacity) ∧
    delivery.now < current.deadline ∧ current.deadline ≤ delivery.now + limits.sendTimeout := by
  obtain ⟨channel, found, opened, -, early⟩ :=
    exists_channel_of_outcome?_eq_none (settled.outcome?_eq_none there)
  have full : channel.capacity - channel.contents.length = 0 := settled.room_eq_zero there found
  have within := h.channel_le current.channel channel found
  exact ⟨⟨channel, found, opened, by omega⟩, early, h.deadline_le current there⟩

theorem busy (h : delivery.Orderly limits) (settled : delivery.Settled)
    (queued : delivery.queue ≠ []) {worker : Worker} (there : worker ∈ delivery.workers) :
    worker.isSending = true := by
  cases worker with
  | arriving => exact absurd there settled.not_arriving
  | inLine turn => exact absurd there (settled.not_inLine queued turn)
  | sending current => rfl
  | ended => exact absurd (h.gone there).1 queued

theorem quiescent (h : delivery.Orderly limits) (settled : delivery.Settled)
    (running : delivery.phase = .running) : delivery.Quiescent limits where
  queue_le := h.queue_le
  manned := h.manned running
  held_le := by
    rw [← h.manned running]
    exact Array.countP_le_size
  channel_le := h.channel_le
  busy queued worker there := h.busy settled queued there
  waiting current there := h.waiting settled there

end Orderly

end Delivery

end Attribution
