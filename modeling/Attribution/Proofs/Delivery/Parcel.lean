import Attribution.Proofs.Delivery.Quiescence

/-!
# Parcels

A record travels together with the name of its channel: in the queue and with a worker it has the
channel of its job, and the notice of what became of it names the same one. A record with its
channel is a parcel here. Workers neither make parcels nor readdress them: what a worker has in
hand and what it takes from the queue comes out of its hands as it is, in the order in which it was
there. What comes out with success is at the end of the channel that the parcel is addressed to.
-/

namespace Attribution

/-- A record with the channel that it is meant for, if there is one. -/
@[ext]
structure Parcel where
  channel : Option ChannelName
  record : Metadata
  deriving DecidableEq

namespace Parcel

/-- A record for a channel. -/
def addressed (channel : ChannelName) (record : Metadata) : Parcel :=
  ⟨some channel, record⟩

/-- No parcel is without an address where each has one. -/
theorem filter_none_eq_nil {parcels : List Parcel}
    (all : ∀ parcel ∈ parcels, ∃ channel record, parcel = addressed channel record) :
    parcels.filter (·.channel = none) = [] := by
  rw [List.filter_eq_nil_iff]
  intro parcel there
  obtain ⟨channel, record, rfl⟩ := all parcel there
  simp [addressed]

end Parcel

namespace Notice

/-- The parcel whose fate is reported. -/
def parcel (notice : Notice) : Parcel :=
  ⟨notice.channel, notice.record⟩

end Notice

namespace Job

/-- The parcels of a job, in the order in which they are sent. -/
def parcels (job : Job) : List Parcel :=
  job.records.map (.addressed job.channel)

theorem map_parcel_notices (job : Job) (outcome : Outcome) :
    (job.notices outcome).map Notice.parcel = job.parcels := by
  rw [notices, List.map_map]
  rfl

theorem map_record_parcels (job : Job) : job.parcels.map Parcel.record = job.records := by
  rw [parcels, List.map_map]
  exact List.map_id job.records

end Job

namespace Worker

/-- The parcels that a worker has in hand, in the order in which it sends them. -/
def parcels : Worker → List Parcel
  | .sending current => (current.record :: current.rest).map (.addressed current.channel)
  | _ => []

end Worker

namespace Move

/-- The job that a worker takes by a move. -/
def job? : Move → Option Job
  | take job _ => some job
  | _ => none

end Move

namespace Outcome

/-- A worker that sends a record can report this of it. -/
def IsOfSender (outcome : Outcome) : Prop :=
  outcome = .delivered ∨ outcome = .timeout ∨ outcome = .closed

theorem IsOfSender.ne_unregistered {outcome : Outcome} (h : outcome.IsOfSender) :
    outcome ≠ .unregistered := by
  rcases h with rfl | rfl | rfl <;> decide

end Outcome

/-- The records that entered a channel by what is reported, in order. -/
def entering (name : ChannelName) (notices : List Notice) : List Metadata :=
  (notices.filter fun notice => notice.outcome = .delivered ∧ notice.channel = some name).map
    Notice.record

theorem entering_append (name : ChannelName) (first second : List Notice) :
    entering name (first ++ second) = entering name first ++ entering name second := by
  rw [entering, entering, entering, List.filter_append, List.map_append]

theorem entering_singleton (name : ChannelName) (notice : Notice) :
    entering name [notice] =
      if notice.outcome = .delivered ∧ notice.channel = some name then [notice.record] else [] := by
  simp only [entering, List.filter_cons, List.filter_nil, decide_eq_true_eq]
  split <;> rfl

/-- By reports of failure nothing enters a channel. -/
theorem entering_eq_nil {notices : List Notice}
    (failed : ∀ notice ∈ notices, notice.outcome ≠ .delivered) (name : ChannelName) :
    entering name notices = [] := by
  have none_there : (notices.filter fun notice =>
      notice.outcome = .delivered ∧ notice.channel = some name) = [] := by
    rw [List.filter_eq_nil_iff]
    intro notice there
    simp only [decide_eq_true_eq, not_and]
    intro delivered
    exact absurd delivered (failed notice there)
  rw [entering, none_there]
  rfl

/-- What entered a channel was addressed to it. -/
theorem map_addressed_entering (name : ChannelName) (notices : List Notice) :
    (entering name notices).map (.addressed name) =
      ((notices.filter fun notice =>
        notice.outcome = .delivered ∧ notice.channel = some name).map Notice.parcel) := by
  rw [entering, List.map_map, List.map_inj_left]
  intro notice there
  have addressed := (List.mem_filter.1 there).2
  simp only [decide_eq_true_eq] at addressed
  exact Parcel.ext addressed.2.symm rfl

namespace Delivery

variable {delivery : Delivery}

/-! ### Moves -/

theorem isOfSender_of_outcome? {current : Sending} {outcome : Outcome}
    (met : delivery.outcome? current = some outcome) : outcome.IsOfSender := by
  rw [outcome?] at met
  split at met
  · cases met
    exact .inr (.inr rfl)
  · split at met
    · cases met
      exact .inr (.inr rfl)
    · split at met
      · cases met
        exact .inl rfl
      · split at met
        · cases met
          exact .inr (.inl rfl)
        · cases met

theorem isOfSender_of_move {i : Nat} {move : Move} (possible : delivery.Possible i move) :
    ∀ notice ∈ move.notice?.toList, notice.outcome.IsOfSender := by
  intro notice there
  cases possible with
  | conclude at_i met =>
    cases List.mem_singleton.1 there
    exact isOfSender_of_outcome? met
  | _ => cases there

theorem parcels_continuing (channel : ChannelName) (records : List Metadata) :
    (delivery.continuing channel records).parcels = records.map (.addressed channel) := by
  cases records <;> rfl

/-- What a worker had in hand or takes, it reports or has in hand afterwards, in the same order;
and what it takes was the first in the queue. -/
theorem Possible.exists_worker {i : Nat} {move : Move} (possible : delivery.Possible i move) :
    ∃ before, delivery.workers[i]? = some before ∧
      before.parcels ++ move.job?.toList.flatMap Job.parcels =
        move.notice?.toList.map Notice.parcel ++ (delivery.afterMove move).parcels ∧
      delivery.queue = move.job?.toList ++ (delivery.make i move).queue := by
  cases possible with
  | join at_i => exact ⟨.arriving, at_i, rfl, rfl⟩
  | @take turn job others at_i queued first =>
    refine ⟨.inLine turn, at_i, ?_, queued⟩
    simp only [Move.job?, Option.toList_some, List.flatMap_singleton]
    exact (parcels_continuing job.channel job.records).symm
  | @conclude current outcome at_i met =>
    refine ⟨.sending current, at_i, ?_, ?_⟩
    · simp only [Move.job?, Option.toList_none, List.flatMap_nil, List.append_nil, afterMove,
        parcels_continuing]
      rfl
    · rw [queue_make]
      rfl
  | @leave turn at_i nothing last => exact ⟨.inLine turn, at_i, rfl, rfl⟩

/-- What is on its way: the parcels that the workers have in hand, and those in the queue. -/
def parcels (delivery : Delivery) : List Parcel :=
  delivery.workers.toList.flatMap Worker.parcels ++ delivery.queue.flatMap Job.parcels

theorem coe_parcels_make {i : Nat} {move : Move} (possible : delivery.Possible i move) :
    (delivery.parcels : Multiset Parcel) =
      (move.notice?.toList.map Notice.parcel : List Parcel) + (delivery.make i move).parcels := by
  obtain ⟨before, at_i, hand, queue⟩ := possible.exists_worker
  rw [← Array.getElem?_toList] at at_i
  have hands := coe_flatMap_set Worker.parcels at_i (delivery.afterMove move)
  have in_hand : (before.parcels : Multiset Parcel) +
      (move.job?.toList.flatMap Job.parcels : List Parcel) =
        (move.notice?.toList.map Notice.parcel : List Parcel) +
          ((delivery.afterMove move).parcels : List Parcel) := by
    rw [Multiset.coe_add, Multiset.coe_add, hand]
  have queued : (delivery.queue.flatMap Job.parcels : Multiset Parcel) =
      (move.job?.toList.flatMap Job.parcels : List Parcel) +
        ((delivery.make i move).queue.flatMap Job.parcels : List Parcel) := by
    rw [Multiset.coe_add, ← List.flatMap_append, ← queue]
  rw [parcels, parcels, workers_make, Array.toList_setIfInBounds, ← Multiset.coe_add,
    ← Multiset.coe_add, queued]
  -- the worker that moves is the only one whose hands are not as before
  refine add_right_cancel (b := (before.parcels : Multiset Parcel)) ?_
  calc _ = ((delivery.workers.toList.flatMap Worker.parcels : List Parcel) : Multiset Parcel) +
          ((before.parcels : Multiset Parcel) +
            (move.job?.toList.flatMap Job.parcels : List Parcel)) +
          ((delivery.make i move).queue.flatMap Job.parcels : List Parcel) := by abel
    _ = (move.notice?.toList.map Notice.parcel : List Parcel) +
          (((delivery.workers.toList.set i (delivery.afterMove move)).flatMap Worker.parcels :
            List Parcel) + (before.parcels : Multiset Parcel)) +
          ((delivery.make i move).queue.flatMap Job.parcels : List Parcel) := by
        rw [in_hand, hands]
        abel
    _ = _ := by abel

/-- A record enters the channel that its notice names, behind those that are there. -/
theorem inbox_make {i : Nat} {move : Move} (possible : delivery.Possible i move)
    (name : ChannelName) :
    (delivery.make i move).inbox name =
      delivery.inbox name ++ entering name move.notice?.toList := by
  cases possible with
  | @conclude current outcome at_i met =>
    simp only [make, Move.notice?, Option.toList_some, entering_singleton, Option.some.injEq]
    exact inbox_conclude met name
  | _ => exact (List.append_nil _).symm

theorem coe_parcels_proceeds {after : Delivery} {notices : List Notice}
    (by_itself : delivery.Proceeds notices after) :
    (delivery.parcels : Multiset Parcel) =
      (notices.map Notice.parcel : List Parcel) + after.parcels := by
  induction by_itself with
  | rest delivery => exact (zero_add _).symm
  | move possible _ ih =>
    rw [coe_parcels_make (possible_of_move? possible), ih, List.map_append, ← Multiset.coe_add,
      add_assoc]
  | tick time _ ih => exact ih

theorem inbox_proceeds {after : Delivery} {notices : List Notice}
    (by_itself : delivery.Proceeds notices after) (name : ChannelName) :
    after.inbox name = delivery.inbox name ++ entering name notices := by
  induction by_itself with
  | rest delivery => exact (List.append_nil _).symm
  | move possible _ ih =>
    rw [ih, inbox_make (possible_of_move? possible), List.append_assoc, entering_append]
  | tick time _ ih => exact ih

/-! ### Addresses -/

/-- Whatever is on its way has an address. -/
theorem addressed_of_mem_parcels (delivery : Delivery) :
    ∀ parcel ∈ delivery.parcels, ∃ channel record, parcel = .addressed channel record := by
  intro parcel there
  rcases List.mem_append.1 there with in_hand | queued
  · obtain ⟨worker, -, held⟩ := List.mem_flatMap.1 in_hand
    cases worker with
    | sending current =>
      obtain ⟨record, -, rfl⟩ := List.mem_map.1 held
      exact ⟨current.channel, record, rfl⟩
    | _ => cases held
  · obtain ⟨job, -, part⟩ := List.mem_flatMap.1 queued
    obtain ⟨record, -, rfl⟩ := List.mem_map.1 part
    exact ⟨job.channel, record, rfl⟩

end Delivery

end Attribution
