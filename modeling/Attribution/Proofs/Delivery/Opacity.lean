import Attribution.Delivery.Clock
import Attribution.Proofs.Index.Opacity

/-!
# Metadata is opaque to the delivery

The delivery carries records and never reads them. Which worker can move, what becomes of a record,
whose move it is and how time passes: all of this depends on the lengths of jobs and channels, on
names, turns and deadlines. So another metadata in the place of each record, by any function
whatever, leaves every step as it is. Each operation commutes with the replacement.
-/

namespace Attribution

variable (f : Metadata → Metadata)

/-! ### Replacing metadata -/

def Channel.mapMetadata (channel : Channel) : Channel :=
  { channel with contents := channel.contents.map f }

def Job.mapMetadata (job : Job) : Job :=
  { job with records := job.records.map f }

def Sending.mapMetadata (current : Sending) : Sending :=
  { current with record := f current.record, rest := current.rest.map f }

/-- The worker with the record that it sends replaced, and those that come after it. -/
def Worker.mapMetadata : Worker → Worker
  | .sending current => .sending (current.mapMetadata f)
  | other => other

def Notice.mapMetadata (notice : Notice) : Notice :=
  { notice with record := f notice.record }

/-- The same move of the same worker, with the records replaced. -/
def Move.mapMetadata : Move → Move
  | .take job others => .take (job.mapMetadata f) (others.map (Job.mapMetadata f))
  | .conclude current outcome => .conclude (current.mapMetadata f) outcome
  | other => other

def Delivery.mapMetadata (delivery : Delivery) : Delivery :=
  { delivery with
    queue := delivery.queue.map (Job.mapMetadata f)
    workers := delivery.workers.map (Worker.mapMetadata f)
    channels := delivery.channels.map fun _ => Channel.mapMetadata f }

/-! ### Channels, workers and moves -/

@[simp] theorem Channel.room_mapMetadata (channel : Channel) :
    (channel.mapMetadata f).room = channel.room := by
  simp only [room, mapMetadata, List.length_map]

@[simp] theorem Channel.send_mapMetadata (channel : Channel) (record : Metadata) :
    (channel.mapMetadata f).send (f record) = (channel.send record).mapMetadata f := by
  simp only [send, mapMetadata, List.map_append, List.map_cons, List.map_nil]

@[simp] theorem Channel.drop_mapMetadata (channel : Channel) (count : Nat) :
    (channel.mapMetadata f).drop count = (channel.drop count).mapMetadata f := by
  simp only [drop, mapMetadata, List.map_drop]

@[simp] theorem Job.notices_mapMetadata (job : Job) (outcome : Outcome) :
    (job.mapMetadata f).notices outcome = (job.notices outcome).map (Notice.mapMetadata f) := by
  simp only [notices, mapMetadata, List.map_map]
  rfl

namespace Worker

@[simp] theorem isInLineBefore_mapMetadata (worker : Worker) (turn : Nat) :
    (worker.mapMetadata f).isInLineBefore turn = worker.isInLineBefore turn := by
  cases worker <;> rfl

@[simp] theorem sendsBefore_mapMetadata (worker : Worker) (channel : ChannelName) (turn : Nat) :
    (worker.mapMetadata f).sendsBefore channel turn = worker.sendsBefore channel turn := by
  cases worker <;> rfl

@[simp] theorem deadline?_mapMetadata (worker : Worker) :
    (worker.mapMetadata f).deadline? = worker.deadline? := by
  cases worker <;> rfl

@[simp] theorem mapMetadata_eq_ended_iff {worker : Worker} :
    worker.mapMetadata f = .ended ↔ worker = .ended := by
  cases worker <;> simp [mapMetadata]

end Worker

namespace Move

@[simp] theorem steps_mapMetadata (move : Move) : (move.mapMetadata f).steps = move.steps := by
  cases move <;> rfl

@[simp] theorem notice?_mapMetadata (move : Move) :
    (move.mapMetadata f).notice? = move.notice?.map (Notice.mapMetadata f) := by
  cases move <;> rfl

end Move

namespace Delivery

variable (delivery : Delivery)

@[simp] theorem getElem?_workers_mapMetadata (i : Nat) :
    (delivery.mapMetadata f).workers[i]? = delivery.workers[i]?.map (Worker.mapMetadata f) :=
  Array.getElem?_map

@[simp] theorem size_workers_mapMetadata :
    (delivery.mapMetadata f).workers.size = delivery.workers.size :=
  Array.size_map

@[simp] theorem getElem?_channels_mapMetadata (name : ChannelName) :
    (delivery.mapMetadata f).channels[name]? =
      delivery.channels[name]?.map (Channel.mapMetadata f) :=
  Std.ExtTreeMap.getElem?_map

/-! ### Which move a worker can make -/

@[simp] theorem isFirstInLine_mapMetadata (turn : Nat) :
    (delivery.mapMetadata f).isFirstInLine turn = delivery.isFirstInLine turn := by
  simp only [isFirstInLine, mapMetadata, Array.any_map, Function.comp_def,
    Worker.isInLineBefore_mapMetadata]

theorem serve?_mapMetadata (turn : Nat) :
    (delivery.mapMetadata f).serve? turn = (delivery.serve? turn).map (Move.mapMetadata f) := by
  rw [serve?, serve?, isFirstInLine_mapMetadata]
  cases queued : delivery.queue with
  | nil =>
    have nothing : (delivery.mapMetadata f).queue = [] := by simp [mapMetadata, queued]
    rw [nothing]
    show (if delivery.accepting then none else some Move.leave) = _
    split <;> rfl
  | cons job others =>
    have mapped : (delivery.mapMetadata f).queue =
        job.mapMetadata f :: others.map (Job.mapMetadata f) := by
      simp [mapMetadata, queued]
    rw [mapped]
    dsimp only
    split <;> rfl

@[simp] theorem ahead_mapMetadata (current : Sending) :
    (delivery.mapMetadata f).ahead (current.mapMetadata f) = delivery.ahead current := by
  simp only [ahead, mapMetadata, Array.countP_map, Function.comp_def,
    Worker.sendsBefore_mapMetadata]
  rfl

/-- What becomes of a record does not depend on what the record is. -/
@[simp] theorem outcome?_mapMetadata (current : Sending) :
    (delivery.mapMetadata f).outcome? (current.mapMetadata f) = delivery.outcome? current := by
  have channel_there : (delivery.mapMetadata f).channels[(current.mapMetadata f).channel]? =
      delivery.channels[current.channel]?.map (Channel.mapMetadata f) :=
    getElem?_channels_mapMetadata f delivery current.channel
  rw [outcome?, outcome?, ahead_mapMetadata, channel_there]
  cases delivery.channels[current.channel]? with
  | none => rfl
  | some channel =>
    simp only [Option.map_some, Channel.room_mapMetadata]
    rfl

/-- The same workers can move, and each makes the same move. -/
theorem move?_mapMetadata (i : Nat) :
    (delivery.mapMetadata f).move? i = (delivery.move? i).map (Move.mapMetadata f) := by
  rw [move?, move?, getElem?_workers_mapMetadata]
  cases delivery.workers[i]? with
  | none => rfl
  | some worker =>
    cases worker with
    | arriving => rfl
    | inLine turn => exact serve?_mapMetadata f delivery turn
    | sending current =>
      simp only [Option.map_some, Worker.mapMetadata, outcome?_mapMetadata, Option.map_map]
      rfl
    | ended => rfl

/-! ### What is there after a move -/

theorem continueWith_mapMetadata (i : Nat) (channel : ChannelName) (records : List Metadata) :
    (delivery.mapMetadata f).continueWith i channel (records.map f) =
      (delivery.continueWith i channel records).mapMetadata f := by
  have goes_on : (delivery.mapMetadata f).continuing channel (records.map f) =
      (delivery.continuing channel records).mapMetadata f := by
    cases records <;> rfl
  rw [continueWith, goes_on]
  simp only [continueWith, setWorker, giveTurn, mapMetadata, Array.map_setIfInBounds]

theorem deposit_mapMetadata (name : ChannelName) (record : Metadata) :
    (delivery.mapMetadata f).deposit name (f record) =
      (delivery.deposit name record).mapMetadata f := by
  have channels : ((delivery.mapMetadata f).deposit name (f record)).channels =
      ((delivery.deposit name record).mapMetadata f).channels := by
    apply Std.ExtTreeMap.ext_getElem?
    intro other
    rw [getElem?_channels_mapMetadata, deposit, deposit, Std.ExtTreeMap.getElem?_alter,
      Std.ExtTreeMap.getElem?_alter, getElem?_channels_mapMetadata, getElem?_channels_mapMetadata]
    split
    · simp only [Option.map_map, Function.comp_def, Channel.send_mapMetadata]
    · rfl
  simp only [deposit, mapMetadata, mk.injEq, true_and, and_true] at channels ⊢
  exact channels

theorem conclude_mapMetadata (i : Nat) (current : Sending) (outcome : Outcome) :
    (delivery.mapMetadata f).conclude i (current.mapMetadata f) outcome =
      (delivery.conclude i current outcome).mapMetadata f := by
  simp only [conclude, Sending.mapMetadata]
  split
  · rw [deposit_mapMetadata, continueWith_mapMetadata]
  · rw [continueWith_mapMetadata]

theorem make_mapMetadata (i : Nat) (move : Move) :
    (delivery.mapMetadata f).make i (move.mapMetadata f) =
      (delivery.make i move).mapMetadata f := by
  cases move with
  | join => simp only [make, Move.mapMetadata, setWorker, giveTurn, mapMetadata,
      Array.map_setIfInBounds, Worker.mapMetadata]
  | take job others =>
    exact continueWith_mapMetadata f { delivery with queue := others } i job.channel job.records
  | conclude current outcome => exact conclude_mapMetadata f delivery i current outcome
  | leave => simp only [make, Move.mapMetadata, setWorker, mapMetadata, Array.map_setIfInBounds,
      Worker.mapMetadata]

/-! ### Whose move it is -/

theorem findMove?_mapMetadata (i count : Nat) :
    (delivery.mapMetadata f).findMove? i count =
      (delivery.findMove? i count).map (Prod.map id (Move.mapMetadata f)) := by
  induction count generalizing i with
  | zero => rfl
  | succ count ih =>
    rw [findMove?, findMove?, move?_mapMetadata, ih]
    cases delivery.move? i <;> rfl

theorem findMoveFrom?_mapMetadata (start : Nat) :
    (delivery.mapMetadata f).findMoveFrom? start =
      (delivery.findMoveFrom? start).map (Prod.map id (Move.mapMetadata f)) := by
  rw [findMoveFrom?, findMoveFrom?, size_workers_mapMetadata, findMove?_mapMetadata,
    findMove?_mapMetadata]
  cases delivery.findMove? start (delivery.workers.size - start) <;> rfl

theorem firstMove?_mapMetadata (candidates : List Nat) :
    (delivery.mapMetadata f).firstMove? candidates =
      (delivery.firstMove? candidates).map (Prod.map id (Prod.map (Move.mapMetadata f) id)) := by
  induction candidates with
  | nil => rfl
  | cons i others ih =>
    rw [firstMove?, firstMove?, move?_mapMetadata, ih]
    cases delivery.move? i <;> rfl

theorem candidate?_mapMetadata (round : Round) :
    (delivery.mapMetadata f).candidate? round =
      (delivery.candidate? round).map (Prod.map id (Prod.map (Move.mapMetadata f) id)) := by
  rw [candidate?, candidate?, firstMove?_mapMetadata, findMoveFrom?_mapMetadata]
  cases delivery.firstMove? (round.current :: round.interrupted) with
  | some found => rfl
  | none =>
    simp only [Option.map_none, Option.map_map]
    rfl

@[simp] theorem cost_mapMetadata (move : Move) :
    (delivery.mapMetadata f).cost (move.mapMetadata f) = delivery.cost move := by
  rw [cost, cost, Move.steps_mapMetadata]
  rfl

/-- The same worker moves next, and the round goes on in the same way. -/
theorem nextMove?_mapMetadata (round : Round) :
    (delivery.mapMetadata f).nextMove? round =
      (delivery.nextMove? round).map (Prod.map id (Prod.map (Move.mapMetadata f) id)) := by
  rw [nextMove?, nextMove?, candidate?_mapMetadata]
  cases delivery.candidate? round with
  | none => rfl
  | some found =>
    obtain ⟨i, move, interrupted⟩ := found
    simp only [Option.map_some, Prod.map_apply, id_eq, cost_mapMetadata,
      findMoveFrom?_mapMetadata]
    split
    · rfl
    · cases delivery.findMoveFrom? (i + 1) with
      | none => rfl
      | some next => simp only [Option.map_some, Prod.map, cost_mapMetadata, id_eq]

theorem settleFrom_mapMetadata (round : Round) (notices : Array Notice) :
    (delivery.mapMetadata f).settleFrom round (notices.map (Notice.mapMetadata f)) =
      ((delivery.settleFrom round notices).1.mapMetadata f,
        (delivery.settleFrom round notices).2.map (Notice.mapMetadata f)) := by
  -- along the moves that are made without the replacement: the same ones are found with it
  fun_induction settleFrom delivery round notices with
  | case1 delivery round notices nobody =>
    have nobody_either : (delivery.mapMetadata f).nextMove? round = none := by
      rw [nextMove?_mapMetadata, nobody, Option.map_none]
    exact settleFrom_of_none nobody_either _
  | case2 delivery round notices i move next found less ih =>
    have found_too : (delivery.mapMetadata f).nextMove? round =
        some (i, move.mapMetadata f, next) := by
      rw [nextMove?_mapMetadata, found]
      rfl
    have noticed : notices.map (Notice.mapMetadata f) ++ (move.mapMetadata f).notice?.toArray =
        (notices ++ move.notice?.toArray).map (Notice.mapMetadata f) := by
      rw [Move.notice?_mapMetadata, Array.map_append]
      cases move.notice? <;> simp
    rw [settleFrom_of_some found_too, make_mapMetadata, noticed, ih]

theorem settle_mapMetadata :
    (delivery.mapMetadata f).settle =
      (delivery.settle.1.mapMetadata f, delivery.settle.2.map (Notice.mapMetadata f)) := by
  have settled := settleFrom_mapMetadata f delivery {} #[]
  rw [Array.map_empty] at settled
  simp only [settle, settled, Array.toList_map]

/-! ### The passing of time -/

@[simp] theorem deadlines_mapMetadata :
    (delivery.mapMetadata f).deadlines = delivery.deadlines := by
  simp only [deadlines, mapMetadata, Array.toList_map, List.filterMap_map, Function.comp_def,
    Worker.deadline?_mapMetadata]

theorem setClock_mapMetadata (time : Nat) :
    (delivery.mapMetadata f).setClock time = (delivery.setClock time).mapMetadata f := rfl

/-- Time passes with the same stops on the way, and what happens at each is the same. -/
theorem advanceTo_mapMetadata (time : Nat) :
    (delivery.mapMetadata f).advanceTo time =
      ((delivery.advanceTo time).1.mapMetadata f,
        (delivery.advanceTo time).2.map (Notice.mapMetadata f)) := by
  have due_too (delivery : Delivery) : (delivery.mapMetadata f).deadlinesUntil time =
      delivery.deadlinesUntil time := by
    rw [deadlinesUntil, deadlines_mapMetadata, deadlinesUntil]
  -- along the stops without the replacement; a stop is a deadline, and these are the same
  fun_induction advanceTo delivery time with
  | case1 delivery nothing_due =>
    rw [← due_too] at nothing_due
    exact advanceTo_of_none nothing_due
  | case2 delivery first due less settled later ih =>
    rw [← due_too] at due
    rw [advanceTo_of_some due, setClock_mapMetadata, settle_mapMetadata, ih, List.map_append]

theorem sleep_mapMetadata (duration : Nat) :
    (delivery.mapMetadata f).sleep duration =
      ((delivery.sleep duration).1.mapMetadata f,
        (delivery.sleep duration).2.map (Notice.mapMetadata f)) :=
  advanceTo_mapMetadata f delivery (delivery.now + duration)

/-! ### What is done from outside -/

theorem enqueue_mapMetadata (job : Job) :
    (delivery.mapMetadata f).enqueue (job.mapMetadata f) =
      ((delivery.enqueue job).1.mapMetadata f,
        (delivery.enqueue job).2.map (Notice.mapMetadata f)) := by
  have as_many : (delivery.mapMetadata f).queue.length = delivery.queue.length := List.length_map _
  rw [enqueue, enqueue, as_many, Job.notices_mapMetadata, Job.notices_mapMetadata]
  change (if delivery.phase = .stopped then _ else if _ then _ else _) = _
  split
  · rfl
  · change (if delivery.limits.queueLength ≤ _ then _ else _) = _
    split
    · rfl
    · simp only [mapMetadata, List.map_append, List.map_cons, List.map_nil]

theorem insert_channel_mapMetadata (name : ChannelName) (channel : Channel) :
    { delivery.mapMetadata f with
        channels := (delivery.mapMetadata f).channels.insert name (channel.mapMetadata f) } =
      ({ delivery with channels := delivery.channels.insert name channel } : Delivery).mapMetadata
        f := by
  simp only [mapMetadata, map_insert]

@[simp] theorem hasChannel_mapMetadata (name : ChannelName) :
    (delivery.mapMetadata f).hasChannel name = delivery.hasChannel name :=
  Std.ExtTreeMap.contains_map

theorem addChannel_mapMetadata (name : ChannelName) (capacity : Nat) :
    (delivery.mapMetadata f).addChannel name capacity =
      (delivery.addChannel name capacity).mapMetadata f :=
  insert_channel_mapMetadata f delivery name { capacity }

theorem closeChannel_mapMetadata (name : ChannelName) (channel : Channel) :
    (delivery.mapMetadata f).closeChannel name (channel.mapMetadata f) =
      (delivery.closeChannel name channel).mapMetadata f :=
  insert_channel_mapMetadata f delivery name channel.close

theorem drain_mapMetadata (name : ChannelName) (channel : Channel) (limit : Option Nat) :
    (delivery.mapMetadata f).drain name (channel.mapMetadata f) limit =
      ((delivery.drain name channel limit).1.map f,
        (delivery.drain name channel limit).2.mapMetadata f) := by
  have as_many : (channel.mapMetadata f).contents.length = channel.contents.length :=
    List.length_map _
  rw [drain, as_many, Channel.drop_mapMetadata, insert_channel_mapMetadata]
  simp only [drain, Channel.mapMetadata, List.map_take]

theorem start_mapMetadata :
    (delivery.mapMetadata f).start = delivery.start.mapMetadata f := by
  simp only [start, mapMetadata, Array.map_replicate, Worker.mapMetadata]

theorem stop_mapMetadata : (delivery.mapMetadata f).stop = delivery.stop.mapMetadata f := by
  simp only [stop, mapMetadata, List.map_nil, Array.map_empty]

@[simp] theorem completed?_mapMetadata :
    (delivery.mapMetadata f).completed? = delivery.completed? := by
  simp only [completed?, mapMetadata, Array.all_map, Function.comp_def,
    Worker.mapMetadata_eq_ended_iff]

end Delivery

end Attribution
