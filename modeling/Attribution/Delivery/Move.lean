import Attribution.Delivery

/-!
# What the workers do

A worker makes one move at a time: it joins the line for the queue, takes the oldest job when it
is the first in line, brings a record to its outcome, or goes. `move?` says which move a worker
can make, if any, and `make` what is there after it. Whether a waiting record is sent depends on
the room in its channel and on those who wait there before it; a record that cannot be sent stays
until its deadline.

Every move lessens the `work` that is left, which `work_make_lt` says; so the workers come to
rest whoever moves first.
-/

namespace Attribution

namespace Worker

/-- The greatest number of moves that the worker can make without a further job. -/
def work : Worker → Nat
  | .arriving => 2
  | .inLine _ => 1
  | .sending current => current.rest.length + 3
  | .ended => 0

/-- Whether the worker stands in line before the given turn. -/
def isInLineBefore (turn : Nat) : Worker → Bool
  | .inLine own => own < turn
  | _ => false

/-- Whether the worker waits to send to the given channel, before the given turn. -/
def sendsBefore (channel : ChannelName) (turn : Nat) : Worker → Bool
  | .sending current => current.channel = channel && current.turn < turn
  | _ => false

end Worker

/-- The greatest number of moves that a job can give rise to. -/
def Job.work (job : Job) : Nat :=
  job.records.length + 2

/-- A move of a worker. -/
inductive Move where
  /-- It joins the line for the queue. -/
  | join
  /-- It takes the oldest job; the other jobs stay in the queue. -/
  | take (job : Job) (others : List Job)
  /-- The record that it sends meets its outcome, and it goes on with the rest of the job. -/
  | conclude (current : Sending) (outcome : Outcome)
  /-- It goes, since there will be no more jobs. -/
  | leave
  deriving DecidableEq

namespace Move

/-- The report of a move by which a record meets its outcome. -/
def notice? : Move → Option Notice
  | conclude current outcome => some ⟨outcome, current.record, some current.channel⟩
  | _ => none

end Move

namespace Delivery

/-- Sums of numbers start from the numeral. Other instances come to the same, but which of them is
found depends on what is imported. -/
local instance zeroNat : Zero Nat := ⟨0⟩

/-- The greatest number of moves that are left until something comes from outside. -/
def work (delivery : Delivery) : Nat :=
  (delivery.workers.toList.map Worker.work).sum + (delivery.queue.map Job.work).sum

/-! ### Which move a worker can make -/

/-- Whether nobody stands in line before the given turn. -/
def isFirstInLine (delivery : Delivery) (turn : Nat) : Bool :=
  !delivery.workers.any (Worker.isInLineBefore turn)

/-- The move of a worker in line. The first takes a job; where there are none and will be none,
everybody can go. -/
def serve? (delivery : Delivery) (turn : Nat) : Option Move :=
  match delivery.queue with
  | job :: others => if delivery.isFirstInLine turn then some (.take job others) else none
  | [] => if delivery.accepting then none else some .leave

/-- The number of workers that wait for room in the same channel and are served before. -/
def ahead (delivery : Delivery) (current : Sending) : Nat :=
  delivery.workers.countP (Worker.sendsBefore current.channel current.turn)

/-- The outcome that a record on its way meets now; nothing if it has to wait. Room counts for
more than the deadline: what can be sent at the last moment is sent. -/
def outcome? (delivery : Delivery) (current : Sending) : Option Outcome :=
  match delivery.channels[current.channel]? with
  | none => some .closed
  | some channel =>
    if !channel.isOpen then some .closed
    else if delivery.ahead current < channel.room then some .delivered
    else if current.deadline ≤ delivery.now then some .timeout
    else none

/-- The move that a worker can make now, if any. -/
def move? (delivery : Delivery) (i : Nat) : Option Move :=
  match delivery.workers[i]? with
  | none => none
  | some .ended => none
  | some .arriving => some .join
  | some (.inLine turn) => delivery.serve? turn
  | some (.sending current) => (delivery.outcome? current).map (.conclude current)

/-- A move that a worker can make: what the worker is doing at the time, and what else there is
for the move to be possible. -/
inductive Possible (delivery : Delivery) (i : Nat) : Move → Prop where
  | join (at_i : delivery.workers[i]? = some .arriving) : Possible delivery i .join
  | take {turn : Nat} {job : Job} {others : List Job}
      (at_i : delivery.workers[i]? = some (.inLine turn))
      (queued : delivery.queue = job :: others) (first : delivery.isFirstInLine turn) :
      Possible delivery i (.take job others)
  | conclude {current : Sending} {outcome : Outcome}
      (at_i : delivery.workers[i]? = some (.sending current))
      (met : delivery.outcome? current = some outcome) :
      Possible delivery i (.conclude current outcome)
  | leave {turn : Nat} (at_i : delivery.workers[i]? = some (.inLine turn))
      (nothing : delivery.queue = []) (last : delivery.accepting = false) :
      Possible delivery i .leave

/-- A move that is found is possible. -/
theorem possible_of_move? {delivery : Delivery} {i : Nat} {move : Move}
    (h : delivery.move? i = some move) : delivery.Possible i move := by
  rw [move?] at h
  split at h
  · cases h
  · cases h
  · rename_i at_i
    cases h
    exact .join at_i
  · rename_i turn at_i
    rw [serve?] at h
    split at h
    · rename_i job others queued
      split at h
      · rename_i first
        cases h
        exact .take at_i queued first
      · cases h
    · rename_i nothing
      split at h
      · cases h
      · rename_i last
        cases h
        exact .leave at_i nothing (by simpa using last)
  · rename_i current at_i
    obtain ⟨outcome, met, rfl⟩ := Option.map_eq_some_iff.1 h
    exact .conclude at_i met

/-! ### What is there after a move -/

/-- Changes what one worker is doing. -/
def setWorker (delivery : Delivery) (i : Nat) (worker : Worker) : Delivery :=
  { delivery with workers := delivery.workers.setIfInBounds i worker }

/-- Gives out a turn. -/
def giveTurn (delivery : Delivery) : Delivery :=
  { delivery with nextTurn := delivery.nextTurn + 1 }

/-- What a worker does next that has the given records of a job before it: the first is sent in
a new turn and with a deadline of its own, and after the last the worker comes back for another
job. -/
def continuing (delivery : Delivery) (channel : ChannelName) : List Metadata → Worker
  | [] => .arriving
  | record :: rest =>
    .sending
      { channel, record, rest
        turn := delivery.nextTurn
        deadline := delivery.now + delivery.limits.sendTimeout }

/-- A worker goes on with the records of a job. -/
def continueWith (delivery : Delivery) (i : Nat) (channel : ChannelName) (records : List Metadata) :
    Delivery :=
  (delivery.setWorker i (delivery.continuing channel records)).giveTurn

/-- Puts a record into its channel. -/
def deposit (delivery : Delivery) (name : ChannelName) (record : Metadata) : Delivery :=
  { delivery with
    channels := delivery.channels.alter name fun channel => channel.map (·.send record) }

/-- The record on its way has met its outcome, and the worker goes on with the rest of its job. -/
def conclude (delivery : Delivery) (i : Nat) (current : Sending) (outcome : Outcome) : Delivery :=
  let sent :=
    if outcome = .delivered then delivery.deposit current.channel current.record else delivery
  sent.continueWith i current.channel current.rest

/-- The delivery after a worker has made a move. -/
def make (delivery : Delivery) (i : Nat) : Move → Delivery
  | .join => (delivery.setWorker i (.inLine delivery.nextTurn)).giveTurn
  | .take job others =>
    { delivery with queue := others }.continueWith i job.channel job.records
  | .conclude current outcome => delivery.conclude i current outcome
  | .leave => delivery.setWorker i .ended

/-! ### Every move lessens the work -/

/-- What stands before and after an element counts the same whatever takes its place. -/
theorem sum_map_set {α : Type} (quantity : α → Nat) {xs : List α} {i : Nat} {old : α}
    (h : xs[i]? = some old) (new : α) :
    ((xs.set i new).map quantity).sum + quantity old = (xs.map quantity).sum + quantity new := by
  obtain ⟨inside, rfl⟩ := List.getElem?_eq_some_iff.1 h
  have before :
      ((xs.take i ++ xs[i] :: xs.drop (i + 1)).map quantity).sum = (xs.map quantity).sum := by
    rw [← List.drop_eq_getElem_cons inside, List.take_append_drop]
  have after : xs.set i new = xs.take i ++ new :: xs.drop (i + 1) := by
    rw [List.set_eq_take_append_cons_drop, if_pos inside]
  rw [List.map_append, List.sum_append, List.map_cons, List.sum_cons] at before
  rw [after, List.map_append, List.sum_append, List.map_cons, List.sum_cons]
  omega

theorem work_continuing (delivery : Delivery) (channel : ChannelName) (records : List Metadata) :
    (delivery.continuing channel records).work = records.length + 2 := by
  cases records <;> simp [continuing, Worker.work]

@[simp] theorem work_giveTurn (delivery : Delivery) : delivery.giveTurn.work = delivery.work := rfl

@[simp] theorem work_deposit (delivery : Delivery) (name : ChannelName) (record : Metadata) :
    (delivery.deposit name record).work = delivery.work := rfl

/-- The work left with a worker doing something else. -/
theorem work_setWorker {delivery : Delivery} {i : Nat} {old : Worker}
    (h : delivery.workers[i]? = some old) (new : Worker) :
    (delivery.setWorker i new).work + old.work = delivery.work + new.work := by
  rw [← Array.getElem?_toList] at h
  have := sum_map_set Worker.work h new
  simp only [work, setWorker, Array.toList_setIfInBounds]
  omega

theorem work_continueWith (delivery : Delivery) {i : Nat} {old : Worker}
    (h : delivery.workers[i]? = some old) (channel : ChannelName) (records : List Metadata) :
    (delivery.continueWith i channel records).work + old.work =
      delivery.work + records.length + 2 := by
  have := work_setWorker h (delivery.continuing channel records)
  rw [work_continuing] at this
  simp only [continueWith, work_giveTurn]
  omega

theorem work_conclude_lt {delivery : Delivery} {i : Nat} {current : Sending}
    (h : delivery.workers[i]? = some (.sending current)) (outcome : Outcome) :
    (delivery.conclude i current outcome).work < delivery.work := by
  simp only [conclude]
  split
  · have := work_continueWith (delivery.deposit current.channel current.record) h
      current.channel current.rest
    simp only [Worker.work, work_deposit] at this
    omega
  · have := work_continueWith delivery h current.channel current.rest
    simp only [Worker.work] at this
    omega

theorem work_make_lt {delivery : Delivery} {i : Nat} {move : Move}
    (h : delivery.move? i = some move) : (delivery.make i move).work < delivery.work := by
  cases possible_of_move? h with
  | join at_i =>
    have := work_setWorker at_i (.inLine delivery.nextTurn)
    simp only [Worker.work] at this
    simp only [make, work_giveTurn]
    omega
  | @take turn job others at_i queued =>
    have := work_continueWith { delivery with queue := others } at_i job.channel job.records
    have whole : delivery.work =
        ({ delivery with queue := others } : Delivery).work + (job.records.length + 2) := by
      simp only [work, queued, List.map_cons, List.sum_cons, Job.work]
      omega
    simp only [Worker.work] at this
    simp only [make]
    omega
  | conclude at_i => exact work_conclude_lt at_i _
  | leave at_i =>
    have := work_setWorker at_i .ended
    simp only [Worker.work] at this
    simp only [make]
    omega

end Delivery

end Attribution
