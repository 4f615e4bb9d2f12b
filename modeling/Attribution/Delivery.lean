import Attribution.Channel

/-!
# Delivery

Resolved metadata does not go to its channel at once. The records that one update resolved form
a job, with the channel that was registered at that moment; jobs wait in a queue of bounded
length, and a pool of workers takes them from there and sends the records. A worker whose
channel is full waits for room, but no longer than a timeout; so a slow receiver holds up the
workers and never the store.

This file has the state and what is done to it from outside. What the workers do by themselves
is in `Delivery.Move`, whose move it is in `Delivery.Round`, and the passing of time in
`Delivery.Clock`. Whatever becomes of a record is reported by a `Notice`.
-/

namespace Attribution

/-- What became of a record. -/
inductive Outcome where
  /-- The channel's receiver, or the delivery, was gone. -/
  | closed
  /-- It entered the channel. -/
  | delivered
  /-- The queue was full. -/
  | queueFull
  /-- The channel stayed full for too long. -/
  | timeout
  /-- No channel was registered. -/
  | unregistered
  deriving DecidableEq

/-- The report that a record has met its outcome. -/
structure Notice where
  outcome : Outcome
  record : Metadata
  /-- The channel that the record was meant for, if there was one. -/
  channel : Option ChannelName
  deriving DecidableEq

/-- The records that one update resolved, and the channel that they are for. -/
structure Job where
  channel : ChannelName
  records : List Metadata
  deriving DecidableEq

namespace Job

/-- The same outcome for every record of the job. -/
def notices (job : Job) (outcome : Outcome) : List Notice :=
  job.records.map fun record => ⟨outcome, record, some job.channel⟩

end Job

/-- A record on its way into a channel. -/
structure Sending where
  channel : ChannelName
  record : Metadata
  /-- The records of the job that come after it. -/
  rest : List Metadata
  /-- Senders to one channel are served in the order of their turns. -/
  turn : Nat
  /-- When it is given up. -/
  deadline : Nat
  deriving DecidableEq

/-- What a worker is doing. -/
inductive Worker where
  /-- It is about to join the line for the queue. -/
  | arriving
  /-- It stands in line for the queue; the line moves in the order of the turns. -/
  | inLine (turn : Nat)
  /-- It sends the records of a job. -/
  | sending (current : Sending)
  /-- It has gone, since there will be no more jobs. -/
  | ended
  deriving DecidableEq

namespace Worker

/-- The records that the worker still has to send. -/
def outstanding : Worker → List Metadata
  | .sending current => current.record :: current.rest
  | _ => []

end Worker

/-- The dimensions of a delivery. -/
structure Limits where
  /-- The number of jobs that may wait; none counts as one. -/
  queueCapacity : Nat := 1024
  /-- The number of workers; none counts as one. -/
  workers : Nat := 2
  /-- How long a worker waits on a full channel, in milliseconds. -/
  sendTimeout : Nat := 5000
  deriving DecidableEq

namespace Limits

/-- The greatest capacity that a queue or a channel can have. -/
def greatestCapacity : Nat := 2305843009213693951

/-- What is said of a capacity beyond the greatest. -/
def capacityMessage : String :=
  "a semaphore may not have more than MAX_PERMITS permits (2305843009213693951)"

/-- Whether a queue can have this capacity. -/
def fits (limits : Limits) : Bool :=
  limits.queueCapacity ≤ greatestCapacity

/-- The number of jobs that may wait. -/
def queueLength (limits : Limits) : Nat :=
  max 1 limits.queueCapacity

/-- The number of workers in the pool. -/
def poolSize (limits : Limits) : Nat :=
  max 1 limits.workers

end Limits

/-- How far a delivery has come. -/
inductive Phase where
  /-- It has no workers yet; jobs are queued. -/
  | unstarted
  /-- Its workers are there. -/
  | running
  /-- It was given up, with everything that was queued or held. -/
  | stopped
  deriving DecidableEq

/-- Everything between the store and the receivers. -/
structure Delivery where
  limits : Limits
  queue : List Job := []
  workers : Array Worker := #[]
  channels : Channels := ∅
  phase : Phase := .unstarted
  /-- Whether there can be further jobs. -/
  accepting : Bool := true
  /-- The time, in milliseconds since the start. -/
  now : Nat := 0
  /-- The next turn to be given out. -/
  nextTurn : Nat := 0

namespace Delivery

/-- Whether a channel was ever made under the name. -/
def hasChannel (delivery : Delivery) (name : ChannelName) : Bool :=
  delivery.channels.contains name

/-- Makes a channel. -/
def addChannel (delivery : Delivery) (name : ChannelName) (capacity : Nat) : Delivery :=
  { delivery with channels := delivery.channels.insert name { capacity } }

/-- Puts a job into the queue. Where that is not possible, because the delivery is stopped or
the queue is full, the job's records meet their outcome at once. -/
def enqueue (delivery : Delivery) (job : Job) : Delivery × List Notice :=
  if delivery.phase = .stopped then (delivery, job.notices .closed)
  else if delivery.limits.queueLength ≤ delivery.queue.length then
    (delivery, job.notices .queueFull)
  else ({ delivery with queue := delivery.queue ++ [job] }, [])

/-- Brings in the workers. -/
def start (delivery : Delivery) : Delivery :=
  { delivery with
    phase := .running
    workers := Array.replicate delivery.limits.poolSize .arriving }

/-- Gives the delivery up. What was queued or held is lost without a notice. -/
def stop (delivery : Delivery) : Delivery :=
  { delivery with phase := .stopped, queue := [], workers := #[] }

/-- No further jobs come after those in the queue. -/
def closeIntake (delivery : Delivery) : Delivery :=
  { delivery with accepting := false }

/-- Whether all workers have gone; nothing is said of a delivery that is not running. -/
def completed? (delivery : Delivery) : Option Bool :=
  if delivery.phase = .running then some (delivery.workers.all (· = .ended)) else none

/-- Takes the oldest records out of a channel, all of them unless there is a limit. -/
def drain (delivery : Delivery) (name : ChannelName) (channel : Channel) (limit : Option Nat) :
    List Metadata × Delivery :=
  let count := limit.getD channel.contents.length
  (channel.contents.take count,
    { delivery with channels := delivery.channels.insert name (channel.drop count) })

/-- Closes a channel. -/
def closeChannel (delivery : Delivery) (name : ChannelName) (channel : Channel) : Delivery :=
  { delivery with channels := delivery.channels.insert name channel.close }

/-- The records that have been queued or taken up and have not met their outcome. -/
def outstanding (delivery : Delivery) : List Metadata :=
  delivery.workers.toList.flatMap Worker.outstanding ++ delivery.queue.flatMap Job.records

end Delivery

end Attribution
