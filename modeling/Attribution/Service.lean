import Attribution.Admin
import Attribution.Counters
import Attribution.Delivery.Clock

/-!
# The service

The store, the delivery behind it, the registered callback channel and the counters, as one
state that actions change. Every action has an answer; an action that cannot be carried out is
refused and changes nothing. After each action the delivery workers do everything that they can,
and what became of records on the way is counted.

Callers may drop the store. Then nothing can be asked of it any more, and the delivery ends once
it has worked off its queue. An instrumented service publishes the sizes of its store; its
metrics go with it.
-/

namespace Attribution

/-- The state of a service. -/
structure Service where
  /-- The store, until it is dropped. -/
  store : Option Store := some .empty
  /-- The channel that resolved metadata is for. -/
  registered : Option ChannelName := none
  delivery : Delivery
  counters : Counters := {}
  /-- Whether the sizes of the store are published. -/
  instrumented : Bool := false
  /-- Whether the service says that it is ready. -/
  ready : Bool := false

/-- What can be done with a service. -/
inductive Action where
  | apply (mode : Mode) (updates : List Update)
  | lookup (endpoint : Endpoint)
  | container (id : ContainerId)
  | want (id : ContainerId)
  /-- The channel is made, with the given capacity, when its name is used for the first time. -/
  | register (channel : ChannelName) (capacity : Option Nat)
  | unregister
  | close (channel : ChannelName)
  | drain (channel : ChannelName) (limit : Option Nat)
  | startDelivery
  | stopDelivery
  | completion
  | sleep (duration : Nat)
  | dropStore
  | metrics
  | samples
  | setReady (value : Bool)
  | request (method target : String)

/-- Why an action cannot be carried out. -/
inductive Refusal where
  /-- The store has been dropped. -/
  | noStore
  /-- The delivery was started or stopped before. -/
  | noDelivery
  /-- The metrics have gone with the store. -/
  | noMetrics
  /-- No channel of that name was ever made. -/
  | unknownChannel
  /-- The channel's receiver is gone. -/
  | channelClosed
  /-- A new channel needs a capacity of at least one. -/
  | noCapacity
  /-- There is no channel of such a capacity. -/
  | capacityTooLarge
  /-- The request cannot be read. -/
  | badRequest (error : Admin.RequestError)
  deriving DecidableEq

/-- What an action is answered with. -/
inductive Answer where
  | done
  /-- For each update with a batch, whether the batch was empty. -/
  | emptiness (batches : List (Option Bool))
  | candidates (candidates : List Candidate)
  | metadata (metadata : Option Metadata)
  /-- The channel that was registered before. -/
  | prior (channel : Option ChannelName)
  | flag (value : Bool)
  | records (records : List Metadata)
  | completion (completed : Option Bool)
  | lines (lines : List String)
  | response (response : Admin.Response)
  | refused (refusal : Refusal)
  deriving DecidableEq

/-- What comes of an action. -/
structure Reaction where
  service : Service
  answer : Answer
  /-- The records that met their outcome. -/
  notices : List Notice := []

namespace Service

/-- A service at the start, with nothing registered and no workers. -/
def fresh (limits : Limits) (instrumented : Bool) : Service :=
  { delivery := { limits }, instrumented }

/-- The sizes of the store, while it is there. -/
def sizes? (service : Service) : Option Sizes :=
  service.store.map Store.sizes

/-- An answer that changes nothing. -/
def answering (service : Service) (answer : Answer) : Reaction :=
  { service, answer }

/-- A refusal. -/
def refuse (service : Service) (refusal : Refusal) : Reaction :=
  service.answering (.refused refusal)

/-- Needs the store. -/
def withStore (service : Service) (use : Store → Reaction) : Reaction :=
  match service.store with
  | some store => use store
  | none => service.refuse .noStore

/-- Needs a channel that was made before. -/
def withChannel (service : Service) (name : ChannelName) (use : Channel → Reaction) : Reaction :=
  match service.delivery.channels[name]? with
  | some channel => use channel
  | none => service.refuse .unknownChannel

/-- Hands resolved metadata on: to the queue, for the channel that is registered now. Nothing
comes of an update that resolves nothing. -/
def dispatch (service : Service) (resolved : List Metadata) : Delivery × List Notice :=
  if resolved = [] then (service.delivery, [])
  else
    match service.registered with
    | some channel => service.delivery.enqueue { channel, records := resolved }
    | none => (service.delivery, resolved.map fun record => ⟨.unregistered, record, none⟩)

/-- Applies an update to the store and hands on what it resolves. -/
def applyUpdates (service : Service) (store : Store) (mode : Mode) (updates : List Update) :
    Reaction :=
  let applied := store.apply mode updates
  let dispatched := service.dispatch applied.resolved
  { service :=
      { service with
        store := some applied.store
        delivery := dispatched.1
        counters := service.counters.applied mode applied.purged }
    answer := .emptiness (updates.map Update.isEmpty?)
    notices := dispatched.2 }

/-- Registers a channel in place of the one registered before. -/
def setRegistered (service : Service) (channel : Option ChannelName) : Reaction :=
  { service := { service with registered := channel }, answer := .prior service.registered }

/-- Registers a channel, which is made first if its name is new. -/
def register (service : Service) (name : ChannelName) (capacity : Option Nat) : Reaction :=
  if service.delivery.hasChannel name then service.setRegistered (some name)
  else
    match capacity with
    | none | some 0 => service.refuse .noCapacity
    | some capacity =>
      if capacity ≤ Limits.greatestCapacity then
        { service with delivery := service.delivery.addChannel name capacity }.setRegistered
          (some name)
      else service.refuse .capacityTooLarge

/-- Takes the oldest records out of an open channel. -/
def drain (service : Service) (name : ChannelName) (channel : Channel) (limit : Option Nat) :
    Reaction :=
  if channel.isOpen then
    let drained := service.delivery.drain name channel limit
    { service := { service with delivery := drained.2 }, answer := .records drained.1 }
  else service.refuse .channelClosed

/-- What the service publishes; nothing once its metrics have gone with the store. -/
def families? (service : Service) : Option (List OpenMetrics.Family) :=
  if service.instrumented then
    service.sizes?.map fun sizes => service.counters.families ++ sizes.families
  else some service.counters.families

/-- Needs the metrics. -/
def withMetrics (service : Service) (use : List OpenMetrics.Family → Answer) : Reaction :=
  match service.families? with
  | some families => service.answering (use families)
  | none => service.refuse .noMetrics

/-- Answers a request over HTTP. -/
def respond (service : Service) (method target : String) : Reaction :=
  match Admin.Request.parse method target with
  | .error error => service.refuse (.badRequest error)
  | .ok request =>
    service.withMetrics fun families =>
      .response (Admin.handle (OpenMetrics.text families) service.ready request)

/-- Carries out an action, as far as it concerns the caller. -/
def perform (service : Service) : Action → Reaction
  | .apply mode updates => service.withStore fun store => service.applyUpdates store mode updates
  | .lookup endpoint =>
    service.withStore fun store => service.answering (.candidates (store.lookup endpoint))
  | .container id =>
    service.withStore fun store => service.answering (.metadata (store.metadata? id))
  | .want id =>
    service.withStore fun store =>
      { service with store := some (store.want id) }.answering .done
  | .register channel capacity => service.withStore fun _ => service.register channel capacity
  | .unregister => service.withStore fun _ => service.setRegistered none
  | .close name =>
    service.withChannel name fun channel =>
      { service with delivery := service.delivery.closeChannel name channel }.answering
        (.flag channel.isOpen)
  | .drain name limit => service.withChannel name fun channel => service.drain name channel limit
  | .startDelivery =>
    if service.delivery.phase = .unstarted then
      { service with delivery := service.delivery.start }.answering .done
    else service.refuse .noDelivery
  | .stopDelivery =>
    { service with delivery := service.delivery.stop }.answering
      (.flag (decide (service.delivery.phase ≠ Phase.stopped)))
  | .completion => service.answering (.completion service.delivery.completed?)
  | .sleep duration =>
    let slept := service.delivery.sleep duration
    { service := { service with delivery := slept.1 }, answer := .done, notices := slept.2 }
  | .dropStore =>
    service.withStore fun _ =>
      { service with store := none, delivery := service.delivery.closeIntake }.answering .done
  | .metrics => service.withMetrics fun families => .lines (OpenMetrics.lines families)
  | .samples =>
    service.withMetrics fun families => .lines (families.flatMap OpenMetrics.Family.sampleLines)
  | .setReady value => { service with ready := value }.answering .done
  | .request method target => service.respond method target

/-- Carries out an action, lets the workers do everything that they can, and counts what became of
records. -/
def step (service : Service) (action : Action) : Reaction :=
  let reaction := service.perform action
  let settled := reaction.service.delivery.settle
  let notices := reaction.notices ++ settled.2
  { service :=
      { reaction.service with
        delivery := settled.1
        counters := reaction.service.counters.noted notices }
    answer := reaction.answer
    notices }

/-- Carries out actions in turn. -/
def run (service : Service) : List Action → Service
  | [] => service
  | action :: more => (service.step action).service.run more

@[simp] theorem run_nil (service : Service) : service.run [] = service := rfl

@[simp] theorem run_cons (service : Service) (action : Action) (more : List Action) :
    service.run (action :: more) = (service.step action).service.run more := rfl

theorem run_append (service : Service) (first second : List Action) :
    service.run (first ++ second) = (service.run first).run second := by
  induction first generalizing service with
  | nil => rfl
  | cons action more ih => exact ih _

/-- Between two actions no worker can move. -/
theorem settled_step (service : Service) (action : Action) :
    (service.step action).service.delivery.Settled :=
  Delivery.settled_settle _

end Service

end Attribution
