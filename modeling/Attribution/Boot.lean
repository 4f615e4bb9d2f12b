import Attribution.LogFilter
import Attribution.Service
import Attribution.Settings

/-!
# A life of the process

From its settings a process builds an instrumented service, unless the log filter or the queue's
capacity is out of the question. Whoever feeds it can register a channel, ask for containers and
apply updates before it runs. Then the delivery starts; once the process is told to stop, the
store is dropped, and the delivery has a grace period to work off what is queued.
-/

namespace Attribution.Boot

/-- Why a service cannot be built. -/
inductive Failure where
  /-- The log filter cannot be read. -/
  | logFilter (problem : LogFilter.Problem)
  /-- There is no queue of such a capacity. -/
  | queueCapacity
  deriving DecidableEq

namespace Failure

/-- What is said of the failure. -/
def message : Failure → String
  | logFilter problem => problem.message
  | queueCapacity => Limits.capacityMessage

/-- Whether the failure is one that building does not provide for, so that the process breaks
off instead of ending in order. -/
def isFatal : Failure → Bool
  | logFilter (.misplaced _) => true
  | logFilter _ => false
  | queueCapacity => true

/-- The exit code of a process whose service cannot be built. -/
def exitCode (failure : Failure) : Nat :=
  if failure.isFatal then 101 else 1

end Failure

/-- How long the delivery may go on after the process is told to stop, in milliseconds. -/
def gracePeriod : Nat := 10000

/-- The service for the given settings. -/
def build (settings : Settings) : Except Failure Service :=
  match LogFilter.check settings.logFilter with
  | .error problem => .error (.logFilter problem)
  | .ok () =>
    if settings.limits.fits then .ok (.fresh settings.limits true) else .error .queueCapacity

/-- The channel that the records of a life go to. -/
def channelName : ChannelName := "callbacks"

/-- The capacity of this channel. -/
def channelCapacity : Nat := 1000

/-- What is done with a service before it runs: its channel is registered, the containers are
asked for, and the updates are applied. -/
def preparation (wanted : List ContainerId) (updates : List (Mode × List Update)) : List Action :=
  [.register channelName (some channelCapacity)] ++ wanted.map .want ++
    updates.map fun (mode, parts) => .apply mode parts

/-- What brings a service up. -/
def startup : List Action :=
  [.startDelivery, .setReady true]

/-- What winds a service down. -/
def shutdown : List Action :=
  [.dropStore, .sleep gracePeriod]

/-- What a life leaves behind. -/
structure Report where
  /-- The sizes of the store before the service ran. -/
  sizes : Option Sizes
  /-- What has entered the channel, in this order. -/
  delivered : List Metadata
  deriving DecidableEq

/-- What the channel of a service holds. -/
def received (service : Service) : List Metadata :=
  (service.delivery.channels[channelName]?.map Channel.contents).getD []

/-- Lives a life: the service is told to stop as soon as it is up. -/
def live (service : Service) (wanted : List ContainerId) (updates : List (Mode × List Update)) :
    Report :=
  let prepared := service.run (preparation wanted updates)
  { sizes := prepared.sizes?, delivered := received (prepared.run (startup ++ shutdown)) }

end Attribution.Boot
