import Attribution.Delivery
import Attribution.OpenMetrics
import Attribution.Store

/-!
# Counters and gauges

What is published about the store: how many updates were applied in each mode, how many
deployments were purged, how many records met which outcome, and, for a store that is
instrumented, its sizes. A mode or an outcome that was never counted has no line.
-/

namespace Attribution

/-- How many records met each outcome. -/
structure Tally where
  closed : Nat := 0
  delivered : Nat := 0
  queueFull : Nat := 0
  timeout : Nat := 0
  unregistered : Nat := 0
  deriving DecidableEq

namespace Tally

/-- The number of records that met an outcome. -/
def count (tally : Tally) : Outcome → Nat
  | .closed => tally.closed
  | .delivered => tally.delivered
  | .queueFull => tally.queueFull
  | .timeout => tally.timeout
  | .unregistered => tally.unregistered

/-- Counts a record. -/
def add (tally : Tally) : Outcome → Tally
  | .closed => { tally with closed := tally.closed + 1 }
  | .delivered => { tally with delivered := tally.delivered + 1 }
  | .queueFull => { tally with queueFull := tally.queueFull + 1 }
  | .timeout => { tally with timeout := tally.timeout + 1 }
  | .unregistered => { tally with unregistered := tally.unregistered + 1 }

/-- Counts the records of several notices. -/
def addAll (tally : Tally) (notices : List Notice) : Tally :=
  notices.foldl (fun tally notice => tally.add notice.outcome) tally

theorem count_add (tally : Tally) (outcome other : Outcome) :
    (tally.add outcome).count other = tally.count other + if outcome = other then 1 else 0 := by
  cases outcome <;> cases other <;> rfl

/-- A tally grows by the number of notices of each outcome. -/
theorem count_addAll (tally : Tally) (notices : List Notice) (outcome : Outcome) :
    (tally.addAll notices).count outcome =
      tally.count outcome + notices.countP fun notice => notice.outcome = outcome := by
  induction notices generalizing tally with
  | nil => rfl
  | cons notice more ih =>
    show ((tally.add notice.outcome).addAll more).count outcome = _
    rw [ih, count_add, List.countP_cons]
    by_cases h : notice.outcome = outcome
    · simp [h]
      omega
    · simp [h]

end Tally

/-- Everything that is counted. -/
structure Counters where
  incremental : Nat := 0
  replace : Nat := 0
  purges : Nat := 0
  outcomes : Tally := {}
  deriving DecidableEq

namespace Mode

/-- The name under which updates in the mode are counted. -/
def label : Mode → String
  | incremental => "incremental"
  | replace => "replace"

end Mode

namespace Outcome

/-- The name under which records with the outcome are counted. -/
def label : Outcome → String
  | closed => "closed"
  | delivered => "delivered"
  | queueFull => "queue_full"
  | timeout => "timeout"
  | unregistered => "unregistered"

/-- The outcomes in the order of their names. -/
def all : List Outcome := [closed, delivered, queueFull, timeout, unregistered]

end Outcome

namespace Counters

open OpenMetrics

/-- The number of updates applied in a mode. -/
def applies (counters : Counters) : Mode → Nat
  | .incremental => counters.incremental
  | .replace => counters.replace

/-- Counts an update, and the deployments that it purged. -/
def applied (counters : Counters) (mode : Mode) (purged : Nat) : Counters :=
  match mode with
  | .incremental =>
    { counters with
      incremental := counters.incremental + 1, purges := counters.purges + purged }
  | .replace =>
    { counters with replace := counters.replace + 1, purges := counters.purges + purged }

/-- Counts the records of several notices. -/
def noted (counters : Counters) (notices : List Notice) : Counters :=
  { counters with outcomes := counters.outcomes.addAll notices }

/-- A sample for what was counted at least once. -/
def sample? (label name : String) (count : Nat) : Option Sample :=
  if count = 0 then none else some ⟨some (label, name), count⟩

/-- The updates by mode. -/
def appliesFamily (counters : Counters) : Family where
  name := "entities_applies"
  help := "Count of updates applied to the entities store."
  kind := .counter
  samples := [Mode.incremental, Mode.replace].filterMap fun mode =>
    sample? "mode" mode.label (counters.applies mode)

/-- The purged deployments. -/
def purgesFamily (counters : Counters) : Family where
  name := "entities_purges"
  help := "Count of deployments purged from the entities store."
  kind := .counter
  samples := [⟨none, counters.purges⟩]

/-- The records by outcome. -/
def outcomesFamily (counters : Counters) : Family where
  name := "entities_container_metadata_callbacks"
  help := "Count of resolved container metadata records by delivery outcome."
  kind := .counter
  samples := Outcome.all.filterMap fun outcome =>
    sample? "outcome" outcome.label (counters.outcomes.count outcome)

/-- All that is counted, for publication. -/
def families (counters : Counters) : List Family :=
  [counters.appliesFamily, counters.purgesFamily, counters.outcomesFamily]

end Counters

namespace Sizes

open OpenMetrics

/-- A gauge with a single sample. -/
def gauge (name help : String) (value : Nat) : Family :=
  ⟨name, help, .gauge, [⟨none, value⟩]⟩

/-- The sizes, for publication. -/
def families (sizes : Sizes) : List Family :=
  [gauge "entities_ip_index_size" "The number of IP addresses in the index" sizes.addresses,
   gauge "entities_endpoint_index_size" "The number of endpoints in the index" sizes.endpoints,
   gauge "entities_container_index_size" "The number of container IDs in the index"
     sizes.containers,
   gauge "entities_deployment_index_size" "The number of deployments that own at least one entry"
     sizes.deployments,
   gauge "entities_pending_callbacks" "The number of container IDs awaiting resolution"
     sizes.pending]

end Sizes

end Attribution
