import Attribution.Delivery.Clock
import Mathlib.Algebra.BigOperators.Group.Finset.Piecewise
import Mathlib.Algebra.Order.Group.Multiset
import Mathlib.Tactic.Abel

/-!
# The ledger of a delivery

A record that was resolved is in the queue, with a worker, in a channel or with its receiver, or
it has been lost on the way, and then somebody was told or the loss was somebody's own doing. The
ledger of a stretch of time says what came in and what went out in its course, and
`Delivery.Balances` that this is the whole difference between the delivery before and after.
Ledgers of successive stretches add up, so that it is enough to look at one move at a time.

Two records may be equal, and then they count as two; the order in which they are kept does not
matter. So all of this is about multisets.
-/

namespace Attribution

/-- What happened to records over a stretch of time. -/
@[ext]
structure Ledger where
  /-- What updates resolved. -/
  resolved : Multiset Metadata := 0
  /-- What met its outcome. -/
  notices : List Notice := []
  /-- What was given up together with the delivery. -/
  discarded : Multiset Metadata := 0
  /-- What was taken out of each channel. -/
  drained : ChannelName → Multiset Metadata := fun _ => 0
  /-- What each channel held when its receiver went. -/
  lost : ChannelName → Multiset Metadata := fun _ => 0

namespace Ledger

/-- The records of those notices that are of a kind. -/
def noticed (ledger : Ledger) (kind : Notice → Bool) : Multiset Metadata :=
  ((ledger.notices.filter kind).map Notice.record : List Metadata)

/-- The records that met an outcome. -/
def met (ledger : Ledger) (outcome : Outcome) : Multiset Metadata :=
  ledger.noticed fun notice => notice.outcome = outcome

/-- The records that entered a channel. -/
def entered (ledger : Ledger) (name : ChannelName) : Multiset Metadata :=
  ledger.noticed fun notice => notice.outcome = .delivered ∧ notice.channel = some name

/-- The ledger of two stretches of time, one after the other. -/
instance : Add Ledger where
  add first second :=
    { resolved := first.resolved + second.resolved
      notices := first.notices ++ second.notices
      discarded := first.discarded + second.discarded
      drained := fun name => first.drained name + second.drained name
      lost := fun name => first.lost name + second.lost name }

variable (first second : Ledger)

@[simp] theorem resolved_add :
    (first + second).resolved = first.resolved + second.resolved := rfl

@[simp] theorem notices_add : (first + second).notices = first.notices ++ second.notices := rfl

@[simp] theorem discarded_add :
    (first + second).discarded = first.discarded + second.discarded := rfl

@[simp] theorem drained_add (name : ChannelName) :
    (first + second).drained name = first.drained name + second.drained name := rfl

@[simp] theorem lost_add (name : ChannelName) :
    (first + second).lost name = first.lost name + second.lost name := rfl

theorem notices_append (one two : List Notice) :
    ({ notices := one ++ two } : Ledger) = { notices := one } + { notices := two } := by
  refine Ledger.ext ?_ rfl ?_ (funext fun _ => ?_) (funext fun _ => ?_) <;> simp

@[simp] theorem empty_add (ledger : Ledger) : {} + ledger = ledger := by
  refine Ledger.ext ?_ rfl ?_ (funext fun _ => ?_) (funext fun _ => ?_) <;> simp

@[simp] theorem add_empty (ledger : Ledger) : ledger + {} = ledger := by
  refine Ledger.ext ?_ ?_ ?_ (funext fun _ => ?_) (funext fun _ => ?_) <;> simp

@[simp] theorem noticed_add (kind : Notice → Bool) :
    (first + second).noticed kind = first.noticed kind + second.noticed kind := by
  simp only [noticed, notices_add, List.filter_append, List.map_append, Multiset.coe_add]

@[simp] theorem met_add (outcome : Outcome) :
    (first + second).met outcome = first.met outcome + second.met outcome :=
  noticed_add first second _

@[simp] theorem entered_add (name : ChannelName) :
    (first + second).entered name = first.entered name + second.entered name :=
  noticed_add first second _

@[simp] theorem noticed_of_nil {ledger : Ledger} (h : ledger.notices = []) (kind : Notice → Bool) :
    ledger.noticed kind = 0 := by
  rw [noticed, h]
  rfl

/-- Every notice is of one outcome. -/
theorem noticed_eq_met (ledger : Ledger) :
    ledger.noticed (fun _ => true) =
      ledger.met .unregistered + ledger.met .queueFull + ledger.met .closed +
        ledger.met .timeout + ledger.met .delivered := by
  obtain ⟨resolved, notices, discarded, drained, lost⟩ := ledger
  simp only [met, noticed]
  induction notices with
  | nil => rfl
  | cons notice more ih =>
    obtain ⟨outcome, record, channel⟩ := notice
    simp only [List.filter_cons, ↓reduceIte, List.map_cons, ← Multiset.cons_coe, ih]
    cases outcome <;> simp [← Multiset.cons_coe]

theorem noticed_singleton (notice : Notice) (kind : Notice → Bool) :
    ({ notices := [notice] } : Ledger).noticed kind =
      if kind notice then {notice.record} else 0 := by
  simp only [noticed, List.filter_cons, List.filter_nil]
  split <;> rfl

theorem card_met (ledger : Ledger) (outcome : Outcome) :
    (ledger.met outcome).card = ledger.notices.countP fun notice => notice.outcome = outcome := by
  rw [met, noticed, Multiset.coe_card, List.length_map, List.countP_eq_length_filter]

/-- A record that was delivered entered one channel, no more and no less. -/
theorem sum_entered {ledger : Ledger} {names : Finset ChannelName}
    (sent : ∀ notice ∈ ledger.notices, notice.outcome = .delivered →
      ∃ name ∈ names, notice.channel = some name) :
    ∑ name ∈ names, ledger.entered name = ledger.met .delivered := by
  obtain ⟨resolved, notices, discarded, drained, lost⟩ := ledger
  change ∑ name ∈ names, ({ notices } : Ledger).entered name = ({ notices } : Ledger).met .delivered
  induction notices with
  | nil => exact Finset.sum_const_zero
  | cons notice more ih =>
    have others := ih fun other there => sent other (List.mem_cons_of_mem _ there)
    rw [← List.singleton_append, notices_append, met_add]
    simp only [entered_add, Finset.sum_add_distrib, others]
    refine congrArg (· + _) ?_
    by_cases delivered : notice.outcome = .delivered
    · obtain ⟨name, made, addressed⟩ := sent notice List.mem_cons_self delivered
      simp [entered, met, noticed_singleton, delivered, addressed, made]
    · simp [entered, met, noticed_singleton, delivered]

end Ledger

namespace Delivery

/-- The records in the queue. -/
def queued (delivery : Delivery) : Multiset Metadata :=
  (delivery.queue.flatMap Job.records : List Metadata)

/-- The records that workers hold: those that they send, and the rest of their jobs. -/
def held (delivery : Delivery) : Multiset Metadata :=
  (delivery.workers.toList.flatMap Worker.outstanding : List Metadata)

/-- What a channel holds, the oldest first; nothing where there is no such channel. -/
def inbox (delivery : Delivery) (name : ChannelName) : List Metadata :=
  (delivery.channels[name]?.map Channel.contents).getD []

/-- The records in a channel; none where there is no such channel. -/
def contents (delivery : Delivery) (name : ChannelName) : Multiset Metadata :=
  ((delivery.channels[name]?.map Channel.contents).getD [] : List Metadata)

theorem coe_inbox (delivery : Delivery) (name : ChannelName) :
    (delivery.inbox name : Multiset Metadata) = delivery.contents name := rfl

theorem coe_outstanding (delivery : Delivery) :
    (delivery.outstanding : Multiset Metadata) = delivery.held + delivery.queued :=
  (Multiset.coe_add _ _).symm

/-- The ledger accounts for the difference between what is there before and what is there after.
-/
structure Balances (before : Delivery) (ledger : Ledger) (after : Delivery) : Prop where
  /-- What was on its way or came in is on its way, has met its outcome or was given up. -/
  outstanding :
    before.queued + before.held + ledger.resolved =
      ledger.noticed (fun _ => true) + after.queued + after.held + ledger.discarded
  /-- What was in a channel or entered it is there, with the receiver or lost with the receiver. -/
  contents (name : ChannelName) :
    before.contents name + ledger.entered name =
      ledger.drained name + after.contents name + ledger.lost name
  /-- No channel is ever forgotten. -/
  kept (name : ChannelName) : name ∈ before.channels → name ∈ after.channels
  /-- A record enters one channel, and one that was made. -/
  sent (notice : Notice) : notice ∈ ledger.notices → notice.outcome = .delivered →
    ∃ name ∈ after.channels, notice.channel = some name

namespace Balances

variable {before between after : Delivery} {first second : Ledger}

/-- Where nothing is noticed and the channels stay as they are, only the records on their way have
to be accounted for. -/
theorem of_channels {resolved discarded : Multiset Metadata}
    (channels : after.channels = before.channels)
    (outstanding :
      before.queued + before.held + resolved = after.queued + after.held + discarded) :
    before.Balances { resolved, discarded } after where
  outstanding := by
    rw [Ledger.noticed_of_nil rfl, zero_add]
    exact outstanding
  contents name := by
    rw [Ledger.entered, Ledger.noticed_of_nil rfl, Delivery.contents, Delivery.contents, channels,
      zero_add]
  kept name made := by rwa [channels]
  sent notice there := by cases there

/-- Where nothing is noticed and nobody sends or takes up anything, only the contents of channels
have to be accounted for. -/
theorem of_receivers {drained lost : ChannelName → Multiset Metadata}
    (queue : after.queue = before.queue) (workers : after.workers = before.workers)
    (kept : ∀ name, name ∈ before.channels → name ∈ after.channels)
    (contents : ∀ name,
      before.contents name = drained name + after.contents name + lost name) :
    before.Balances { drained, lost } after where
  outstanding := by
    rw [Ledger.noticed_of_nil rfl, queued, queued, held, held, queue, workers, zero_add]
  contents name := by
    rw [Ledger.entered, Ledger.noticed_of_nil rfl, add_zero]
    exact contents name
  kept := kept
  sent notice there := by cases there

theorem of_same (queue : after.queue = before.queue) (workers : after.workers = before.workers)
    (channels : after.channels = before.channels) : before.Balances {} after :=
  of_channels channels (by rw [queued, queued, held, held, queue, workers])

theorem refl (delivery : Delivery) : delivery.Balances {} delivery :=
  of_same rfl rfl rfl

/-- Ledgers add up. -/
theorem trans (one : before.Balances first between) (two : between.Balances second after) :
    before.Balances (first + second) after where
  outstanding := by
    simp only [Ledger.resolved_add, Ledger.noticed_add, Ledger.discarded_add]
    calc before.queued + before.held + (first.resolved + second.resolved)
        = (before.queued + before.held + first.resolved) + second.resolved := by abel
      _ = first.noticed (fun _ => true) + first.discarded +
            (between.queued + between.held + second.resolved) := by rw [one.outstanding]; abel
      _ = first.noticed (fun _ => true) + second.noticed (fun _ => true) + after.queued +
            after.held + (first.discarded + second.discarded) := by rw [two.outstanding]; abel
  contents name := by
    simp only [Ledger.entered_add, Ledger.drained_add, Ledger.lost_add]
    calc before.contents name + (first.entered name + second.entered name)
        = (before.contents name + first.entered name) + second.entered name := by abel
      _ = first.drained name + first.lost name +
            (between.contents name + second.entered name) := by rw [one.contents]; abel
      _ = first.drained name + second.drained name + after.contents name +
            (first.lost name + second.lost name) := by rw [two.contents]; abel
  kept name there := two.kept name (one.kept name there)
  sent notice there delivered := by
    rcases List.mem_append.1 there with early | late
    · obtain ⟨name, made, addressed⟩ := one.sent notice early delivered
      exact ⟨name, two.kept name made, addressed⟩
    · exact two.sent notice late delivered

end Balances

end Delivery

end Attribution
