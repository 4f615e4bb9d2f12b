import Attribution.Proofs.Service.Impact

/-!
# What an event does to records

Each event writes to the ledger: what an update resolves, what became of records, and what is
given up, handed over or lost with a receiver. `change_perform` says for every action what it can
do to the delivery, and that this is what it writes; nothing else is known about actions where
the ledger is concerned.
-/

namespace Attribution

namespace Answer

/-- The records that an answer hands over. -/
def handedOver : Answer → List Metadata
  | .records given => given
  | _ => []

end Answer

theorem Counters.outcomes_applied (counters : Counters) (mode : Mode) (purged : Nat) :
    (counters.applied mode purged).outcomes = counters.outcomes := by
  cases mode <;> rfl

namespace Service

/-! ### The ledger of a schedule -/

/-- The records that an event resolves. -/
def resolves (service : Service) : Event → Multiset Metadata
  | .action (.apply mode updates) =>
    match service.store with
    | some store => (store.apply mode updates).resolved
    | none => 0
  | _ => 0

/-- The records that are given up by an event. -/
def discards (service : Service) : Event → Multiset Metadata
  | .action .stopDelivery => service.delivery.outstanding
  | _ => 0

/-- The records of a channel that an event hands over to its receiver. -/
def drains (service : Service) (event : Event) (name : ChannelName) : Multiset Metadata :=
  match event with
  | .action (.drain drained limit) =>
    if drained = name then (service.perform (.drain drained limit)).answer.handedOver else 0
  | _ => 0

/-- The records of a channel that go with its receiver. -/
def loses (service : Service) (event : Event) (name : ChannelName) : Multiset Metadata :=
  match event with
  | .action (.close closed) => if closed = name then service.delivery.contents closed else 0
  | _ => 0

/-- What an event says to the ledger. -/
def entry (service : Service) (event : Event) : Ledger where
  resolved := service.resolves event
  notices := (service.occur event).notices
  discarded := service.discards event
  drained := service.drains event
  lost := service.loses event

/-- The ledger of a schedule. -/
def ledger (service : Service) : List Event → Ledger
  | [] => {}
  | event :: more => service.entry event + (service.occur event).service.ledger more

theorem notices_ledger (service : Service) (schedule : List Event) :
    (service.ledger schedule).notices = service.notices schedule := by
  induction schedule generalizing service with
  | nil => rfl
  | cons event more ih =>
    rw [ledger, Ledger.notices_add, ih, notices]
    rfl

/-! ### One event -/

variable {service : Service}

/-- What an update resolves is queued, unless it is turned away. -/
theorem change_dispatch (resolved : List Metadata) :
    service.delivery.Change { resolved := resolved, notices := (service.dispatch resolved).2 }
      (service.dispatch resolved).1 := by
  rw [dispatch]
  split
  · rename_i empty
    subst empty
    exact .nothing
  · split
    · rename_i channel _
      exact .enqueue ⟨channel, resolved⟩
    · exact .turnAway resolved

theorem change_apply (mode : Mode) (updates : List Update) :
    service.delivery.Change (service.entry (.action (.apply mode updates)))
      (service.perform (.apply mode updates)).service.delivery := by
  cases present : service.store with
  | none =>
    simp only [entry, resolves, occur, perform, withStore, present]
    exact .nothing
  | some store =>
    simp only [entry, resolves, occur, perform, withStore, present]
    exact change_dispatch (store.apply mode updates).resolved

theorem change_close (name : ChannelName) :
    service.delivery.Change (service.entry (.action (.close name)))
      (service.perform (.close name)).service.delivery := by
  rcases perform_close service name with ⟨unknown, refused⟩ | ⟨channel, found, closed⟩
  · have empty : service.delivery.contents name = 0 := by
      rw [Delivery.contents, unknown]
      rfl
    have nowhere : service.loses (.action (.close name)) = fun _ => 0 := by
      funext other
      simp only [loses, empty, ite_self]
    simp only [entry, nowhere, occur, refused]
    exact .nothing
  · simp only [entry, occur, closed]
    exact .closeChannel found

theorem change_drain (name : ChannelName) (limit : Option Nat) :
    service.delivery.Change (service.entry (.action (.drain name limit)))
      (service.perform (.drain name limit)).service.delivery := by
  have given (other : ChannelName) : service.drains (.action (.drain name limit)) other =
      if name = other then
        ((service.perform (.drain name limit)).answer.handedOver : Multiset Metadata) else 0 := rfl
  rcases perform_drain service name limit with ⟨refusal, refused⟩ | ⟨channel, found, drained⟩
  · -- a refusal hands over nothing, whichever channel one looks at
    have nowhere : service.drains (.action (.drain name limit)) = fun _ => 0 := by
      funext other
      rw [given, refused]
      exact ite_self _
    simp only [entry, nowhere, occur, refused]
    exact .nothing
  · simp only [entry, funext given, occur, drained]
    exact .drain found limit

/-- Who tends a delivery tells the ledger nothing, unless it is a receiver. -/
theorem change_tended {action : Action} {after : Delivery}
    (tended : service.delivery.Tended action after)
    (no_drain : ∀ name limit, action ≠ .drain name limit)
    (no_close : ∀ name, action ≠ .close name) : service.delivery.Change {} after := by
  cases tended with
  | nothing => exact .nothing
  | start unstarted => exact .start unstarted
  | closeIntake => exact .closeIntake
  | addChannel new capacity => exact .addChannel new capacity
  | @drain name channel found limit => exact absurd rfl (no_drain name limit)
  | @closeChannel name channel found => exact absurd rfl (no_close name)

/-- An action of a kind that resolves, discards, drains and loses nothing says to the ledger what is
in its notices. -/
theorem entry_of_quiet {action : Action}
    (no_update : ∀ mode updates, action ≠ .apply mode updates) (no_stop : action ≠ .stopDelivery)
    (no_drain : ∀ name limit, action ≠ .drain name limit)
    (no_close : ∀ name, action ≠ .close name) :
    service.entry (.action action) = { notices := (service.perform action).notices } := by
  cases action with
  | apply mode updates => exact absurd rfl (no_update mode updates)
  | stopDelivery => exact absurd rfl no_stop
  | drain name limit => exact absurd rfl (no_drain name limit)
  | close name => exact absurd rfl (no_close name)
  | _ => rfl

/-- What an action does to the delivery is what it says to the ledger. -/
theorem change_perform (action : Action) :
    service.delivery.Change (service.entry (.action action))
      (service.perform action).service.delivery := by
  by_cases drain : ∃ name limit, action = .drain name limit
  · obtain ⟨name, limit, rfl⟩ := drain
    exact change_drain name limit
  by_cases close : ∃ name, action = .close name
  · obtain ⟨name, rfl⟩ := close
    exact change_close name
  have no_drain : ∀ name limit, action ≠ .drain name limit :=
    fun name limit same => drain ⟨name, limit, same⟩
  have no_close : ∀ name, action ≠ .close name := fun name same => close ⟨name, same⟩
  have impact := impact_perform service action
  generalize performed : (service.perform action).service.delivery = after at impact ⊢
  generalize noticed : (service.perform action).notices = notices at impact
  cases impact with
  | fed present mode updates =>
    have fed : service.delivery.Change _ _ := change_apply mode updates
    rwa [performed] at fed
  | unheard absent mode updates =>
    have unheard : service.delivery.Change _ _ := change_apply mode updates
    rwa [performed] at unheard
  | stopped => exact .stop
  | tended no_update no_stop tended =>
    rw [entry_of_quiet no_update no_stop no_drain no_close, noticed]
    exact change_tended tended no_drain no_close
  | slept duration => exact .proceed (.advanceTo _ _)

theorem change_occur (event : Event) :
    service.delivery.Change (service.entry event) (service.occur event).service.delivery := by
  cases event with
  | action action => exact change_perform action
  | move worker =>
    simp only [entry, occur]
    split
    · rename_i move possible
      have moved := Delivery.Proceeds.move possible (.rest _)
      rw [List.append_nil] at moved
      exact .proceed moved
    · exact .nothing
  | tick time => exact .proceed (.tick time (.rest _))

/-! ### What actions leave alone -/

section Apart

variable {α : Type} {field : Service → α}

/-- What the field says has nothing to do with the store, the registered channel, the delivery and
readiness. -/
def IsApart (field : Service → α) : Prop :=
  ∀ (service : Service) (store : Option Store) (registered : Option ChannelName)
    (delivery : Delivery) (ready : Bool),
    field { service with store, registered, delivery, ready } = field service

/-- The reaction leaves the field as it is. -/
def Keeps (service : Service) (field : Service → α) (reaction : Reaction) : Prop :=
  field reaction.service = field service

theorem keeps_withStore {use : Store → Reaction}
    (used : ∀ store, service.Keeps field (use store)) :
    service.Keeps field (service.withStore use) := by
  rw [withStore]
  split
  · exact used _
  · rfl

theorem keeps_withMetrics (use : List OpenMetrics.Family → Answer) :
    service.Keeps field (service.withMetrics use) := by
  rw [withMetrics]
  split <;> rfl

theorem keeps_respond (method target : String) :
    service.Keeps field (service.respond method target) := by
  rw [respond]
  split
  · rfl
  · exact keeps_withMetrics _

theorem keeps_register (apart : IsApart field) (name : ChannelName) (capacity : Option Nat) :
    service.Keeps field (service.register name capacity) := by
  unfold register
  split
  · exact apart service _ _ _ _
  · split
    · rfl
    · rfl
    · split
      · exact apart service _ _ _ _
      · rfl

theorem keeps_drain (apart : IsApart field) (name : ChannelName) (limit : Option Nat) :
    service.Keeps field (service.perform (.drain name limit)) := by
  rcases perform_drain service name limit with ⟨refusal, refused⟩ | ⟨channel, -, drained⟩
  · rw [refused]
    rfl
  · rw [drained]
    exact apart service _ _ _ _

theorem keeps_close (apart : IsApart field) (name : ChannelName) :
    service.Keeps field (service.perform (.close name)) := by
  rcases perform_close service name with ⟨-, refused⟩ | ⟨channel, -, closed⟩
  · rw [refused]
    rfl
  · rw [closed]
    exact apart service _ _ _ _

theorem keeps_start (apart : IsApart field) :
    service.Keeps field (service.perform .startDelivery) := by
  rw [perform]
  split
  · exact apart service _ _ _ _
  · rfl

/-- No action but an update changes what is apart from all that actions are about. -/
theorem keeps_perform (apart : IsApart field) {action : Action}
    (no_update : ∀ mode updates, action ≠ .apply mode updates) :
    service.Keeps field (service.perform action) := by
  cases action with
  | apply mode updates => exact absurd rfl (no_update mode updates)
  | lookup endpoint => exact keeps_withStore fun _ => rfl
  | container id => exact keeps_withStore fun _ => rfl
  | want id => exact keeps_withStore fun _ => apart service _ _ _ _
  | register name capacity => exact keeps_withStore fun _ => keeps_register apart name capacity
  | unregister => exact keeps_withStore fun _ => apart service _ _ _ _
  | close name => exact keeps_close apart name
  | drain name limit => exact keeps_drain apart name limit
  | startDelivery => exact keeps_start apart
  | stopDelivery => exact apart service _ _ _ _
  | completion => rfl
  | sleep duration => exact apart service _ _ _ _
  | dropStore => exact keeps_withStore fun _ => apart service _ _ _ _
  | metrics => exact keeps_withMetrics _
  | samples => exact keeps_withMetrics _
  | setReady value => exact apart service _ _ _ _
  | request method target => exact keeps_respond method target

end Apart

/-! ### Counters -/

/-- A reaction as such counts nothing. -/
def KeepsCounters (service : Service) (reaction : Reaction) : Prop :=
  reaction.service.counters = service.counters

/-- Apart from updates an action by itself counts nothing; outcomes are counted by the notices. -/
theorem keepsCounters_perform {action : Action}
    (no_update : ∀ mode updates, action ≠ .apply mode updates) :
    service.KeepsCounters (service.perform action) :=
  keeps_perform (fun _ _ _ _ _ => rfl) no_update

/-- An update is counted, unless the store is gone. -/
theorem counters_perform_apply (mode : Mode) (updates : List Update) :
    (service.perform (.apply mode updates)).service.counters =
      match service.store with
      | some store => service.counters.applied mode (store.apply mode updates).purged
      | none => service.counters := by
  cases present : service.store with
  | none =>
    simp only [perform, withStore, present]
    rfl
  | some store =>
    simp only [perform, withStore, present]
    rfl

/-- An action by itself counts no outcomes. -/
theorem outcomes_perform (action : Action) :
    (service.perform action).service.counters.outcomes = service.counters.outcomes := by
  by_cases update : ∃ mode updates, action = .apply mode updates
  · obtain ⟨mode, updates, rfl⟩ := update
    rw [counters_perform_apply]
    split
    · exact Counters.outcomes_applied _ mode _
    · rfl
  · have no_update : ∀ mode updates, action ≠ .apply mode updates :=
      fun mode updates same => update ⟨mode, updates, same⟩
    exact congrArg Counters.outcomes (keepsCounters_perform no_update)

theorem outcomes_occur (event : Event) :
    (service.occur event).service.counters.outcomes =
      service.counters.outcomes.addAll (service.entry event).notices := by
  cases event with
  | action action =>
    change (service.perform action).service.counters.outcomes.addAll _ = _
    rw [outcomes_perform]
    rfl
  | move worker =>
    simp only [entry, occur]
    split <;> rfl
  | tick time => rfl

theorem outcomes_follow (schedule : List Event) :
    (service.follow schedule).counters.outcomes =
      service.counters.outcomes.addAll (service.ledger schedule).notices := by
  induction schedule generalizing service with
  | nil => rfl
  | cons event more ih =>
    rw [follow_cons, ih, outcomes_occur, ledger, Ledger.notices_add, Tally.addAll, Tally.addAll,
      Tally.addAll, List.foldl_append]

end Service

end Attribution
