import Attribution.Proofs.Service.Effect

/-!
# No record gets lost

Of every record that an update ever resolved there is an account: it met one of the five outcomes
and was counted for it, or it is still on its way, or it was given up together with the delivery.
A record that was counted as delivered entered one channel, and there it is, unless it was taken
out or its receiver went. This holds at every point of every schedule, that is, whatever is done
to a service and whichever worker moves when.
-/

namespace Attribution

namespace Service

/-- All records are accounted for. -/
structure Conserved (service : Service) (ledger : Ledger) : Prop where
  resolved :
    ledger.resolved =
      ledger.met .unregistered + ledger.met .queueFull + ledger.met .closed + ledger.met .timeout +
        ledger.met .delivered + service.delivery.queued + service.delivery.held + ledger.discarded
  counted (outcome : Outcome) :
    service.counters.outcomes.count outcome = (ledger.met outcome).card
  delivered :
    ledger.met .delivered =
      ∑ name ∈ service.delivery.channels.keys.toFinset, ledger.entered name
  entered (name : ChannelName) :
    ledger.entered name =
      ledger.drained name + service.delivery.contents name + ledger.lost name

variable {service : Service}

theorem balances_follow (unmanned : service.delivery.Unmanned) (schedule : List Event) :
    service.delivery.Balances (service.ledger schedule) (service.follow schedule).delivery := by
  induction schedule generalizing service with
  | nil => exact .refl service.delivery
  | cons event more ih =>
    have change : service.delivery.Change _ _ := change_occur event
    exact (change.balances unmanned).trans (ih (change.unmanned unmanned))

/-- A ledger that balances what is there against nothing accounts for all records. -/
theorem conserved_of_balances {limits : Limits} {ledger : Ledger}
    (balances : ({ limits } : Delivery).Balances ledger service.delivery)
    (outcomes : service.counters.outcomes = ({} : Tally).addAll ledger.notices) :
    service.Conserved ledger where
  resolved := by
    have whole := balances.outstanding
    rw [Ledger.noticed_eq_met] at whole
    have nothing : ({ limits } : Delivery).queued + ({ limits } : Delivery).held = 0 := rfl
    rwa [nothing, zero_add] at whole
  counted outcome := by
    rw [outcomes, Tally.count_addAll, Ledger.card_met]
    cases outcome <;> exact Nat.zero_add _
  delivered := by
    refine (Ledger.sum_entered fun notice there delivered => ?_).symm
    obtain ⟨name, made, addressed⟩ := balances.sent notice there delivered
    exact ⟨name, List.mem_toFinset.2 (Std.ExtTreeMap.mem_keys.2 made), addressed⟩
  entered name := by
    have whole := balances.contents name
    have nothing : ({ limits } : Delivery).contents name = 0 := by
      simp [Delivery.contents]
    rwa [nothing, zero_add] at whole

/-- Whatever is done to a service and in whatever order the workers move, all records are
accounted for; and what is done one action after the other, as in a run, is among this. -/
theorem conserved_follow (limits : Limits) (instrumented : Bool) :
    (∀ schedule : List Event,
      ((fresh limits instrumented).follow schedule).Conserved
        ((fresh limits instrumented).ledger schedule)) ∧
    ∀ actions : List Action, ∃ schedule : List Event,
      schedule.filterMap Event.action? = actions ∧
        (fresh limits instrumented).follow schedule = (fresh limits instrumented).run actions := by
  refine ⟨fun schedule => ?_, exists_schedule _⟩
  have unmanned : (fresh limits instrumented).delivery.Unmanned := fun _ => rfl
  exact conserved_of_balances (balances_follow unmanned schedule) (outcomes_follow schedule)

end Service

end Attribution
