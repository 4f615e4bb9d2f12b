import Attribution.Proofs.Delivery.Room
import Attribution.Proofs.Service.Drainage

/-!
# When everything arrives

A delivery whose channel has room for all that is on its way needs no time to work it off, and loses
nothing. As long as nobody interferes, so that nothing is added, given up or taken out, each report
is an arrival; and when the store is gone and the workers are at rest the delivery is over, with all
that was on its way in the channel. A single worker keeps the order.
-/

namespace Attribution

namespace Action

/-- The action hands records over to the delivery, gives them up or takes them out of a channel. -/
def interferes : Action → Bool
  | .apply _ _ | .stopDelivery | .drain _ _ | .close _ => true
  | _ => false

end Action

/-- Nobody interferes with the delivery in the course of a schedule. -/
def Calm (schedule : List Event) : Prop :=
  ∀ action ∈ schedule.filterMap Event.action?, action.interferes = false

theorem Calm.no_stop {schedule : List Event} (calm : Calm schedule) :
    .action .stopDelivery ∉ schedule := by
  intro there
  cases calm _ (mem_filterMap_action?.2 there)

namespace Delivery

variable {delivery : Delivery} {name : ChannelName}

theorem Roomy.tended {action : Action} {after : Delivery} (h : delivery.Roomy name)
    (tended : delivery.Tended action after) (unmanned : delivery.Unmanned)
    (calm : action.interferes = false) : after.Roomy name := by
  have parcels := tended.parcels_eq unmanned
  have outstanding : after.outstanding = delivery.outstanding := by
    rw [← map_record_parcels, ← map_record_parcels, parcels]
  obtain ⟨channel, found, opened, enough⟩ := h.room
  refine ⟨⟨channel, ?_, opened, by rwa [outstanding]⟩, by rw [parcels]; exact h.addressed⟩
  cases tended with
  | @addChannel made new capacity =>
    have different : made ≠ name := by
      rintro rfl
      exact new (Std.ExtTreeMap.mem_iff_isSome_getElem?.2 (by rw [found]; rfl))
    rw [Delivery.addChannel, Std.ExtTreeMap.getElem?_insert, if_neg (by simpa using different),
      found]
  | drain => cases calm
  | closeChannel => cases calm
  | _ => exact found

end Delivery

namespace Service

variable {service : Service} {name : ChannelName}

theorem calm_cons {event : Event} {more : List Event} :
    Calm (event :: more) ↔
      (∀ action, event = .action action → action.interferes = false) ∧ Calm more := by
  cases event <;> simp [Calm, Event.action?]

/-- As long as nobody interferes records only arrive. -/
theorem Impact.roomy {event : Event} {after : Delivery} {notices : List Notice}
    (impact : service.Impact event after notices)
    (calm : ∀ action, event = .action action → action.interferes = false)
    (unmanned : service.delivery.Unmanned) (h : service.delivery.Roomy name) :
    (∀ notice ∈ notices, notice.IsArrival name) ∧ after.Roomy name := by
  have nothing : ∀ notice ∈ ([] : List Notice), notice.IsArrival name :=
    fun notice there => absurd there List.not_mem_nil
  cases impact with
  | fed => cases calm _ rfl
  | stopped => cases calm _ rfl
  | unheard => exact ⟨nothing, h⟩
  | @tended action after no_update no_stop tended =>
    exact ⟨nothing, h.tended tended unmanned (calm action rfl)⟩
  | slept duration => exact h.proceeds (.advanceTo _ _)
  | moved possible =>
    have possible := Delivery.possible_of_move? possible
    exact ⟨h.isArrival_of_possible possible, h.make possible⟩
  | stuck => exact ⟨nothing, h⟩
  | ticked time => exact ⟨nothing, h.setClock time⟩

theorem roomy_follow {schedule : List Event} (calm : Calm schedule)
    (unmanned : service.delivery.Unmanned) (h : service.delivery.Roomy name) :
    (∀ notice ∈ service.notices schedule, notice.IsArrival name) ∧
      (service.follow schedule).delivery.Roomy name := by
  induction schedule generalizing service with
  | nil => exact ⟨fun notice there => absurd there List.not_mem_nil, h⟩
  | cons event more ih =>
    obtain ⟨first, later⟩ := calm_cons.1 calm
    obtain ⟨now, roomy⟩ := (impact_occur service event).roomy first unmanned h
    obtain ⟨afterwards, at_end⟩ := ih later ((change_occur event).unmanned unmanned) roomy
    exact ⟨fun notice there => (List.mem_append.1 there).elim (now notice) (afterwards notice),
      at_end⟩

/-! ### A single worker -/

theorem Impact.parcels_of_alone {event : Event} {after : Delivery} {notices : List Notice}
    (impact : service.Impact event after notices)
    (calm : ∀ action, event = .action action → action.interferes = false)
    (unmanned : service.delivery.Unmanned) (alone : service.delivery.workers.size ≤ 1) :
    service.delivery.parcels = notices.map Notice.parcel ++ after.parcels := by
  cases impact with
  | fed => cases calm _ rfl
  | stopped => cases calm _ rfl
  | tended _ _ tended => exact (tended.parcels_eq unmanned).symm
  | slept duration => exact Delivery.parcels_proceeds_of_alone alone (.advanceTo _ _)
  | moved possible =>
    exact Delivery.parcels_make_of_alone alone (Delivery.possible_of_move? possible)
  | _ => rfl

/-- What is on its way to begin with is reported in order, and then what is left of it. -/
theorem parcels_follow_of_alone {limits : Limits} (alone : limits.workers ≤ 1)
    {schedule : List Event} (calm : Calm schedule) (h : service.Orderly limits) :
    service.delivery.parcels =
      (service.notices schedule).map Notice.parcel ++
        (service.follow schedule).delivery.parcels := by
  induction schedule generalizing service with
  | nil => rfl
  | cons event more ih =>
    obtain ⟨first, later⟩ := calm_cons.1 calm
    have one := (impact_occur service event).parcels_of_alone first h.delivery.isUnmanned
      (h.delivery.size_le_one alone)
    have rest := ih later (h.follow [event])
    rw [follow_cons, follow_nil] at rest
    rw [one, rest, notices, List.map_append, List.append_assoc, follow_cons]

/-! ### Without interference -/

theorem observed_posts_of_calm {schedule : List Event} (calm : Calm schedule) :
    observed posts service schedule = [] := by
  refine observed_eq_nil_of_mem fun service event there => ?_
  cases event with
  | action action =>
    apply posts_of_no_update
    rintro mode updates rfl
    cases calm _ (mem_filterMap_action?.2 there)
  | _ => rfl

theorem observed_departs_of_calm {schedule : List Event} (calm : Calm schedule) :
    observed (departs name) service schedule = [] := by
  refine observed_eq_nil_of_mem fun service event there => ?_
  apply departs_of_no_receiver
  · rintro drained limit rfl
    cases calm _ (mem_filterMap_action?.2 there)
  · rintro closed rfl
    cases calm _ (mem_filterMap_action?.2 there)

/-- The delivery is over, and all that was on its way is in the channel, behind what was there; in
order, if there is but one worker. -/
structure Arrives (service : Service) (name : ChannelName) (limits : Limits) (after : Service) :
    Prop where
  completed : after.delivery.completed? = some true
  perm : (after.delivery.inbox name).Perm
    (service.delivery.inbox name ++ service.delivery.outstanding)
  order : limits.workers ≤ 1 →
    after.delivery.inbox name = service.delivery.inbox name ++ service.delivery.outstanding

/-- Where there is room for everything, everything arrives. -/
theorem arrives_follow {limits : Limits} (h : service.Orderly limits)
    (roomy : service.delivery.Roomy name) {schedule : List Event} (calm : Calm schedule)
    (dropped : (service.follow schedule).store = none)
    (running : (service.follow schedule).delivery.phase = .running)
    (settled : (service.follow schedule).delivery.Settled) :
    service.Arrives name limits (service.follow schedule) := by
  have unmanned := h.delivery.isUnmanned
  have orderly := h.follow schedule
  obtain ⟨arrivals, roomy_after⟩ := roomy_follow calm unmanned roomy
  have nothing := roomy_after.outstanding_eq_nil orderly.delivery running settled
  have exhausted := orderly.exhausted_of_outstanding dropped running settled nothing
  have no_parcels : (service.follow schedule).delivery.parcels = [] := by
    apply List.eq_nil_of_length_eq_zero
    rw [Delivery.length_parcels, nothing]
    rfl
  have received : (service.follow schedule).delivery.inbox name =
      service.delivery.inbox name ++ (service.notices schedule).map Notice.record := by
    have law : service.delivery.inbox name ++ _ = _ := inbox_follow schedule name
    rw [observed_departs_of_calm calm, List.nil_append, entering_of_arrivals arrivals] at law
    exact law.symm
  have records : (service.notices schedule).map Notice.record =
      ((service.notices schedule).map Notice.parcel).map Parcel.record := by
    rw [List.map_map]
    rfl
  refine ⟨exhausted.completed orderly running settled, ?_, fun alone => ?_⟩
  · have law := coe_parcels_follow unmanned schedule
    rw [observed_posts_of_calm calm, observed_abandons_eq_nil calm.no_stop, no_parcels,
      Multiset.coe_nil, zero_add, add_zero, add_zero, Multiset.coe_eq_coe] at law
    rw [received, ← Delivery.map_record_parcels, records]
    exact (law.symm.map Parcel.record).append_left _
  · have law := parcels_follow_of_alone alone calm h
    rw [no_parcels, List.append_nil] at law
    rw [received, ← Delivery.map_record_parcels, records, law]

end Service

end Attribution
