import Attribution.Proofs.Delivery.Parcel
import Attribution.Proofs.Service.Effect
import Attribution.Proofs.Service.Observation

/-!
# From the store to the receivers

A record that an update resolves is posted to the channel that is registered at that moment. From
then on it is a parcel, and two laws say where it can be. Between the store and the channels
parcels are reported, on their way or given up, each with the address that it was posted with; and
a channel holds what entered it less what left it, in the order of entering. Both are laws of every
schedule, and one event at a time is enough to see them.
-/

namespace Attribution

namespace Delivery

variable {delivery : Delivery}

/-! ### What is done from outside -/

theorem parcels_withJob (job : Job) :
    (delivery.withJob job).parcels = delivery.parcels ++ job.parcels := by
  rw [parcels, parcels, withJob, List.flatMap_append, List.flatMap_singleton, List.append_assoc]

theorem turnedAway_ne_delivered : delivery.turnedAway ≠ .delivered := by
  rw [turnedAway]
  split <;> decide

namespace Tended

variable {action : Action} {after : Delivery}

/-- Who tends a delivery does not touch what is on its way; new workers have empty hands. -/
theorem parcels_eq (tended : delivery.Tended action after) (unmanned : delivery.Unmanned) :
    after.parcels = delivery.parcels := by
  cases tended with
  | start unstarted =>
    have idle : (Array.replicate delivery.limits.poolSize Worker.arriving).toList.flatMap
        Worker.parcels = [] := by
      rw [List.flatMap_eq_nil_iff, Array.toList_replicate]
      intro worker there
      rw [List.eq_of_mem_replicate there]
      rfl
    have nobody : delivery.workers.toList.flatMap Worker.parcels = [] := by
      rw [unmanned unstarted]
      rfl
    rw [parcels, parcels, nobody]
    exact congrArg (· ++ _) idle
  | _ => rfl

/-- Only a receiver takes something out of a channel. -/
theorem inbox_eq (tended : delivery.Tended action after)
    (no_drain : ∀ name limit, action ≠ .drain name limit) (no_close : ∀ name, action ≠ .close name)
    (name : ChannelName) : after.inbox name = delivery.inbox name := by
  cases tended with
  | @addChannel made new capacity =>
    rw [Delivery.addChannel, inbox_insert]
    split
    · rename_i same
      subst same
      rw [inbox, Std.ExtTreeMap.getElem?_eq_none new]
      rfl
    · rfl
  | @drain made channel found limit => exact absurd rfl (no_drain made limit)
  | @closeChannel made channel found => exact absurd rfl (no_close made)
  | _ => rfl

end Tended

end Delivery

namespace Service

variable {service : Service}

/-! ### What is seen of parcels -/

/-- The records that an event resolves, each for the channel that is registered at that moment. -/
def posts (service : Service) : Event → List Parcel
  | .action (.apply mode updates) =>
    match service.store with
    | some store => (store.apply mode updates).resolved.map (⟨service.registered, ·⟩)
    | none => []
  | _ => []

/-- The parcels that an event gives up. -/
def abandons (service : Service) : Event → List Parcel
  | .action .stopDelivery => service.delivery.parcels
  | _ => []

/-- The records that leave a channel by an event: handed over to the receiver, or gone with it. -/
def departs (name : ChannelName) (service : Service) : Event → List Metadata
  | .action (.drain drained limit) =>
    if drained = name then (service.perform (.drain drained limit)).answer.handedOver else []
  | .action (.close closed) => if closed = name then service.delivery.inbox closed else []
  | _ => []

theorem seesActions_posts : SeesActions posts :=
  ⟨fun _ _ => rfl, fun _ _ => rfl, fun _ _ => rfl⟩

theorem seesActions_departs (name : ChannelName) : SeesActions (departs name) :=
  ⟨fun _ _ => rfl, fun _ _ => rfl, fun _ _ => rfl⟩

/-- A parcel is posted by an update that resolves its record while its channel is registered. -/
theorem mem_posts {event : Event} {parcel : Parcel} :
    parcel ∈ service.posts event ↔
      ∃ mode updates store, event = .action (.apply mode updates) ∧ service.store = some store ∧
        parcel.channel = service.registered ∧
        parcel.record ∈ (store.apply mode updates).resolved := by
  constructor
  · intro posted
    unfold posts at posted
    split at posted
    · rename_i mode updates
      split at posted
      · rename_i store present
        obtain ⟨record, resolved, rfl⟩ := List.mem_map.1 posted
        exact ⟨mode, updates, store, rfl, present, rfl, resolved⟩
      · cases posted
    · cases posted
  · rintro ⟨mode, updates, store, rfl, present, addressed, resolved⟩
    simp only [posts, present, List.mem_map]
    exact ⟨parcel.record, resolved, Parcel.ext addressed.symm rfl⟩

theorem posts_of_no_update {action : Action}
    (no_update : ∀ mode updates, action ≠ .apply mode updates) :
    service.posts (.action action) = [] := by
  cases action with
  | apply mode updates => exact absurd rfl (no_update mode updates)
  | _ => rfl

theorem abandons_of_no_stop {action : Action} (no_stop : action ≠ .stopDelivery) :
    service.abandons (.action action) = [] := by
  cases action with
  | stopDelivery => exact absurd rfl no_stop
  | _ => rfl

/-- Without a store nothing is posted. -/
theorem observed_posts_eq_nil (absent : service.store = none) (schedule : List Event) :
    observed posts service schedule = [] := by
  refine observed_eq_nil (fun first event => ?_) schedule
  apply List.eq_nil_iff_forall_not_mem.2
  intro parcel posted
  obtain ⟨mode, updates, store, -, present, -⟩ := mem_posts.1 posted
  rw [store_follow_none absent first] at present
  cases present

/-- Nothing is given up unless the delivery is. -/
theorem observed_abandons_eq_nil {schedule : List Event}
    (no_stop : .action .stopDelivery ∉ schedule) : observed abandons service schedule = [] := by
  refine observed_eq_nil_of_mem fun service event there => ?_
  cases event with
  | action action =>
    apply abandons_of_no_stop
    rintro rfl
    exact no_stop there
  | _ => rfl

theorem departs_of_no_receiver {event : Event} {name : ChannelName}
    (no_drain : ∀ drained limit, event ≠ .action (.drain drained limit))
    (no_close : ∀ closed, event ≠ .action (.close closed)) :
    departs name service event = [] := by
  cases event with
  | action action =>
    cases action with
    | drain drained limit => exact absurd rfl (no_drain drained limit)
    | close closed => exact absurd rfl (no_close closed)
    | _ => rfl
  | _ => rfl

/-! ### Parcels on their way -/

/-- Resolved records are on their way or are reported, with the address that they have now. -/
theorem Dispatched.coe_parcels {resolved : List Metadata} {after : Delivery}
    {notices : List Notice} (dispatched : service.Dispatched resolved after notices) :
    ((resolved.map (⟨service.registered, ·⟩) : List Parcel) : Multiset Parcel) +
        service.delivery.parcels =
      (notices.map Notice.parcel : List Parcel) + after.parcels := by
  cases dispatched with
  | unaddressed none_meant =>
    rw [List.map_map]
    rcases none_meant with rfl | unregistered
    · rfl
    · rw [unregistered]
      rfl
  | @queued channel registered some_resolved place =>
    have whole : (resolved.map (⟨service.registered, ·⟩) : List Parcel) =
        Job.parcels ⟨channel, resolved⟩ := by
      rw [registered]
      rfl
    rw [whole, Delivery.parcels_withJob, ← Multiset.coe_add, List.map_nil, Multiset.coe_nil,
      zero_add, add_comm]
  | @turnedAway channel registered some_resolved no_place =>
    rw [registered, Job.map_parcel_notices]
    rfl

/-- What an event posts is reported or on its way after it, like what was on its way before, unless
it is given up. -/
theorem coe_parcels_occur (unmanned : service.delivery.Unmanned) (event : Event) :
    (service.posts event : Multiset Parcel) + service.delivery.parcels =
      ((service.occur event).notices.map Notice.parcel : List Parcel) +
        (service.occur event).service.delivery.parcels + service.abandons event := by
  have impact := impact_occur service event
  generalize (service.occur event).service.delivery = after at impact ⊢
  generalize (service.occur event).notices = notices at impact ⊢
  cases impact with
  | @fed store present mode updates _ _ dispatched =>
    have posted : service.posts (.action (.apply mode updates)) =
        (store.apply mode updates).resolved.map (⟨service.registered, ·⟩) := by
      simp only [posts, present]
    rw [posted, dispatched.coe_parcels]
    exact (add_zero _).symm
  | unheard absent mode updates =>
    have posted : service.posts (.action (.apply mode updates)) = [] := by
      simp only [posts, absent]
    rw [posted]
    exact (add_zero _).symm
  | stopped => rfl
  | tended no_update no_stop tended =>
    rw [posts_of_no_update no_update, abandons_of_no_stop no_stop, tended.parcels_eq unmanned]
    exact (add_zero _).symm
  | slept duration =>
    change 0 + _ = _ + _ + 0
    rw [zero_add, add_zero]
    exact Delivery.coe_parcels_proceeds (.advanceTo _ _)
  | moved possible =>
    change 0 + _ = _ + _ + 0
    rw [zero_add, add_zero]
    exact Delivery.coe_parcels_make (Delivery.possible_of_move? possible)
  | stuck impossible => exact (add_zero _).symm
  | ticked time => exact (add_zero _).symm

/-- Over a schedule parcels are posted, reported, on their way or given up, and nothing else becomes
of them. -/
theorem coe_parcels_follow (unmanned : service.delivery.Unmanned) (schedule : List Event) :
    (observed posts service schedule : Multiset Parcel) + service.delivery.parcels =
      ((service.notices schedule).map Notice.parcel : List Parcel) +
        (service.follow schedule).delivery.parcels + observed abandons service schedule := by
  induction schedule generalizing service with
  | nil => exact (add_zero _).symm
  | cons event more ih =>
    have one := coe_parcels_occur unmanned event
    have rest := ih ((change_occur event).unmanned unmanned)
    simp only [observed, notices, follow_cons, List.map_append, ← Multiset.coe_add]
    calc _ = (observed posts (service.occur event).service more : Multiset Parcel) +
            ((service.posts event : Multiset Parcel) + service.delivery.parcels) := by abel
      _ = ((service.occur event).notices.map Notice.parcel : List Parcel) +
            ((observed posts (service.occur event).service more : Multiset Parcel) +
              (service.occur event).service.delivery.parcels) + service.abandons event := by
          rw [one]
          abel
      _ = _ := by
          rw [rest]
          abel

/-! ### Records in channels -/

/-- What is handed on does not enter a channel at once. -/
theorem Dispatched.inbox_eq {resolved : List Metadata} {after : Delivery} {notices : List Notice}
    (dispatched : service.Dispatched resolved after notices) (name : ChannelName) :
    after.inbox name = service.delivery.inbox name ∧ entering name notices = [] := by
  cases dispatched with
  | unaddressed none_meant =>
    refine ⟨rfl, entering_eq_nil (fun notice there => ?_) name⟩
    obtain ⟨record, -, rfl⟩ := List.mem_map.1 there
    exact (by decide : Outcome.unregistered ≠ .delivered)
  | queued registered some_resolved place => exact ⟨rfl, rfl⟩
  | turnedAway registered some_resolved no_place =>
    refine ⟨rfl, entering_eq_nil (fun notice there => ?_) name⟩
    obtain ⟨record, -, rfl⟩ := List.mem_map.1 there
    exact Delivery.turnedAway_ne_delivered

/-- Without its receiver a channel changes only by what enters it. -/
theorem Impact.inbox_eq {event : Event} {after : Delivery} {notices : List Notice}
    (impact : service.Impact event after notices)
    (no_drain : ∀ drained limit, event ≠ .action (.drain drained limit))
    (no_close : ∀ closed, event ≠ .action (.close closed)) (name : ChannelName) :
    after.inbox name = service.delivery.inbox name ++ entering name notices := by
  cases impact with
  | fed present mode updates dispatched =>
    obtain ⟨same, nothing_enters⟩ := dispatched.inbox_eq name
    rw [same, nothing_enters, List.append_nil]
  | tended _ _ tended =>
    have same := tended.inbox_eq (fun drained limit same => no_drain drained limit (by rw [same]))
      (fun closed same => no_close closed (by rw [same])) name
    rw [same]
    exact (List.append_nil _).symm
  | slept duration => exact Delivery.inbox_proceeds (.advanceTo _ _) name
  | moved possible => exact Delivery.inbox_make (Delivery.possible_of_move? possible) name
  | _ => exact (List.append_nil _).symm

/-- The receiver takes the oldest records. -/
theorem inbox_drain (drained name : ChannelName) (limit : Option Nat) :
    let reaction := service.perform (.drain drained limit)
    service.delivery.inbox name ++ entering name reaction.notices =
      departs name service (.action (.drain drained limit)) ++
        reaction.service.delivery.inbox name := by
  intro reaction
  change _ = (if drained = name then reaction.answer.handedOver else []) ++ _
  rcases perform_drain service drained limit with ⟨refusal, refused⟩ | ⟨channel, found, taken⟩
  · -- a refusal hands over nothing, whichever channel one looks at
    simp only [reaction, refused, refuse, answering, Answer.handedOver, ite_self, List.nil_append]
    exact List.append_nil _
  · simp only [reaction, taken, Delivery.drain, Delivery.inbox_insert, Answer.handedOver]
    split
    · rename_i same
      subst same
      simp only [Delivery.inbox, found, Option.map_some, Option.getD_some, Channel.drop,
        List.take_append_drop]
      exact List.append_nil _
    · exact List.append_nil _

/-- What is in a channel is lost with its receiver. -/
theorem inbox_close (closed name : ChannelName) :
    let reaction := service.perform (.close closed)
    service.delivery.inbox name ++ entering name reaction.notices =
      departs name service (.action (.close closed)) ++ reaction.service.delivery.inbox name := by
  intro reaction
  change _ = (if closed = name then service.delivery.inbox closed else []) ++ _
  rcases perform_close service closed with ⟨unknown, refused⟩ | ⟨channel, found, taken⟩
  · have empty : service.delivery.inbox closed = [] := by
      rw [Delivery.inbox, unknown]
      rfl
    simp only [reaction, refused, empty, ite_self]
    exact List.append_nil _
  · simp only [reaction, taken, answering, Delivery.closeChannel, Delivery.inbox_insert,
      Channel.close]
    split
    · rename_i same
      subst same
      rfl
    · exact List.append_nil _

/-- What was in a channel or enters it has left it or is there, in the order of entering. -/
theorem inbox_occur (event : Event) (name : ChannelName) :
    service.delivery.inbox name ++ entering name (service.occur event).notices =
      departs name service event ++ (service.occur event).service.delivery.inbox name := by
  by_cases drain : ∃ drained limit, event = .action (.drain drained limit)
  · obtain ⟨drained, limit, rfl⟩ := drain
    exact inbox_drain drained name limit
  by_cases close : ∃ closed, event = .action (.close closed)
  · obtain ⟨closed, rfl⟩ := close
    exact inbox_close closed name
  have no_drain : ∀ drained limit, event ≠ .action (.drain drained limit) :=
    fun drained limit same => drain ⟨drained, limit, same⟩
  have no_close : ∀ closed, event ≠ .action (.close closed) :=
    fun closed same => close ⟨closed, same⟩
  rw [departs_of_no_receiver no_drain no_close,
    (impact_occur service event).inbox_eq no_drain no_close]
  rfl

theorem inbox_follow (schedule : List Event) (name : ChannelName) :
    service.delivery.inbox name ++ entering name (service.notices schedule) =
      observed (departs name) service schedule ++
        (service.follow schedule).delivery.inbox name := by
  induction schedule generalizing service with
  | nil => exact List.append_nil _
  | cons event more ih =>
    rw [notices, observed, follow_cons, entering_append, ← List.append_assoc, inbox_occur,
      List.append_assoc, ih, List.append_assoc]

end Service

end Attribution
