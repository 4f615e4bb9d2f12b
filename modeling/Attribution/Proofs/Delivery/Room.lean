import Attribution.Proofs.Delivery.Pace

/-!
# Room for everything

Where a channel has room for all that is on its way, and everything is on its way to it, no record
waits: those that are served before it are on their way as well, so they leave a place for it. Every
record that leaves takes its place with it, so this stays so, and all reports are of success. At
rest nothing is left.

A delivery with one worker reports records in the order in which they are on their way, those in
hand before those in the queue.
-/

namespace Attribution

/-- Elements that each contribute to a list are fewer than what it has, if another one contributes
as well. -/
theorem countP_lt_length_flatMap {α β : Type} {p : α → Bool} {f : α → List β} {xs : List α} {x : α}
    (some_each : ∀ y ∈ xs, p y = true → f y ≠ []) (there : x ∈ xs) (other : p x = false)
    (some_too : f x ≠ []) : xs.countP p < (xs.flatMap f).length := by
  have le (ys : List α) (among : ∀ y ∈ ys, p y = true → f y ≠ []) :
      ys.countP p ≤ (ys.flatMap f).length := by
    induction ys with
    | nil => exact Nat.le_refl 0
    | cons y more ih =>
      have rest := ih fun z listed => among z (List.mem_cons_of_mem y listed)
      rw [List.countP_cons, List.flatMap_cons, List.length_append]
      split
      · rename_i counts
        have one := List.length_pos_iff.2 (among y List.mem_cons_self counts)
        omega
      · omega
  obtain ⟨before, after, rfl⟩ := List.append_of_mem there
  have first := le before fun y listed => some_each y (List.mem_append_left _ listed)
  have second := le after fun y listed =>
    some_each y (List.mem_append_right before (List.mem_cons_of_mem x listed))
  have one := List.length_pos_iff.2 some_too
  simp only [List.countP_append, List.countP_cons, other, List.flatMap_append, List.flatMap_cons,
    List.length_append]
  simp only [Bool.false_eq_true, ↓reduceIte]
  omega

/-- The notice says that a record has entered the channel. -/
def Notice.IsArrival (name : ChannelName) (notice : Notice) : Prop :=
  notice.outcome = .delivered ∧ notice.channel = some name

theorem entering_of_arrivals {name : ChannelName} {notices : List Notice}
    (arrived : ∀ notice ∈ notices, notice.IsArrival name) :
    entering name notices = notices.map Notice.record := by
  have all : (notices.filter fun notice =>
      notice.outcome = .delivered ∧ notice.channel = some name) = notices :=
    List.filter_eq_self.2 fun notice there => decide_eq_true_iff.2 (arrived notice there)
  rw [entering, all]

namespace Delivery

variable {delivery : Delivery}

/-- Those who are served before somebody have a record each, and so has this one. -/
theorem ahead_lt_length_outstanding {current : Sending}
    (there : .sending current ∈ delivery.workers) :
    delivery.ahead current < delivery.outstanding.length := by
  have held : delivery.ahead current <
      (delivery.workers.toList.flatMap Worker.outstanding).length := by
    rw [ahead, ← Array.countP_toList]
    refine countP_lt_length_flatMap ?_ (Array.mem_toList_iff.2 there) ?_ (List.cons_ne_nil _ _)
    · intro worker _ before
      obtain ⟨earlier, rfl, -⟩ := Worker.sendsBefore_eq_true_iff.1 before
      exact List.cons_ne_nil _ _
    · simp [Worker.sendsBefore]
  rw [outstanding, List.length_append]
  omega

/-- Everything that is on its way is for the channel, which is open and has room for it. -/
structure Roomy (delivery : Delivery) (name : ChannelName) : Prop where
  room : ∃ channel, delivery.channels[name]? = some channel ∧ channel.isOpen = true ∧
    delivery.outstanding.length ≤ channel.room
  addressed : ∀ parcel ∈ delivery.parcels, parcel.channel = some name

namespace Roomy

variable {name : ChannelName} {i : Nat} {move : Move} {current : Sending}

theorem channel_eq (h : delivery.Roomy name) (there : .sending current ∈ delivery.workers) :
    current.channel = name := by
  have in_hand : Parcel.addressed current.channel current.record ∈ delivery.parcels := by
    refine List.mem_append_left _ (List.mem_flatMap.2 ⟨_, Array.mem_toList_iff.2 there, ?_⟩)
    exact List.mem_cons_self
  exact Option.some.inj (h.addressed _ in_hand)

/-- No record has to wait. -/
theorem outcome?_eq (h : delivery.Roomy name) (there : .sending current ∈ delivery.workers) :
    delivery.outcome? current = some .delivered := by
  obtain ⟨channel, found, opened, enough⟩ := h.room
  have place := ahead_lt_length_outstanding there
  have served : delivery.ahead current < channel.room := by omega
  simp only [outcome?, h.channel_eq there, found, opened, served, Bool.not_true,
    Bool.false_eq_true, ↓reduceIte]

theorem isArrival_of_possible (h : delivery.Roomy name) (possible : delivery.Possible i move) :
    ∀ notice ∈ move.notice?.toList, notice.IsArrival name := by
  cases possible with
  | @conclude current outcome at_i met =>
    have there := Array.mem_of_getElem? at_i
    rw [h.outcome?_eq there] at met
    cases met
    intro notice listed
    cases List.mem_singleton.1 listed
    exact ⟨rfl, congrArg some (h.channel_eq there)⟩
  | _ => exact fun notice listed => absurd listed List.not_mem_nil

/-- A record that enters the channel is on its way no more. -/
theorem make (h : delivery.Roomy name) (possible : delivery.Possible i move) :
    (delivery.make i move).Roomy name := by
  have arrivals := h.isArrival_of_possible possible
  have whole := length_outstanding_make possible
  obtain ⟨channel, found, opened, enough⟩ := h.room
  refine ⟨?_, fun parcel there => h.addressed parcel ?_⟩
  · rw [channels_make]
    split
    · rename_i current
      have to_name : current.channel = name := Option.some.inj (arrivals _ List.mem_cons_self).2
      refine ⟨channel.send current.record, ?_, opened, ?_⟩
      · rw [getElem?_channels_deposit, if_pos to_name, to_name, found]
        rfl
      · simp only [Move.notice?, Option.toList_some, List.length_singleton] at whole
        simp only [Channel.room, Channel.send, List.length_append, List.length_singleton]
          at enough ⊢
        omega
    · exact ⟨channel, found, opened, by omega⟩
  · change parcel ∈ (delivery.parcels : Multiset Parcel)
    rw [coe_parcels_make possible, Multiset.mem_add]
    exact .inr there

theorem setClock (h : delivery.Roomy name) (time : Nat) : (delivery.setClock time).Roomy name :=
  ⟨h.room, h.addressed⟩

theorem proceeds {after : Delivery} {notices : List Notice} (h : delivery.Roomy name)
    (by_itself : delivery.Proceeds notices after) :
    (∀ notice ∈ notices, notice.IsArrival name) ∧ after.Roomy name := by
  induction by_itself with
  | rest => exact ⟨fun notice there => absurd there List.not_mem_nil, h⟩
  | move possible _ ih =>
    have now := h.isArrival_of_possible (possible_of_move? possible)
    obtain ⟨later, roomy⟩ := ih (h.make (possible_of_move? possible))
    exact ⟨fun notice there => (List.mem_append.1 there).elim (now notice) (later notice), roomy⟩
  | tick time _ ih => exact ih (h.setClock time)

/-- At rest nothing is on its way any more. -/
theorem outstanding_eq_nil {limits : Limits} (h : delivery.Roomy name)
    (orderly : delivery.Orderly limits) (running : delivery.phase = .running)
    (settled : delivery.Settled) : delivery.outstanding = [] := by
  by_contra left
  obtain ⟨current, there⟩ := exists_sending orderly running settled left
  have waits := settled.outcome?_eq_none there
  rw [h.outcome?_eq there] at waits
  cases waits

end Roomy

/-! ### A single worker -/

theorem parcels_make_of_alone (alone : delivery.workers.size ≤ 1) {i : Nat} {move : Move}
    (possible : delivery.Possible i move) :
    delivery.parcels =
      move.notice?.toList.map Notice.parcel ++ (delivery.make i move).parcels := by
  obtain ⟨before, at_i, hand, queue⟩ := possible.exists_worker
  obtain ⟨inside, -⟩ := Array.getElem?_eq_some_iff.1 at_i
  obtain ⟨worker, only⟩ : ∃ worker, delivery.workers = #[worker] :=
    Array.size_eq_one_iff.1 (by omega)
  obtain rfl : i = 0 := by omega
  obtain rfl : worker = before := by simpa [only] using at_i
  have hands : delivery.workers.toList.flatMap Worker.parcels = worker.parcels := by
    rw [only]
    exact List.flatMap_singleton ..
  have hands_after : (delivery.make 0 move).workers.toList.flatMap Worker.parcels =
      (delivery.afterMove move).parcels := by
    rw [workers_make, only]
    exact List.flatMap_singleton ..
  rw [parcels, parcels, hands, hands_after, queue, List.flatMap_append, ← List.append_assoc, hand,
    List.append_assoc]

/-- With a single worker what is on its way is reported in order. -/
theorem parcels_proceeds_of_alone (alone : delivery.workers.size ≤ 1) {after : Delivery}
    {notices : List Notice} (by_itself : delivery.Proceeds notices after) :
    delivery.parcels = notices.map Notice.parcel ++ after.parcels := by
  induction by_itself with
  | rest => rfl
  | @move delivery _ i move _ possible _ ih =>
    have alone_after : (delivery.make i move).workers.size ≤ 1 := by
      rwa [workers_make, Array.size_setIfInBounds]
    rw [parcels_make_of_alone alone (possible_of_move? possible), ih alone_after, List.map_append,
      List.append_assoc]
  | tick time _ ih => exact ih alone

end Delivery

end Attribution
