import Attribution.Proofs.Delivery.Parcel

/-!
# How fast records are worked off

While records are outstanding somebody sends one, and nobody sends a record for longer than the
timeout. So, whatever the channels do, there is at least one record less after every stretch of
this length.

Stretches of different workers overlap, and a deadline that is set anew with every record says
nothing about the end of the job. What is kept is a time by which all will be done. Either there
is a full stretch left for every record, or somebody sends a record whose deadline, with a full
stretch for every other record, comes in time. A record that meets its outcome before the deadline
brings the first about, and workers at rest bring the second about.
-/

namespace Attribution

namespace Worker

theorem map_record_parcels (worker : Worker) :
    worker.parcels.map Parcel.record = worker.outstanding := by
  cases worker with
  | sending current =>
    rw [parcels, List.map_map]
    exact List.map_id _
  | _ => rfl

theorem exists_sending_of_isSending {worker : Worker} (sends : worker.isSending = true) :
    ∃ current, worker = .sending current := by
  cases worker with
  | sending current => exact ⟨current, rfl⟩
  | _ => cases sends

/-- Only who sends has records in hand. -/
theorem exists_sending_of_outstanding {worker : Worker} (holds : worker.outstanding ≠ []) :
    ∃ current, worker = .sending current := by
  cases worker with
  | sending current => exact ⟨current, rfl⟩
  | _ => exact absurd rfl holds

end Worker

namespace Delivery

variable {delivery : Delivery}

/-! ### What is outstanding -/

theorem map_record_parcels (delivery : Delivery) :
    delivery.parcels.map Parcel.record = delivery.outstanding := by
  rw [parcels, outstanding, List.map_append, List.map_flatMap, List.map_flatMap]
  simp only [Worker.map_record_parcels, Job.map_record_parcels]

theorem length_parcels (delivery : Delivery) :
    delivery.parcels.length = delivery.outstanding.length := by
  rw [← map_record_parcels, List.length_map]

/-- By a move as many records are done with as are reported. -/
theorem length_outstanding_make {i : Nat} {move : Move} (possible : delivery.Possible i move) :
    delivery.outstanding.length =
      move.notice?.toList.length + (delivery.make i move).outstanding.length := by
  have cards := congrArg Multiset.card (coe_parcels_make possible)
  simpa only [Multiset.card_add, Multiset.coe_card, List.length_map, length_parcels] using cards

/-- Who sends a record goes on with it while nothing is reported. -/
theorem sending_mem_make {i : Nat} {move : Move} (possible : delivery.Possible i move)
    (silent : move.notice? = none) {current : Sending}
    (there : .sending current ∈ delivery.workers) :
    .sending current ∈ (delivery.make i move).workers := by
  obtain ⟨j, at_j⟩ := Array.getElem?_of_mem there
  have different : i ≠ j := by
    rintro rfl
    cases possible with
    | conclude => cases silent
    | join at_i | take at_i | leave at_i =>
      rw [at_j] at at_i
      cases at_i
  have still : (delivery.make i move).workers[j]? = some (.sending current) := by
    rw [workers_make, Array.getElem?_setIfInBounds_ne different, at_j]
  exact Array.mem_of_getElem? still

/-! ### A time by which all will be done -/

/-- The outstanding records will be done with by the given time: there are none, or there is time
for each of them to be given up, or for each but one that somebody is sending. -/
inductive OnPace (delivery : Delivery) (finish : Nat) : Prop where
  | done (nothing : delivery.outstanding = [])
  | ahead (enough : delivery.now + delivery.outstanding.length * delivery.limits.sendTimeout ≤
      finish)
  | waiting {current : Sending} (there : .sending current ∈ delivery.workers)
      (early : delivery.now ≤ current.deadline)
      (enough : current.deadline + delivery.outstanding.length * delivery.limits.sendTimeout ≤
        finish + delivery.limits.sendTimeout)

namespace OnPace

variable {finish : Nat}

theorem make (h : delivery.OnPace finish) {i : Nat} {move : Move}
    (possible : delivery.Possible i move) : (delivery.make i move).OnPace finish := by
  have whole := length_outstanding_make possible
  cases h with
  | done nothing =>
    refine .done (List.eq_nil_of_length_eq_zero ?_)
    rw [nothing, List.length_nil] at whole
    omega
  | ahead enough =>
    refine .ahead ?_
    have fewer := Nat.mul_le_mul_right delivery.limits.sendTimeout
      (Nat.le.intro (whole.trans (Nat.add_comm _ _)).symm)
    rw [now_make, limits_make]
    omega
  | @waiting current there early enough =>
    cases noticed : move.notice? with
    | none =>
      rw [noticed, Option.toList_none, List.length_nil, Nat.zero_add] at whole
      refine .waiting (sending_mem_make possible noticed there) ?_ ?_
      · rw [now_make]
        exact early
      · rw [limits_make, ← whole]
        exact enough
    | some notice =>
      -- one record less before the deadline, whoever reports it
      rw [noticed, Option.toList_some, List.length_singleton] at whole
      refine .ahead ?_
      rw [whole, Nat.add_mul, Nat.one_mul] at enough
      rw [now_make, limits_make]
      omega

/-- What somebody does who neither queues records nor moves makes no difference. -/
theorem congr {after : Delivery} (h : delivery.OnPace finish)
    (workers : after.workers = delivery.workers) (queue : after.queue = delivery.queue)
    (now : after.now = delivery.now) (limits : after.limits = delivery.limits) :
    after.OnPace finish := by
  have same : after.outstanding = delivery.outstanding := by
    rw [outstanding, outstanding, workers, queue]
  cases h with
  | done nothing => exact .done (same.trans nothing)
  | ahead enough =>
    refine .ahead ?_
    rwa [same, now, limits]
  | waiting there early enough =>
    refine .waiting (workers ▸ there) ?_ ?_
    · rwa [now]
    · rwa [same, limits]

end OnPace

/-- A running delivery within its dimensions that will be done by the given time. -/
structure Paced (delivery : Delivery) (limits : Limits) (finish : Nat) : Prop where
  orderly : delivery.Orderly limits
  running : delivery.phase = .running
  onPace : delivery.OnPace finish

/-- At rest everybody sends while jobs are queued, and there is somebody. -/
theorem exists_sending_of_queued {limits : Limits} (h : delivery.Orderly limits)
    (running : delivery.phase = .running) (settled : delivery.Settled)
    (queued : delivery.queue ≠ []) : ∃ current, .sending current ∈ delivery.workers := by
  have there := Array.getElem_mem (h.size_pos running)
  obtain ⟨current, same⟩ := Worker.exists_sending_of_isSending (h.busy settled queued there)
  exact ⟨current, same ▸ there⟩

/-- So somebody sends while records are outstanding, be they queued or held. -/
theorem exists_sending {limits : Limits} (h : delivery.Orderly limits)
    (running : delivery.phase = .running) (settled : delivery.Settled)
    (left : delivery.outstanding ≠ []) : ∃ current, .sending current ∈ delivery.workers := by
  by_cases queued : delivery.queue = []
  · rw [outstanding, queued, List.flatMap_nil, List.append_nil, ne_eq, List.flatMap_eq_nil_iff,
      not_forall] at left
    obtain ⟨worker, holds⟩ := left
    obtain ⟨there, holds⟩ := Classical.not_imp.1 holds
    obtain ⟨current, rfl⟩ := Worker.exists_sending_of_outstanding holds
    exact ⟨current, Array.mem_toList_iff.1 there⟩
  · exact exists_sending_of_queued h running settled queued

namespace Paced

variable {limits : Limits} {finish : Nat}

/-- At rest one of the records that are sent is on its way in time. -/
theorem exists_waiting (h : delivery.Paced limits finish) (settled : delivery.Settled)
    (left : delivery.outstanding ≠ []) :
    ∃ current, .sending current ∈ delivery.workers ∧ delivery.now < current.deadline ∧
      current.deadline + delivery.outstanding.length * limits.sendTimeout ≤
        finish + limits.sendTimeout := by
  have limits_eq := h.orderly.limits_eq
  cases h.onPace with
  | done nothing => exact absurd nothing left
  | ahead enough =>
    obtain ⟨current, there⟩ := exists_sending h.orderly h.running settled left
    obtain ⟨-, early, soon⟩ := h.orderly.waiting settled there
    refine ⟨current, there, early, ?_⟩
    rw [limits_eq] at enough
    omega
  | @waiting current there _ enough =>
    obtain ⟨-, early, -⟩ := h.orderly.waiting settled there
    rw [limits_eq] at enough
    exact ⟨current, there, early, enough⟩

/-- When the time has come nothing is left. -/
theorem outstanding_eq_nil (h : delivery.Paced limits finish) (settled : delivery.Settled)
    (come : finish ≤ delivery.now) : delivery.outstanding = [] := by
  by_contra left
  obtain ⟨current, -, early, enough⟩ := h.exists_waiting settled left
  have one : 1 * limits.sendTimeout ≤ delivery.outstanding.length * limits.sendTimeout :=
    Nat.mul_le_mul_right _ (List.length_pos_iff.2 left)
  omega

theorem make (h : delivery.Paced limits finish) {i : Nat} {move : Move}
    (found : delivery.move? i = some move) : (delivery.make i move).Paced limits finish :=
  ⟨h.orderly.make found, (phase_make i move).trans h.running,
    h.onPace.make (possible_of_move? found)⟩

/-- Time may pass while the workers are at rest, up to the first deadline. -/
theorem setClock (h : delivery.Paced limits finish) (settled : delivery.Settled) {time : Nat}
    (in_time : ∀ deadline ∈ delivery.deadlines, time ≤ deadline) :
    (delivery.setClock time).Paced limits finish := by
  refine ⟨h.orderly.setClock time, h.running, ?_⟩
  by_cases left : delivery.outstanding = []
  · exact .done left
  · obtain ⟨current, there, early, enough⟩ := h.exists_waiting settled left
    rw [← h.orderly.limits_eq] at enough
    have listed : current.deadline ∈ delivery.deadlines :=
      List.mem_filterMap.2 ⟨.sending current, Array.mem_toList_iff.2 there, rfl⟩
    exact .waiting there (Nat.max_le.2 ⟨early.le, in_time _ listed⟩) enough

end Paced

/-! ### Settling and waiting -/

/-- What every move keeps is kept by settling. -/
theorem settle_of_make {P : Delivery → Prop}
    (make : ∀ {delivery : Delivery} {i : Nat} {move : Move}, P delivery →
      delivery.move? i = some move → P (delivery.make i move))
    (h : P delivery) : P delivery.settle.1 := by
  have settled (round : Round) (notices : Array Notice) :
      P (delivery.settleFrom round notices).1 := by
    fun_induction settleFrom delivery round notices with
    | case1 => exact h
    | case2 delivery round notices i move next found less ih =>
      exact ih (make h (move?_of_nextMove? found))
  exact settled {} #[]

theorem now_settle (delivery : Delivery) : delivery.settle.1.now = delivery.now :=
  settle_of_make (P := fun later => later.now = delivery.now)
    (fun same _ => (now_make _ _).trans same) rfl

/-- The first deadline until a time comes before all others. -/
theorem le_of_min?_deadlinesUntil {time first : Nat}
    (found : (delivery.deadlinesUntil time).min? = some first) :
    first ≤ time ∧ ∀ deadline ∈ delivery.deadlines, first ≤ deadline := by
  obtain ⟨there, least⟩ := List.min?_eq_some_iff.1 found
  have until_time : first ≤ time := of_decide_eq_true (List.mem_filter.1 there).2
  refine ⟨until_time, fun deadline listed => ?_⟩
  by_cases soon : deadline ≤ time
  · exact least deadline (List.mem_filter.2 ⟨listed, decide_eq_true soon⟩)
  · omega

theorem lt_of_min?_deadlinesUntil_eq_none {time : Nat}
    (none_left : (delivery.deadlinesUntil time).min? = none) :
    ∀ deadline ∈ delivery.deadlines, time < deadline := by
  intro deadline listed
  have late := List.filter_eq_nil_iff.1 (List.min?_eq_none_iff.1 none_left) deadline listed
  exact Nat.not_le.1 fun soon => late (decide_eq_true soon)

/-- The clock comes to rest at the time asked for. -/
theorem now_advanceTo (delivery : Delivery) (time : Nat) :
    (delivery.advanceTo time).1.now = max delivery.now time := by
  fun_induction advanceTo delivery time with
  | case1 => rfl
  | case2 delivery first found less settled later ih =>
    have until_time := (le_of_min?_deadlinesUntil found).1
    have stopped : settled.1.now = max delivery.now first := now_settle _
    rw [ih, stopped]
    omega

theorem now_sleep (delivery : Delivery) (duration : Nat) :
    (delivery.sleep duration).1.now = delivery.now + duration := by
  rw [sleep, now_advanceTo]
  omega

theorem Paced.settle {limits : Limits} {finish : Nat} (h : delivery.Paced limits finish) :
    delivery.settle.1.Paced limits finish :=
  settle_of_make (P := fun later => later.Paced limits finish)
    (fun paced found => paced.make found) h

/-- The clock stops at every deadline, and the workers settle there. -/
theorem Paced.advanceTo {limits : Limits} {finish time : Nat} (h : delivery.Paced limits finish)
    (settled : delivery.Settled) : (delivery.advanceTo time).1.Paced limits finish := by
  fun_induction Delivery.advanceTo delivery time with
  | case1 delivery none_left =>
    have late := lt_of_min?_deadlinesUntil_eq_none none_left
    exact h.setClock settled fun deadline listed => (late deadline listed).le
  | case2 delivery first found less _ later ih =>
    have stopped := h.setClock settled (le_of_min?_deadlinesUntil found).2
    exact ih stopped.settle (settled_settle _)

end Delivery

end Attribution
