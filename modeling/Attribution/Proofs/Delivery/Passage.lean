import Attribution.Proofs.Delivery.Ledger

/-!
# What each operation does to records

One ledger for everything that can happen to a delivery: a move of a worker, the passing of time,
and what is done from outside. A move is the only step by which a record leaves a worker, and it
does so with its notice; `Balances.make` has one case for each kind of move, and all that the
workers do by themselves follows from it by induction.
-/

namespace Attribution

theorem coe_flatMap_set {α β : Type} (f : α → List β) {xs : List α} {i : Nat} {old : α}
    (h : xs[i]? = some old) (new : α) :
    ((xs.set i new).flatMap f : Multiset β) + f old = (xs.flatMap f : Multiset β) + f new := by
  induction xs generalizing i with
  | nil => simp at h
  | cons x xs ih =>
    cases i with
    | zero =>
      simp only [List.getElem?_cons_zero, Option.some.injEq] at h
      subst h
      simp only [List.set_cons_zero, List.flatMap_cons, ← Multiset.coe_add]
      abel
    | succ i =>
      simp only [List.getElem?_cons_succ] at h
      simp only [List.set_cons_succ, List.flatMap_cons, ← Multiset.coe_add, add_assoc, ih h]

namespace Delivery

variable {delivery : Delivery}

/-! ### Workers -/

theorem held_setWorker {i : Nat} {old : Worker} (at_i : delivery.workers[i]? = some old)
    (new : Worker) :
    (delivery.setWorker i new).held + old.outstanding = delivery.held + new.outstanding := by
  rw [← Array.getElem?_toList] at at_i
  simp only [held, setWorker, Array.toList_setIfInBounds]
  exact coe_flatMap_set Worker.outstanding at_i new

theorem outstanding_continuing (channel : ChannelName) (records : List Metadata) :
    (delivery.continuing channel records).outstanding = records := by
  cases records <;> rfl

theorem held_continueWith {i : Nat} {old : Worker} (at_i : delivery.workers[i]? = some old)
    (channel : ChannelName) (records : List Metadata) :
    (delivery.continueWith i channel records).held + old.outstanding = delivery.held + records := by
  have := held_setWorker at_i (delivery.continuing channel records)
  rwa [outstanding_continuing] at this

/-! ### Channels -/

theorem getElem?_channels_deposit (name other : ChannelName) (record : Metadata) :
    (delivery.deposit name record).channels[other]? =
      if name = other then delivery.channels[name]?.map (·.send record)
      else delivery.channels[other]? := by
  rw [deposit, Std.ExtTreeMap.getElem?_alter]
  simp only [Std.LawfulEqCmp.compare_eq_iff_eq]

/-- A record that is put into a channel is there afterwards, behind what was there before, and
nothing else changes. -/
theorem inbox_deposit {name : ChannelName} (made : name ∈ delivery.channels) (record : Metadata)
    (other : ChannelName) :
    (delivery.deposit name record).inbox other =
      delivery.inbox other ++ if name = other then [record] else [] := by
  obtain ⟨channel, found⟩ : ∃ channel, delivery.channels[name]? = some channel :=
    ⟨_, Std.ExtTreeMap.getElem?_eq_some_getElem made⟩
  rw [inbox, getElem?_channels_deposit]
  split
  · rename_i same
    subst same
    simp only [inbox, found, Option.map_some, Option.getD_some, Channel.send]
  · rw [List.append_nil]
    rfl

theorem mem_channels_deposit {name other : ChannelName} {record : Metadata} :
    other ∈ (delivery.deposit name record).channels ↔ other ∈ delivery.channels := by
  simp only [Std.ExtTreeMap.mem_iff_isSome_getElem?, getElem?_channels_deposit]
  split
  · rename_i same
    subst same
    rw [Option.isSome_map]
  · rfl

/-- Only a channel that was made has room for a record. -/
theorem mem_channels_of_delivered {current : Sending}
    (met : delivery.outcome? current = some .delivered) : current.channel ∈ delivery.channels := by
  rw [outcome?] at met
  split at met
  · cases met
  · rename_i channel found
    exact Std.ExtTreeMap.mem_iff_isSome_getElem?.2 (by rw [found]; rfl)

/-! ### Records that meet their outcome -/

theorem queued_conclude (i : Nat) (current : Sending) (outcome : Outcome) :
    (delivery.conclude i current outcome).queued = delivery.queued := by
  simp only [conclude]
  split <;> rfl

theorem held_conclude {i : Nat} {current : Sending}
    (at_i : delivery.workers[i]? = some (.sending current)) (outcome : Outcome) :
    {current.record} + (delivery.conclude i current outcome).held = delivery.held := by
  -- what is deposited is of no concern to the workers
  obtain ⟨sent, workers, same⟩ : ∃ sent : Delivery, sent.workers = delivery.workers ∧
      delivery.conclude i current outcome = sent.continueWith i current.channel current.rest := by
    refine ⟨_, ?_, rfl⟩
    split <;> rfl
  have kept := held_continueWith (workers.symm ▸ at_i) current.channel current.rest
  have unchanged : sent.held = delivery.held := by rw [held, held, workers]
  rw [← same, unchanged, Worker.outstanding, ← Multiset.cons_coe, ← Multiset.singleton_add] at kept
  refine add_right_cancel (b := (current.rest : Multiset Metadata)) ?_
  rw [← kept]
  abel

theorem inbox_conclude {i : Nat} {current : Sending} {outcome : Outcome}
    (met : delivery.outcome? current = some outcome) (name : ChannelName) :
    (delivery.conclude i current outcome).inbox name =
      delivery.inbox name ++
        if outcome = .delivered ∧ current.channel = name then [current.record] else [] := by
  simp only [conclude]
  by_cases delivered : outcome = .delivered
  · subst delivered
    simp only [↓reduceIte, true_and]
    exact inbox_deposit (mem_channels_of_delivered met) current.record name
  · simp only [delivered, ↓reduceIte, false_and, List.append_nil]
    rfl

theorem contents_conclude {i : Nat} {current : Sending} {outcome : Outcome}
    (met : delivery.outcome? current = some outcome) (name : ChannelName) :
    (delivery.conclude i current outcome).contents name =
      delivery.contents name +
        if outcome = .delivered ∧ current.channel = name then {current.record} else 0 := by
  rw [← coe_inbox, inbox_conclude met, ← Multiset.coe_add, coe_inbox]
  split <;> rfl

theorem mem_channels_conclude {i : Nat} {current : Sending} {outcome : Outcome}
    {name : ChannelName} :
    name ∈ (delivery.conclude i current outcome).channels ↔ name ∈ delivery.channels := by
  simp only [conclude]
  split
  · exact mem_channels_deposit
  · rfl

namespace Balances

/-- The notice of a record is all that comes of its being sent, given up or found to be in vain. -/
theorem conclude {i : Nat} {current : Sending} {outcome : Outcome}
    (at_i : delivery.workers[i]? = some (.sending current))
    (met : delivery.outcome? current = some outcome) :
    delivery.Balances { notices := [⟨outcome, current.record, some current.channel⟩] }
      (delivery.conclude i current outcome) where
  outstanding := by
    rw [Ledger.noticed_singleton, queued_conclude, ← held_conclude at_i outcome]
    simp only [↓reduceIte]
    abel
  contents name := by
    rw [Ledger.entered, Ledger.noticed_singleton, contents_conclude met]
    simp only [Option.some.injEq, decide_eq_true_eq]
    abel
  kept name made := mem_channels_conclude.2 made
  sent notice there delivered := by
    cases List.mem_singleton.1 there
    cases delivered
    exact ⟨current.channel, mem_channels_conclude.2 (mem_channels_of_delivered met), rfl⟩

/-- A worker may take up what it does or leave it, as long as no records are with it. -/
theorem setWorker {i : Nat} {old new : Worker} (at_i : delivery.workers[i]? = some old)
    (before : old.outstanding = []) (after : new.outstanding = []) :
    delivery.Balances {} (delivery.setWorker i new) := by
  have kept := held_setWorker at_i new
  rw [before, after, Multiset.coe_nil, add_zero, add_zero] at kept
  exact of_channels rfl (by rw [kept]; rfl)

/-- A job that is taken goes from the queue to the worker. -/
theorem take {i turn : Nat} {job : Job} {others : List Job}
    (at_i : delivery.workers[i]? = some (.inLine turn)) (queued : delivery.queue = job :: others) :
    delivery.Balances {} (delivery.make i (.take job others)) := by
  refine of_channels rfl ?_
  have whole : delivery.queued = (job.records : Multiset Metadata) +
      ({ delivery with queue := others } : Delivery).queued := by
    rw [Delivery.queued, queued, List.flatMap_cons, ← Multiset.coe_add]
    rfl
  have taken := @held_continueWith { delivery with queue := others } i _ at_i job.channel
    job.records
  simp only [Worker.outstanding, Multiset.coe_nil, add_zero] at taken
  change _ = ({ delivery with queue := others } : Delivery).queued +
    (({ delivery with queue := others } : Delivery).continueWith i job.channel
      job.records).held + _
  rw [whole, taken]
  change _ + _ + delivery.held + 0 = _ + (delivery.held + _) + 0
  abel

theorem make {i : Nat} {move : Move} (h : delivery.move? i = some move) :
    delivery.Balances { notices := move.notice?.toList } (delivery.make i move) := by
  cases possible_of_move? h with
  | join at_i =>
    have joined : delivery.Balances {} (delivery.setWorker i (.inLine delivery.nextTurn)) :=
      setWorker at_i rfl rfl
    have turned : (delivery.setWorker i (.inLine delivery.nextTurn)).Balances {}
        (delivery.make i .join) := of_same rfl rfl rfl
    have both := joined.trans turned
    rwa [Ledger.add_empty] at both
  | take at_i queued => exact take at_i queued
  | conclude at_i met => exact conclude at_i met
  | leave at_i => exact setWorker at_i rfl rfl

end Balances

/-! ### What happens by itself -/

/-- Workers move, in whatever order, and time passes; the notices come in the order of the moves.
-/
inductive Proceeds : Delivery → List Notice → Delivery → Prop where
  | rest (delivery : Delivery) : Proceeds delivery [] delivery
  | move {delivery after : Delivery} {i : Nat} {move : Move} {notices : List Notice}
      (possible : delivery.move? i = some move)
      (later : Proceeds (delivery.make i move) notices after) :
      Proceeds delivery (move.notice?.toList ++ notices) after
  | tick {delivery after : Delivery} {notices : List Notice} (time : Nat)
      (later : Proceeds (delivery.setClock time) notices after) :
      Proceeds delivery notices after

namespace Proceeds

variable {before between after : Delivery} {first second : List Notice}

theorem trans (one : Proceeds before first between) (two : Proceeds between second after) :
    Proceeds before (first ++ second) after := by
  induction one with
  | rest => exact two
  | move possible _ ih =>
    rw [List.append_assoc]
    exact .move possible (ih two)
  | tick time _ ih => exact .tick time (ih two)

theorem settleFrom (delivery : Delivery) (round : Round) :
    Proceeds delivery (delivery.settleFrom round #[]).2.toList
      (delivery.settleFrom round #[]).1 := by
  cases found : delivery.nextMove? round with
  | none =>
    rw [settleFrom_of_none found]
    exact .rest delivery
  | some chosen =>
    obtain ⟨i, move, next⟩ := chosen
    have possible := move?_of_nextMove? found
    have less := work_make_lt possible
    rw [settleFrom_of_some found, settleFrom_eq]
    simpa using Proceeds.move possible (settleFrom (delivery.make i move) next)
termination_by delivery.work

/-- Settling is one of the orders in which the workers can move. -/
theorem settle (delivery : Delivery) :
    Proceeds delivery delivery.settle.2 delivery.settle.1 :=
  settleFrom delivery {}

theorem advanceTo (delivery : Delivery) (time : Nat) :
    Proceeds delivery (delivery.advanceTo time).2 (delivery.advanceTo time).1 := by
  fun_induction Delivery.advanceTo delivery time with
  | case1 delivery => exact .tick time (.rest _)
  | case2 delivery first found less settled later ih =>
    exact .tick first ((settle _).trans ih)

/-- What is said of every notice by which a move is reported holds of all that is reported. -/
theorem forall_notices {P : Notice → Prop}
    (moves : ∀ {delivery : Delivery} {i : Nat} {move : Move}, delivery.Possible i move →
      ∀ notice ∈ move.notice?.toList, P notice)
    (h : Proceeds before first after) : ∀ notice ∈ first, P notice := by
  induction h with
  | rest => exact fun notice there => absurd there List.not_mem_nil
  | move possible _ ih =>
    intro notice there
    rcases List.mem_append.1 there with now | later
    · exact moves (possible_of_move? possible) notice now
    · exact ih notice later
  | tick _ _ ih => exact ih

/-- Nothing that happens by itself goes unaccounted for. -/
theorem balances (h : Proceeds before first after) :
    before.Balances { notices := first } after := by
  induction h with
  | rest delivery => exact .refl delivery
  | move possible _ ih =>
    rw [Ledger.notices_append]
    exact (Balances.make possible).trans ih
  | @tick delivery _ _ time _ ih =>
    have still : delivery.Balances {} (delivery.setClock time) := .of_same rfl rfl rfl
    have both := still.trans ih
    rwa [Ledger.empty_add] at both

end Proceeds

/-! ### What is done from outside -/

/-- There is a place in the queue for a further job. -/
def HasPlace (delivery : Delivery) : Prop :=
  delivery.phase ≠ .stopped ∧ delivery.queue.length < delivery.limits.queueLength

instance (delivery : Delivery) : Decidable delivery.HasPlace :=
  inferInstanceAs (Decidable (_ ∧ _))

/-- The delivery with a further job, behind those that are queued. -/
def withJob (delivery : Delivery) (job : Job) : Delivery :=
  { delivery with queue := delivery.queue ++ [job] }

/-- The outcome of records for which there is no place. -/
def turnedAway (delivery : Delivery) : Outcome :=
  if delivery.phase = .stopped then .closed else .queueFull

theorem enqueue_of_hasPlace (place : delivery.HasPlace) (job : Job) :
    delivery.enqueue job = (delivery.withJob job, []) := by
  obtain ⟨going_on, shorter⟩ := place
  rw [enqueue, if_neg going_on, if_neg (Nat.not_le.2 shorter)]
  rfl

theorem enqueue_of_not_hasPlace (place : ¬ delivery.HasPlace) (job : Job) :
    delivery.enqueue job = (delivery, job.notices delivery.turnedAway) := by
  rw [enqueue, turnedAway]
  by_cases stopped : delivery.phase = .stopped
  · rw [if_pos stopped, if_pos stopped]
  · have full : delivery.limits.queueLength ≤ delivery.queue.length := by
      apply Nat.not_lt.1
      intro shorter
      exact place ⟨stopped, shorter⟩
    rw [if_neg stopped, if_pos full, if_neg stopped]

theorem inbox_insert (name other : ChannelName) (channel : Channel) :
    ({ delivery with channels := delivery.channels.insert name channel } : Delivery).inbox other =
      if name = other then channel.contents else delivery.inbox other := by
  simp only [inbox, Std.ExtTreeMap.getElem?_insert, Std.LawfulEqCmp.compare_eq_iff_eq]
  split <;> rfl

theorem contents_insert (name other : ChannelName) (channel : Channel) :
    ({ delivery with channels := delivery.channels.insert name channel } : Delivery).contents
        other =
      if name = other then (channel.contents : Multiset Metadata) else delivery.contents other := by
  rw [← coe_inbox, inbox_insert, apply_ite Multiset.ofList, coe_inbox]

theorem mem_channels_insert {name other : ChannelName} {channel : Channel}
    (there : other ∈ delivery.channels) : other ∈ delivery.channels.insert name channel :=
  Std.ExtTreeMap.mem_insert.2 (.inr there)

namespace Balances

/-- Records that are turned away meet an outcome at once, and all of them the same. -/
theorem turnAway (records : List Metadata) {outcome : Outcome} (undelivered : outcome ≠ .delivered)
    (channel : Option ChannelName) :
    delivery.Balances
      { resolved := records, notices := records.map fun record => ⟨outcome, record, channel⟩ }
      delivery where
  outstanding := by
    have all : (records.map fun record => (⟨outcome, record, channel⟩ : Notice)).map Notice.record =
        records := by
      rw [List.map_map]
      exact List.map_id records
    simp only [Ledger.noticed, List.filter_true, all]
    abel
  contents name := by
    simp only [Ledger.entered, Ledger.noticed, List.filter_map, Function.comp_def, undelivered]
    simp
  kept name made := made
  sent notice there delivered := by
    obtain ⟨record, -, rfl⟩ := List.mem_map.1 there
    exact absurd delivered undelivered

/-- A job is queued or turned away, as a whole. -/
theorem enqueue (job : Job) :
    delivery.Balances { resolved := job.records, notices := (delivery.enqueue job).2 }
      (delivery.enqueue job).1 := by
  rw [Delivery.enqueue]
  split
  · exact turnAway job.records (by decide : Outcome.closed ≠ .delivered) (some job.channel)
  · split
    · exact turnAway job.records (by decide : Outcome.queueFull ≠ .delivered) (some job.channel)
    · refine of_channels rfl ?_
      simp only [queued, List.flatMap_append, List.flatMap_singleton, ← Multiset.coe_add, held]
      abel

/-- Workers come without records. -/
theorem start (nobody : delivery.workers = #[]) : delivery.Balances {} delivery.start := by
  refine of_channels rfl ?_
  have idle : (Array.replicate delivery.limits.poolSize Worker.arriving).toList.flatMap
      Worker.outstanding = [] := by
    rw [List.flatMap_eq_nil_iff]
    intro worker there
    rw [Array.toList_replicate] at there
    rw [List.eq_of_mem_replicate there]
    rfl
  rw [held, held, nobody, Delivery.start, idle]
  rfl

/-- What is given up is everything that is outstanding, and nothing in a channel. -/
theorem stop : delivery.Balances { discarded := delivery.outstanding } delivery.stop := by
  refine of_channels rfl ?_
  rw [coe_outstanding, add_zero, add_comm]
  exact (zero_add _).symm

/-- A new channel is empty, and so is one that was never made. -/
theorem addChannel {name : ChannelName} (new : name ∉ delivery.channels) (capacity : Nat) :
    delivery.Balances {} (delivery.addChannel name capacity) := by
  refine of_receivers rfl rfl (fun other made => mem_channels_insert made) ?_
  intro other
  rw [zero_add, add_zero, Delivery.addChannel, contents_insert]
  split
  · rename_i same
    subst same
    rw [Delivery.contents, Std.ExtTreeMap.getElem?_eq_none new]
    rfl
  · rfl

section Receivers

variable {name : ChannelName} {channel : Channel}

theorem drain (found : delivery.channels[name]? = some channel) (limit : Option Nat) :
    delivery.Balances
      { drained := fun other => if name = other then (delivery.drain name channel limit).1 else 0 }
      (delivery.drain name channel limit).2 := by
  refine of_receivers rfl rfl (fun other made => mem_channels_insert made) ?_
  intro other
  simp only [Delivery.drain, contents_insert, Channel.drop]
  split
  · rename_i same
    subst same
    simp only [Delivery.contents, found, Option.map_some, Option.getD_some, add_zero,
      Multiset.coe_add, List.take_append_drop]
  · rw [zero_add, add_zero]

theorem closeChannel :
    delivery.Balances
      { lost := fun other => if name = other then delivery.contents name else 0 }
      (delivery.closeChannel name channel) := by
  refine of_receivers rfl rfl (fun other made => mem_channels_insert made) ?_
  intro other
  rw [Delivery.closeChannel, contents_insert, Channel.close]
  split
  · rename_i same
    subst same
    exact (zero_add _).symm
  · rw [zero_add, add_zero]

end Receivers

end Balances

/-! ### All that can happen -/

/-- Everything that an action can do to a delivery, with what it says to the ledger. -/
inductive Change (delivery : Delivery) : Ledger → Delivery → Prop where
  | nothing : Change delivery {} delivery
  | enqueue (job : Job) :
      Change delivery { resolved := job.records, notices := (delivery.enqueue job).2 }
        (delivery.enqueue job).1
  | turnAway (records : List Metadata) :
      Change delivery
        { resolved := records, notices := records.map fun record => ⟨.unregistered, record, none⟩ }
        delivery
  | start (unstarted : delivery.phase = .unstarted) : Change delivery {} delivery.start
  | stop : Change delivery { discarded := delivery.outstanding } delivery.stop
  | closeIntake : Change delivery {} delivery.closeIntake
  | addChannel {name : ChannelName} (new : name ∉ delivery.channels) (capacity : Nat) :
      Change delivery {} (delivery.addChannel name capacity)
  | drain {name : ChannelName} {channel : Channel} (found : delivery.channels[name]? = some channel)
      (limit : Option Nat) :
      Change delivery
        { drained := fun other =>
            if name = other then (delivery.drain name channel limit).1 else 0 }
        (delivery.drain name channel limit).2
  | closeChannel {name : ChannelName} {channel : Channel}
      (found : delivery.channels[name]? = some channel) :
      Change delivery { lost := fun other => if name = other then delivery.contents name else 0 }
        (delivery.closeChannel name channel)
  | proceed {notices : List Notice} {after : Delivery}
      (by_itself : delivery.Proceeds notices after) :
      Change delivery { notices } after

/-- A delivery that was not started has no workers. -/
def Unmanned (delivery : Delivery) : Prop :=
  delivery.phase = .unstarted → delivery.workers = #[]

theorem phase_make (i : Nat) (move : Move) : (delivery.make i move).phase = delivery.phase := by
  cases move with
  | conclude current outcome =>
    simp only [make, conclude]
    split <;> rfl
  | _ => rfl

theorem phase_proceeds {after : Delivery} {notices : List Notice}
    (by_itself : delivery.Proceeds notices after) : after.phase = delivery.phase := by
  induction by_itself with
  | rest => rfl
  | move _ _ ih => rw [ih, phase_make]
  | tick _ _ ih => exact ih

/-- Where nobody is there to move, things stay as they are. -/
theorem Unmanned.make (h : delivery.Unmanned) {i : Nat} {move : Move}
    (possible : delivery.move? i = some move) : (delivery.make i move).Unmanned := by
  intro unstarted
  rw [phase_make] at unstarted
  have nobody : delivery.move? i = none :=
    move?_eq_none_of_size_le (by rw [h unstarted]; exact Nat.zero_le i)
  rw [nobody] at possible
  cases possible

theorem Unmanned.proceeds {after : Delivery} {notices : List Notice} (h : delivery.Unmanned)
    (by_itself : delivery.Proceeds notices after) : after.Unmanned := by
  induction by_itself with
  | rest => exact h
  | move possible _ ih => exact ih (h.make possible)
  | tick time _ ih => exact ih h

namespace Change

variable {after : Delivery} {ledger : Ledger}

theorem unmanned (change : delivery.Change ledger after) (h : delivery.Unmanned) :
    after.Unmanned := by
  cases change with
  | enqueue job =>
    rw [Delivery.enqueue]
    split
    · exact h
    · split <;> exact h
  | start => exact nofun
  | stop => exact fun _ => rfl
  | proceed by_itself => exact h.proceeds by_itself
  | _ => exact h

/-- Whatever happens to a delivery, the ledger accounts for it. -/
theorem balances (change : delivery.Change ledger after) (h : delivery.Unmanned) :
    delivery.Balances ledger after := by
  cases change with
  | nothing => exact .refl delivery
  | enqueue job => exact .enqueue job
  | turnAway records =>
    exact .turnAway records (by decide : Outcome.unregistered ≠ .delivered) none
  | start unstarted => exact .start (h unstarted)
  | stop => exact .stop
  | closeIntake => exact .of_same rfl rfl rfl
  | addChannel new capacity => exact .addChannel new capacity
  | drain found limit => exact .drain found limit
  | closeChannel => exact .closeChannel
  | proceed by_itself => exact by_itself.balances

end Change

end Delivery

end Attribution
