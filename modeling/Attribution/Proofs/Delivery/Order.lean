import Attribution.Proofs.Delivery.Parcel

/-!
# The order in which workers do things

Jobs leave the queue in the order in which they came, and a worker reports the records of its jobs
in the order in which it has them. `Carries` says both of a stretch of time: the jobs that came in
its course, and the moves that were made. As laws of lists they add up, move by move, and whatever
is said of the order of records is read off them.

Nothing is said of the order between workers. With a single worker there is none to say: the
records are reported in the order of the jobs in the queue.
-/

namespace Attribution

/-- A move that a worker made. -/
structure Deed where
  worker : Nat
  move : Move

namespace Deed

/-- The deeds of one worker. -/
def ofWorker (worker : Nat) (deeds : List Deed) : List Deed :=
  deeds.filter (·.worker = worker)

/-- The jobs that were taken, in order. -/
def jobs (deeds : List Deed) : List Job :=
  deeds.filterMap (·.move.job?)

/-- The reports on records, in order. -/
def notices (deeds : List Deed) : List Notice :=
  deeds.filterMap (·.move.notice?)

theorem ofWorker_append (worker : Nat) (first second : List Deed) :
    ofWorker worker (first ++ second) = ofWorker worker first ++ ofWorker worker second :=
  List.filter_append first second

theorem jobs_append (first second : List Deed) :
    jobs (first ++ second) = jobs first ++ jobs second :=
  List.filterMap_append

theorem notices_append (first second : List Deed) :
    notices (first ++ second) = notices first ++ notices second :=
  List.filterMap_append

theorem jobs_singleton (deed : Deed) : jobs [deed] = deed.move.job?.toList := by
  simp only [jobs, List.filterMap_cons, List.filterMap_nil]
  cases deed.move.job? <;> rfl

theorem notices_singleton (deed : Deed) : notices [deed] = deed.move.notice?.toList := by
  simp only [notices, List.filterMap_cons, List.filterMap_nil]
  cases deed.move.notice? <;> rfl

theorem ofWorker_self (worker : Nat) (move : Move) :
    ofWorker worker [⟨worker, move⟩] = [⟨worker, move⟩] := by
  rw [ofWorker, List.filter_cons_of_pos (by simp)]
  rfl

theorem ofWorker_of_ne {worker other : Nat} (different : other ≠ worker) (move : Move) :
    ofWorker worker [⟨other, move⟩] = [] := by
  rw [ofWorker, List.filter_cons_of_neg (by simpa using different)]
  rfl

/-- Where there is only one worker every deed is its own. -/
theorem ofWorker_of_alone {worker : Nat} {deeds : List Deed}
    (alone : ∀ deed ∈ deeds, deed.worker = worker) : ofWorker worker deeds = deeds := by
  rw [ofWorker, List.filter_eq_self]
  intro deed there
  exact decide_eq_true (alone deed there)

end Deed

namespace Delivery

variable {delivery : Delivery}

/-- What a worker has in hand; nothing where there is no such worker. -/
def hand (delivery : Delivery) (i : Nat) : List Parcel :=
  (delivery.workers[i]?.map Worker.parcels).getD []

theorem hand_of_getElem? {i : Nat} {worker : Worker}
    (at_i : delivery.workers[i]? = some worker) : delivery.hand i = worker.parcels := by
  rw [hand, at_i]
  rfl

/-- What a worker has in hand after its move. -/
theorem hand_make_self {i : Nat} {worker : Worker} (at_i : delivery.workers[i]? = some worker)
    (move : Move) : (delivery.make i move).hand i = (delivery.afterMove move).parcels := by
  obtain ⟨within, -⟩ := Array.getElem?_eq_some_iff.1 at_i
  apply hand_of_getElem?
  rw [workers_make, Array.getElem?_setIfInBounds_self_of_lt within]

theorem hand_make_of_ne {i j : Nat} (different : i ≠ j) (move : Move) :
    (delivery.make i move).hand j = delivery.hand j := by
  rw [hand, hand, workers_make, Array.getElem?_setIfInBounds_ne different]

/-- Over a stretch of time jobs came and moves were made: what was in the queue or came was taken or
is in the queue, in this order, and what a worker had in hand or took it reported or has in hand,
in this order. -/
structure Carries (before : Delivery) (came : List Job) (deeds : List Deed) (after : Delivery) :
    Prop where
  queue : before.queue ++ came = Deed.jobs deeds ++ after.queue
  hand (i : Nat) :
    before.hand i ++ (Deed.jobs (Deed.ofWorker i deeds)).flatMap Job.parcels =
      (Deed.notices (Deed.ofWorker i deeds)).map Notice.parcel ++ after.hand i

namespace Carries

variable {before between after : Delivery} {came more : List Job} {first second : List Deed}

/-- Where nobody moves only the queue can be longer. -/
theorem of_queue (queue : after.queue = before.queue ++ came)
    (hand : ∀ i, after.hand i = before.hand i) : before.Carries came [] after where
  queue := queue.symm
  hand i := by
    rw [hand]
    exact List.append_nil _

theorem refl (delivery : Delivery) : delivery.Carries [] [] delivery :=
  of_queue (List.append_nil _).symm fun _ => rfl

/-- One stretch of time after the other. -/
theorem trans (one : before.Carries came first between)
    (two : between.Carries more second after) :
    before.Carries (came ++ more) (first ++ second) after where
  queue := by
    calc before.queue ++ (came ++ more) = (before.queue ++ came) ++ more :=
          (List.append_assoc _ _ _).symm
      _ = Deed.jobs first ++ (between.queue ++ more) := by rw [one.queue, List.append_assoc]
      _ = Deed.jobs (first ++ second) ++ after.queue := by
          rw [two.queue, Deed.jobs_append, List.append_assoc]
  hand i := by
    rw [Deed.ofWorker_append, Deed.jobs_append, Deed.notices_append, List.flatMap_append,
      List.map_append, ← List.append_assoc, one.hand i, List.append_assoc, two.hand i,
      List.append_assoc]

/-- A move is one deed. -/
theorem make {i : Nat} {move : Move} (possible : delivery.Possible i move) :
    delivery.Carries [] [⟨i, move⟩] (delivery.make i move) := by
  obtain ⟨worker, at_i, hand, queue⟩ := possible.exists_worker
  refine ⟨?_, fun j => ?_⟩
  · rw [List.append_nil, Deed.jobs_singleton]
    exact queue
  · by_cases same : i = j
    · subst same
      rw [Deed.ofWorker_self, Deed.jobs_singleton, Deed.notices_singleton, hand_make_self at_i,
        hand_of_getElem? at_i]
      exact hand
    · rw [Deed.ofWorker_of_ne same, hand_make_of_ne same]
      exact List.append_nil _

/-- New workers have nothing in hand. -/
theorem start (nobody : delivery.workers = #[]) : delivery.Carries [] [] delivery.start := by
  refine of_queue (List.append_nil _).symm fun i => ?_
  have before : delivery.hand i = [] := by
    rw [Delivery.hand, nobody]
    rfl
  rw [before, Delivery.hand, Delivery.start, Array.getElem?_replicate]
  split <;> rfl

/-! ### What follows for the order -/

variable {deeds : List Deed}

/-- Jobs are taken in the order in which they are queued. -/
theorem jobs_le (carries : before.Carries came deeds after) :
    Deed.jobs deeds <+: before.queue ++ came := by
  rw [carries.queue]
  exact List.prefix_append _ _

/-- A worker reports the records of its jobs in the order in which it took them. -/
theorem notices_le (carries : before.Carries came deeds after) (i : Nat) :
    (Deed.notices (Deed.ofWorker i deeds)).map Notice.parcel <+:
      before.hand i ++ (Deed.jobs (Deed.ofWorker i deeds)).flatMap Job.parcels := by
  rw [carries.hand]
  exact List.prefix_append _ _

/-- The next that a worker reports is what it has in hand. -/
theorem take_notices_le (carries : before.Carries came deeds after) {i : Nat} {job : Job}
    (in_hand : before.hand i = job.parcels) :
    ((Deed.notices (Deed.ofWorker i deeds)).take job.records.length).map Notice.parcel <+:
      job.parcels := by
  have reported := (carries.notices_le i).take job.records.length
  have whole : job.records.length = job.parcels.length := (List.length_map _).symm
  rw [in_hand, whole, List.take_left, ← whole, ← List.map_take] at reported
  exact reported

/-- A single worker reports the records in the order of the jobs in the queue. -/
theorem notices_le_of_alone (carries : before.Carries came deeds after) {i : Nat}
    (alone : ∀ deed ∈ deeds, deed.worker = i) (empty_hand : before.hand i = [])
    (empty_queue : before.queue = []) :
    (Deed.notices deeds).map Notice.parcel <+: came.flatMap Job.parcels := by
  have reported := carries.notices_le i
  have taken := carries.jobs_le
  rw [Deed.ofWorker_of_alone alone, empty_hand, List.nil_append] at reported
  rw [empty_queue, List.nil_append] at taken
  obtain ⟨others, split⟩ := taken
  rw [← split, List.flatMap_append]
  exact reported.trans (List.prefix_append _ _)

end Carries

end Delivery

/-! ### Channels -/

theorem entering_sublist (name : ChannelName) (notices : List Notice) :
    (entering name notices).Sublist (notices.map Notice.record) :=
  List.filter_sublist.map Notice.record

/-- What enters a channel by reports that follow a job is a part of the job, in its order. -/
theorem entering_sublist_of_le {job : Job} {notices : List Notice}
    (le : notices.map Notice.parcel <+: job.parcels) :
    (entering job.channel notices).Sublist job.records := by
  have records := (le.map Parcel.record).sublist
  rw [List.map_map, Job.map_record_parcels] at records
  exact (entering_sublist job.channel notices).trans records

/-- The parcels for a channel are the records of its jobs. -/
theorem map_record_filter_flatMap_parcels (name : ChannelName) (jobs : List Job) :
    ((jobs.flatMap Job.parcels).filter (·.channel = some name)).map Parcel.record =
      (jobs.filter (·.channel = name)).flatMap Job.records := by
  induction jobs with
  | nil => rfl
  | cons job more ih =>
    rw [List.flatMap_cons, List.filter_append, List.map_append, ih, List.filter_cons]
    by_cases same : job.channel = name
    · have all : job.parcels.filter (·.channel = some name) = job.parcels := by
        rw [List.filter_eq_self]
        intro parcel there
        obtain ⟨record, -, rfl⟩ := List.mem_map.1 there
        exact decide_eq_true (congrArg some same)
      rw [all, Job.map_record_parcels, if_pos (decide_eq_true same), List.flatMap_cons]
    · have nothing : job.parcels.filter (·.channel = some name) = [] := by
        rw [List.filter_eq_nil_iff]
        intro parcel there
        obtain ⟨record, -, rfl⟩ := List.mem_map.1 there
        simpa [Parcel.addressed] using same
      rw [nothing, if_neg (by simpa using same)]
      rfl

/-- What enters a channel by reports that follow the queue is a part of what was queued for it, in
the order of the queue. -/
theorem entering_sublist_of_queue {jobs : List Job} {notices : List Notice}
    (le : notices.map Notice.parcel <+: jobs.flatMap Job.parcels) (name : ChannelName) :
    (entering name notices).Sublist ((jobs.filter (·.channel = name)).flatMap Job.records) := by
  rw [← map_record_filter_flatMap_parcels]
  refine List.Sublist.trans ?_ ((le.sublist.filter _).map Parcel.record)
  rw [List.filter_map, List.map_map]
  refine List.Sublist.map Notice.record (List.monotone_filter_right notices fun notice both => ?_)
  have addressed : notice.channel = some name := (of_decide_eq_true both).2
  exact decide_eq_true addressed

end Attribution
