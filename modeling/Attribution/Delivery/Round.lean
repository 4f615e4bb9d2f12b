import Attribution.Delivery.Move

/-!
# Whose move it is

One worker moves for as long as it can, and then another. In a small pool there is no more to it.
In a large one nobody may hold up the others without end: the moves cost steps, and when the
steps of a round are used up, the worker whose move it is gets interrupted. The next worker that
can move goes before it, as a rule with another job, and then the interrupted one goes on. It
keeps its place among those who wait for room in its channel.

The order never decides whether there is a move, only whose it is: `nextMove?_eq_none_iff` says
that one is found exactly where some worker can move. `settle` makes moves until there is none,
and so no worker can move afterwards, which is `settled_settle`.
-/

namespace Attribution

namespace Limits

/-- The size up to which a pool is small. -/
def smallPool : Nat := 30

/-- The number of steps in a round of a large pool. -/
def roundLength : Nat := 128

end Limits

namespace Move

/-- The steps that a move takes in a large pool: one for a record, and two for a job, since the
worker has to come to the queue first. -/
def steps : Move → Nat
  | .join => 0
  | .take _ _ => 2
  | .conclude _ _ => 1
  | .leave => 2

end Move

/-- Who is moving, and for how long. -/
structure Round where
  /-- The worker that moved last. -/
  current : Nat := 0
  /-- The steps that are left. -/
  steps : Nat := Limits.roundLength
  /-- The workers that were interrupted, in the order in which they go on. -/
  interrupted : List Nat := []

namespace Delivery

/-! ### Looking for a move -/

/-- The first worker that can move, with its move, among as many as given from `i` on. -/
def findMove? (delivery : Delivery) (i : Nat) : Nat → Option (Nat × Move)
  | 0 => none
  | count + 1 =>
    match delivery.move? i with
    | some move => some (i, move)
    | none => delivery.findMove? (i + 1) count

/-- The next worker that can move, with its move. The workers are looked at from the given one
on, and then from the first. -/
def findMoveFrom? (delivery : Delivery) (start : Nat) : Option (Nat × Move) :=
  match delivery.findMove? start (delivery.workers.size - start) with
  | some found => some found
  | none => delivery.findMove? 0 start

/-- The first of the given workers that can move, with its move and those that come after it. -/
def firstMove? (delivery : Delivery) : List Nat → Option (Nat × Move × List Nat)
  | [] => none
  | i :: others =>
    match delivery.move? i with
    | some move => some (i, move, others)
    | none => delivery.firstMove? others

theorem move?_eq_none_of_size_le {delivery : Delivery} {i : Nat}
    (h : delivery.workers.size ≤ i) : delivery.move? i = none := by
  have nobody : delivery.workers[i]? = none := by simp [h]
  simp [move?, nobody]

theorem move?_of_findMove? {delivery : Delivery} {i count j : Nat} {move : Move}
    (h : delivery.findMove? i count = some (j, move)) : delivery.move? j = some move := by
  induction count generalizing i with
  | zero => simp [findMove?] at h
  | succ count ih =>
    rw [findMove?] at h
    split at h
    · rename_i found
      obtain ⟨rfl, rfl⟩ := Prod.mk.inj (Option.some.inj h)
      exact found
    · exact ih h

theorem findMove?_eq_none_iff {delivery : Delivery} {i count : Nat} :
    delivery.findMove? i count = none ↔ ∀ j, i ≤ j → j < i + count → delivery.move? j = none := by
  induction count generalizing i with
  | zero => simp [findMove?]; omega
  | succ count ih =>
    rw [findMove?]
    split
    · rename_i found
      simp only [reduceCtorEq, false_iff]
      intro h
      simp [h i (Nat.le_refl i) (by omega)] at found
    · rename_i found
      rw [ih]
      constructor
      · intro h j from_i before
        rcases Nat.eq_or_lt_of_le from_i with rfl | later
        · exact found
        · exact h j later (by omega)
      · exact fun h j from_i before => h j (by omega) (by omega)

theorem move?_of_findMoveFrom? {delivery : Delivery} {start i : Nat} {move : Move}
    (h : delivery.findMoveFrom? start = some (i, move)) : delivery.move? i = some move := by
  rw [findMoveFrom?] at h
  split at h
  · rename_i found
    cases h
    exact move?_of_findMove? found
  · exact move?_of_findMove? h

/-- Where no move is found, no worker can move, wherever the search began. -/
theorem findMoveFrom?_eq_none_iff {delivery : Delivery} {start : Nat} :
    delivery.findMoveFrom? start = none ↔ ∀ i, delivery.move? i = none := by
  rw [findMoveFrom?]
  split
  · rename_i found
    simp only [reduceCtorEq, false_iff]
    intro h
    have := move?_of_findMove? found
    simp [h] at this
  · rename_i later
    rw [findMove?_eq_none_iff] at later ⊢
    constructor
    · intro earlier i
      by_cases before : i < start
      · exact earlier i (Nat.zero_le i) (by omega)
      · by_cases inside : i < delivery.workers.size
        · exact later i (by omega) (by omega)
        · exact move?_eq_none_of_size_le (by omega)
    · exact fun h i _ _ => h i

theorem move?_of_firstMove? {delivery : Delivery} {candidates others : List Nat} {i : Nat}
    {move : Move} (h : delivery.firstMove? candidates = some (i, move, others)) :
    delivery.move? i = some move := by
  induction candidates with
  | nil => simp [firstMove?] at h
  | cons j candidates ih =>
    rw [firstMove?] at h
    split at h
    · rename_i found
      cases h
      exact found
    · exact ih h

/-! ### The order in a round -/

/-- What a move takes from a round. In a small pool that is nothing. -/
def cost (delivery : Delivery) (move : Move) : Nat :=
  if delivery.limits.poolSize ≤ Limits.smallPool then 0 else move.steps

/-- The worker that would move now, with its move and the interrupted ones after it. The worker
that moved last goes on, then those that were interrupted, then the others. -/
def candidate? (delivery : Delivery) (round : Round) : Option (Nat × Move × List Nat) :=
  match delivery.firstMove? (round.current :: round.interrupted) with
  | some found => some found
  | none => (delivery.findMoveFrom? round.current).map fun (i, move) => (i, move, [])

/-- The worker that moves now, with its move and the round after it. -/
def nextMove? (delivery : Delivery) (round : Round) : Option (Nat × Move × Round) :=
  match delivery.candidate? round with
  | none => none
  | some (i, move, interrupted) =>
    if delivery.cost move ≤ round.steps then
      some (i, move, ⟨i, round.steps - delivery.cost move, interrupted⟩)
    else
      (delivery.findMoveFrom? (i + 1)).map fun (j, move) =>
        (j, move, ⟨j, round.steps + Limits.roundLength - delivery.cost move, interrupted ++ [i]⟩)

theorem move?_of_candidate? {delivery : Delivery} {round : Round} {i : Nat} {move : Move}
    {interrupted : List Nat} (h : delivery.candidate? round = some (i, move, interrupted)) :
    delivery.move? i = some move := by
  rw [candidate?] at h
  split at h
  · rename_i found
    cases h
    exact move?_of_firstMove? found
  · obtain ⟨⟨j, other⟩, found, same⟩ := Option.map_eq_some_iff.1 h
    cases same
    exact move?_of_findMoveFrom? found

theorem candidate?_eq_none_iff {delivery : Delivery} {round : Round} :
    delivery.candidate? round = none ↔ ∀ i, delivery.move? i = none := by
  rw [candidate?]
  split
  · rename_i found
    simp only [reduceCtorEq, false_iff]
    intro h
    have := move?_of_firstMove? found
    simp [h] at this
  · rw [Option.map_eq_none_iff, findMoveFrom?_eq_none_iff]

theorem move?_of_nextMove? {delivery : Delivery} {round next : Round} {i : Nat} {move : Move}
    (h : delivery.nextMove? round = some (i, move, next)) : delivery.move? i = some move := by
  rw [nextMove?] at h
  split at h
  · simp at h
  · rename_i found
    split at h
    · cases h
      exact move?_of_candidate? found
    · obtain ⟨⟨j, other⟩, next, same⟩ := Option.map_eq_some_iff.1 h
      cases same
      exact move?_of_findMoveFrom? next

/-- Where no move is found, no worker can move, however far the round has come. -/
theorem nextMove?_eq_none_iff {delivery : Delivery} {round : Round} :
    delivery.nextMove? round = none ↔ ∀ i, delivery.move? i = none := by
  rw [nextMove?]
  split
  · rename_i nobody
    simp [candidate?_eq_none_iff.1 nobody]
  · rename_i i move interrupted found
    have possible := move?_of_candidate? found
    have somebody : ¬ ∀ i, delivery.move? i = none := fun h => by simp [h i] at possible
    split
    · simpa using somebody
    · rw [Option.map_eq_none_iff, findMoveFrom?_eq_none_iff]

/-! ### Settling -/

/-- Lets the workers move until none can, from the given point of a round on. The notices come
after those given, in the order of the moves. -/
def settleFrom (delivery : Delivery) (round : Round) (notices : Array Notice) :
    Delivery × Array Notice :=
  match h : delivery.nextMove? round with
  | none => (delivery, notices)
  | some (i, move, next) =>
    have : (delivery.make i move).work < delivery.work := work_make_lt (move?_of_nextMove? h)
    settleFrom (delivery.make i move) next (notices ++ move.notice?.toArray)
termination_by delivery.work

/-- Lets the workers do everything that they can at this moment. -/
def settle (delivery : Delivery) : Delivery × List Notice :=
  let settled := delivery.settleFrom {} #[]
  (settled.1, settled.2.toList)

/-- Whether no worker can move. -/
def Settled (delivery : Delivery) : Prop :=
  ∀ i, delivery.move? i = none

instance (delivery : Delivery) : Decidable delivery.Settled :=
  decidable_of_iff (∀ i < delivery.workers.size, delivery.move? i = none) <| by
    constructor
    · intro inside i
      by_cases there : i < delivery.workers.size
      · exact inside i there
      · exact move?_eq_none_of_size_le (Nat.not_lt.1 there)
    · exact fun h i _ => h i

theorem settleFrom_of_none {delivery : Delivery} {round : Round}
    (h : delivery.nextMove? round = none) (notices : Array Notice) :
    delivery.settleFrom round notices = (delivery, notices) := by
  rw [settleFrom]
  split <;> simp_all

theorem settleFrom_of_some {delivery : Delivery} {round next : Round} {i : Nat} {move : Move}
    (h : delivery.nextMove? round = some (i, move, next)) (notices : Array Notice) :
    delivery.settleFrom round notices =
      (delivery.make i move).settleFrom next (notices ++ move.notice?.toArray) := by
  rw [settleFrom]
  split <;> simp_all

/-- What is done does not depend on the notices given before, which stay in front. -/
theorem settleFrom_eq (delivery : Delivery) (round : Round) (notices : Array Notice) :
    delivery.settleFrom round notices =
      ((delivery.settleFrom round #[]).1, notices ++ (delivery.settleFrom round #[]).2) := by
  cases h : delivery.nextMove? round with
  | none => simp [settleFrom_of_none h]
  | some found =>
    obtain ⟨i, move, next⟩ := found
    have less : (delivery.make i move).work < delivery.work := work_make_lt (move?_of_nextMove? h)
    rw [settleFrom_of_some h notices, settleFrom_of_some h #[],
      settleFrom_eq (delivery.make i move) next (notices ++ move.notice?.toArray),
      settleFrom_eq (delivery.make i move) next (#[] ++ move.notice?.toArray)]
    simp [Array.append_assoc]
termination_by delivery.work

theorem settled_settleFrom (delivery : Delivery) (round : Round) (notices : Array Notice) :
    (delivery.settleFrom round notices).1.Settled := by
  fun_induction settleFrom delivery round notices with
  | case1 delivery round notices h => exact nextMove?_eq_none_iff.1 h
  | case2 delivery round notices i move next h less ih => exact ih

/-- After settling no worker can move. -/
theorem settled_settle (delivery : Delivery) : delivery.settle.1.Settled :=
  settled_settleFrom delivery {} #[]

/-- Settling has nothing to do where no worker can move. -/
theorem settle_of_settled {delivery : Delivery} (h : delivery.Settled) :
    delivery.settle = (delivery, []) := by
  simp [settle, settleFrom_of_none (nextMove?_eq_none_iff.2 h)]

theorem work_settleFrom_le (delivery : Delivery) (round : Round) (notices : Array Notice) :
    (delivery.settleFrom round notices).1.work ≤ delivery.work := by
  fun_induction settleFrom delivery round notices with
  | case1 => simp
  | case2 delivery round notices i move next h less ih =>
    exact Nat.le_trans ih (Nat.le_of_lt less)

/-- Where a worker can move, settling lessens the work. -/
theorem work_settle_lt {delivery : Delivery} {i : Nat} (h : (delivery.move? i).isSome) :
    delivery.settle.1.work < delivery.work := by
  cases found : delivery.nextMove? {} with
  | none => simp [nextMove?_eq_none_iff.1 found i] at h
  | some chosen =>
    obtain ⟨j, move, next⟩ := chosen
    have first := work_make_lt (move?_of_nextMove? found)
    have rest := work_settleFrom_le (delivery.make j move) next (#[] ++ move.notice?.toArray)
    simp only [settle, settleFrom_of_some found]
    omega

end Delivery

end Attribution
