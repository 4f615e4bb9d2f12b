import Attribution.Delivery.Round

/-!
# The passing of time

Time matters to a delivery only through the deadlines of records that wait for room. So the
clock is moved from one deadline to the next, and the workers settle at each, before it comes to
rest at the time asked for. At every deadline at least one record meets its outcome, which is
why there is an end to them.
-/

namespace Attribution

namespace Worker

/-- When the worker gives up the record that it sends. -/
def deadline? : Worker → Option Nat
  | .sending current => some current.deadline
  | _ => none

end Worker

namespace Delivery

/-- The deadlines of the records that are on their way. -/
def deadlines (delivery : Delivery) : List Nat :=
  delivery.workers.toList.filterMap Worker.deadline?

/-- The deadlines that come no later than the given time. -/
def deadlinesUntil (delivery : Delivery) (time : Nat) : List Nat :=
  delivery.deadlines.filter (· ≤ time)

/-- Sets the clock; it is never set back. -/
def setClock (delivery : Delivery) (time : Nat) : Delivery :=
  { delivery with now := max delivery.now time }

/-- A record whose deadline has come does not wait. -/
theorem outcome?_isSome_of_deadline {delivery : Delivery} {current : Sending}
    (h : current.deadline ≤ delivery.now) : (delivery.outcome? current).isSome := by
  rw [outcome?]
  split
  · rfl
  · split
    · rfl
    · split
      · rfl
      · simp

theorem exists_move?_of_deadline {delivery : Delivery} {time : Nat}
    (h : time ∈ delivery.deadlines) :
    ∃ i, ((delivery.setClock time).move? i).isSome := by
  obtain ⟨worker, there, due⟩ := List.mem_filterMap.1 h
  obtain ⟨i, found⟩ := List.getElem?_of_mem there
  cases worker with
  | sending current =>
    simp only [Worker.deadline?, Option.some.injEq] at due
    subst due
    have at_i : (delivery.setClock current.deadline).workers[i]? = some (.sending current) := by
      simpa [setClock] using found
    refine ⟨i, ?_⟩
    simp only [move?, at_i, Option.isSome_map]
    exact outcome?_isSome_of_deadline (Nat.le_max_right _ _)
  | _ => simp [Worker.deadline?] at due

/-- At a deadline something happens. -/
theorem work_settle_setClock_lt {delivery : Delivery} {time : Nat}
    (h : time ∈ delivery.deadlines) :
    (delivery.setClock time).settle.1.work < delivery.work := by
  obtain ⟨_, possible⟩ := exists_move?_of_deadline h
  exact work_settle_lt possible

theorem mem_deadlines_of_min? {delivery : Delivery} {time first : Nat}
    (h : (delivery.deadlinesUntil time).min? = some first) :
    first ∈ delivery.deadlines :=
  (List.mem_filter.1 (List.min?_mem h)).1

/-- Lets time pass until the given moment, stopping at each deadline on the way. -/
def advanceTo (delivery : Delivery) (time : Nat) : Delivery × List Notice :=
  match h : (delivery.deadlinesUntil time).min? with
  | none => (delivery.setClock time, [])
  | some first =>
    have : (delivery.setClock first).settle.1.work < delivery.work :=
      work_settle_setClock_lt (mem_deadlines_of_min? h)
    let settled := (delivery.setClock first).settle
    let later := advanceTo settled.1 time
    (later.1, settled.2 ++ later.2)
termination_by delivery.work

theorem advanceTo_of_none {delivery : Delivery} {time : Nat}
    (h : (delivery.deadlinesUntil time).min? = none) :
    delivery.advanceTo time = (delivery.setClock time, []) := by
  rw [advanceTo]
  split <;> simp_all

theorem advanceTo_of_some {delivery : Delivery} {time first : Nat}
    (h : (delivery.deadlinesUntil time).min? = some first) :
    delivery.advanceTo time =
      (((delivery.setClock first).settle.1.advanceTo time).1,
        (delivery.setClock first).settle.2 ++
          ((delivery.setClock first).settle.1.advanceTo time).2) := by
  rw [advanceTo]
  split <;> simp_all

/-- Lets time pass. -/
def sleep (delivery : Delivery) (duration : Nat) : Delivery × List Notice :=
  delivery.advanceTo (delivery.now + duration)

end Delivery

end Attribution
