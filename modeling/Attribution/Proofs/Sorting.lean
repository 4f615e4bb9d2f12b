import Attribution.Proofs.Ranking
import Attribution.Proofs.Store.Lookup
import Mathlib.Data.List.Destutter

/-!
# Sorting

The comparisons are total orders in which only equal values compare equal, so that there is one
strictly ascending list of the values of any list. Sorting in any way, stable or not, and dropping
what repeats its predecessor comes to this list.
-/

namespace Attribution

/-- The comparison is a total order, and there is one way to list values in it. -/
structure LawfulOrder (α : Type) [Ord α] [Std.TransOrd α] [DecidableEq α] : Prop where
  eq_iff (x y : α) : compare x y = .eq ↔ x = y
  swap (x y : α) : compare y x = (compare x y).swap
  total (x y : α) : (compare x y).isLE ∨ (compare y x).isLE
  antisymm (x y : α) : (compare x y).isLE → (compare y x).isLE → x = y
  trans (x y z : α) : (compare x y).isLE → (compare y z).isLE → (compare x z).isLE
  /-- The ascending list is the only strictly ascending one with the same elements. -/
  lists_iff (values sorted : List α) : Lists (· ∈ values) sorted ↔ sorted = ascending values
  /-- Neither the order of a list nor its repetitions leave a trace. -/
  ascending_congr (values other : List α) :
    (∀ x, x ∈ values ↔ x ∈ other) → ascending values = ascending other
  /-- However a list is sorted, it is the ascending one once repetitions are dropped. -/
  destutter_sorted (values sorted : List α) : sorted.Perm values →
    sorted.Pairwise (fun x y => (compare x y).isLE) → sorted.destutter (· ≠ ·) = ascending values

/-! ### One ascending list -/

section Lists

variable {α : Type} [Ord α] [Std.TransOrd α] {property : α → Prop} {values other : List α}

theorem Lists.unique (h : Lists property values) (h' : Lists property other) : values = other := by
  refine List.Perm.eq_of_pairwise ?_ h.ascending h'.ascending ?_
  · intro x y _ _ before after
    rw [Std.OrientedCmp.gt_of_lt after] at before
    cases before
  · exact (List.perm_ext_iff_of_nodup h.nodup h'.nodup).2 fun x =>
      (h.mem_iff x).trans (h'.mem_iff x).symm

end Lists

/-! ### Dropping repetitions -/

section Destutter

variable {α : Type} [DecidableEq α]

/-- Nothing but repetitions is dropped. -/
theorem mem_destutter'_ne {x first : α} {rest : List α} :
    x ∈ rest.destutter' (· ≠ ·) first ↔ x ∈ first :: rest := by
  induction rest generalizing first with
  | nil => rfl
  | cons y rest ih =>
    by_cases h : first ≠ y
    · rw [List.destutter'_cons_pos _ h, List.mem_cons, ih, List.mem_cons (a := x) (b := first)]
    · obtain rfl := not_ne_iff.1 h
      rw [List.destutter'_cons_neg _ h, ih]
      simp

theorem mem_destutter_ne {x : α} {values : List α} :
    x ∈ values.destutter (· ≠ ·) ↔ x ∈ values := by
  cases values with
  | nil => rfl
  | cons first rest => exact mem_destutter'_ne

end Destutter

section Sorted

variable {α : Type} [Ord α] [Std.TransOrd α] [Std.LawfulEqOrd α]

theorem pairwise_lt_of_isChain_ne {values : List α}
    (sorted : values.Pairwise fun x y => (compare x y).isLE) (chain : values.IsChain (· ≠ ·)) :
    values.Pairwise fun x y => compare x y = .lt := by
  induction values with
  | nil => exact .nil
  | cons x rest ih =>
    have after := ih sorted.of_cons chain.of_cons
    refine .cons ?_ after
    cases rest with
    | nil => simp
    | cons y rest =>
      have distinct : x ≠ y := (List.isChain_cons_cons.1 chain).1
      have next : compare x y = .lt := by
        rcases Ordering.isLE_iff_eq_lt_or_eq_eq.1 (List.rel_of_pairwise_cons sorted
          List.mem_cons_self) with less | equal
        · exact less
        · exact absurd (Std.LawfulEqOrd.eq_of_compare equal) distinct
      intro z later
      rcases List.mem_cons.1 later with rfl | later
      · exact next
      · exact Std.TransCmp.lt_trans next (List.rel_of_pairwise_cons after later)

theorem lists_destutter [DecidableEq α] {values : List α}
    (sorted : values.Pairwise fun x y => (compare x y).isLE) :
    Lists (· ∈ values) (values.destutter (· ≠ ·)) where
  ascending := pairwise_lt_of_isChain_ne (sorted.sublist (List.destutter_sublist _ values))
    (List.isChain_destutter _ values)
  mem_iff _ := mem_destutter_ne

end Sorted

/-! ### The orders -/

theorem lawfulOrder (α : Type) [Ord α] [Std.TransOrd α] [Std.LawfulEqOrd α] [DecidableEq α] :
    LawfulOrder α where
  eq_iff _ _ := Std.LawfulEqOrd.compare_eq_iff_eq
  swap _ _ := Std.OrientedOrd.eq_swap
  total x y := by
    rw [Std.OrientedOrd.eq_swap (a := y)]
    cases compare x y <;> decide
  antisymm _ _ le ge := Std.LawfulEqOrd.eq_of_compare (Std.OrientedCmp.isLE_antisymm le ge)
  trans _ _ _ := Std.TransOrd.isLE_trans
  lists_iff values sorted := by
    constructor
    · intro h
      exact h.unique (lists_ascending values)
    · rintro rfl
      exact lists_ascending values
  ascending_congr values other same :=
    ((lists_ascending values).congr same).unique (lists_ascending other)
  destutter_sorted values sorted perm pairwise :=
    ((lists_destutter pairwise).congr fun _ => perm.mem_iff).unique (lists_ascending values)

/-- The orders are lawful, and what they are can be read off the keys. Bytes and scalar values of
texts compare alike. -/
theorem orders_canonical :
    (LawfulOrder Endpoint ∧ Ranks Endpoint.key) ∧
    (LawfulOrder Protocol ∧ Ranks Protocol.rank) ∧
    (LawfulOrder Target ∧ Ranks Target.key) ∧
    (LawfulOrder DeploymentId ∧ RanksText DeploymentId.text) ∧
    (LawfulOrder ContainerId ∧ RanksText ContainerId.text) ∧
    (LawfulOrder Entity ∧ RanksText fun entity : Entity => entity.deploymentId.text) ∧
    (LawfulOrder String ∧ RanksText fun text : String => text) ∧
    ∀ (s t : String) (answer : Ordering),
      answer.Compares (Text.bytes s) (Text.bytes t) ↔
        answer.Compares (Text.scalars s) (Text.scalars t) := by
  refine ⟨⟨lawfulOrder _, Endpoint.ranks_key⟩, ⟨lawfulOrder _, Protocol.ranks_rank⟩,
    ⟨lawfulOrder _, Target.ranks_key⟩, ⟨lawfulOrder _, ranksText DeploymentId.compare_def⟩,
    ⟨lawfulOrder _, ranksText ContainerId.compare_def⟩,
    ⟨lawfulOrder _, ranksText fun x y => ?_⟩, ⟨lawfulOrder _, ranksText fun _ _ => rfl⟩, ?_⟩
  · rw [Entity.compare_def, DeploymentId.compare_def]
  · intro s t answer
    rw [Text.bytes_strictMono.compares, Text.scalars_strictMono.compares]

end Attribution
