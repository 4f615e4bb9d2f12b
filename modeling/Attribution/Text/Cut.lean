/-!
# Cutting text at a separator

Texts are read by cutting them in two, at the first occurrence of a separator or at the last one.
Both cuts are total and lose nothing: `cutFirst_eq_some_iff` and `cutLast_eq_some_iff` say which
two parts come out. The element type is left open, so that command-line arguments with undecodable
bytes are cut by the same functions as plain characters.
-/

namespace Attribution.Text

variable {α : Type u} [DecidableEq α]

/-- The parts before and after the first `sep`; nothing where `sep` does not occur. -/
def cutFirst (sep : α) : List α → Option (List α × List α)
  | [] => none
  | c :: rest =>
    if c = sep then some ([], rest)
    else (cutFirst sep rest).map fun parts => (c :: parts.1, parts.2)

/-- The parts before and after the last `sep`; nothing where `sep` does not occur. -/
def cutLast (sep : α) : List α → Option (List α × List α)
  | [] => none
  | c :: rest =>
    match cutLast sep rest with
    | some parts => some (c :: parts.1, parts.2)
    | none => if c = sep then some ([], rest) else none

theorem cutFirst_eq_none_iff {sep : α} {text : List α} : cutFirst sep text = none ↔ sep ∉ text := by
  induction text with
  | nil => simp [cutFirst]
  | cons c rest ih =>
    by_cases h : c = sep
    · simp [cutFirst, h]
    · simp [cutFirst, h, ih, Ne.symm h]

theorem cutFirst_eq_some_iff {sep : α} {text before after : List α} :
    cutFirst sep text = some (before, after) ↔ text = before ++ sep :: after ∧ sep ∉ before := by
  induction text generalizing before with
  | nil => simp [cutFirst]
  | cons c rest ih =>
    by_cases h : c = sep
    · cases before with
      | nil => simp [cutFirst, h, eq_comm]
      | cons b before =>
        simp only [cutFirst, h, if_true, Option.some.injEq, Prod.mk.injEq, reduceCtorEq, false_and,
          List.cons_append, List.cons.injEq, List.mem_cons, false_iff]
        rintro ⟨⟨rfl, -⟩, hb⟩
        exact hb (Or.inl rfl)
    · cases before with
      | nil => simp [cutFirst, h]
      | cons b before =>
        simp only [cutFirst, h, if_false, Option.map_eq_some_iff, Prod.mk.injEq, List.cons.injEq,
          Prod.exists, List.cons_append, List.mem_cons, not_or]
        constructor
        · rintro ⟨x, y, found, ⟨rfl, rfl⟩, rfl⟩
          have := ih.1 found
          exact ⟨⟨rfl, this.1⟩, Ne.symm h, this.2⟩
        · rintro ⟨⟨rfl, hrest⟩, -, hb⟩
          exact ⟨before, after, ih.2 ⟨hrest, hb⟩, ⟨rfl, rfl⟩, rfl⟩

theorem cutLast_eq_none_iff {sep : α} {text : List α} : cutLast sep text = none ↔ sep ∉ text := by
  induction text with
  | nil => simp [cutLast]
  | cons c rest ih =>
    cases hr : cutLast sep rest with
    | some parts =>
      have : sep ∈ rest := by
        by_cases hm : sep ∈ rest
        · exact hm
        · simp [ih.2 hm] at hr
      simp [cutLast, hr, this]
    | none =>
      have hm : sep ∉ rest := ih.1 hr
      by_cases h : c = sep
      · simp [cutLast, hr, h]
      · simp [cutLast, hr, h, hm, Ne.symm h]

theorem cutLast_eq_some_iff {sep : α} {text before after : List α} :
    cutLast sep text = some (before, after) ↔ text = before ++ sep :: after ∧ sep ∉ after := by
  induction text generalizing before with
  | nil => simp [cutLast]
  | cons c rest ih =>
    cases hr : cutLast sep rest with
    | some parts =>
      obtain ⟨x, y⟩ := parts
      have found := hr
      simp only [cutLast, hr, Option.some.injEq, Prod.mk.injEq]
      cases before with
      | nil =>
        have : sep ∈ rest := by
          by_cases hm : sep ∈ rest
          · exact hm
          · simp [cutLast_eq_none_iff.2 hm] at hr
        simp
        rintro rfl rfl
        exact this
      | cons b before =>
        simp only [List.cons.injEq, List.cons_append]
        constructor
        · rintro ⟨⟨rfl, rfl⟩, rfl⟩
          have := ih.1 found
          exact ⟨⟨rfl, this.1⟩, this.2⟩
        · rintro ⟨⟨rfl, hrest⟩, ha⟩
          have := ih.2 ⟨hrest, ha⟩
          rw [found] at this
          simp at this
          exact ⟨⟨rfl, this.1⟩, this.2⟩
    | none =>
      have hm : sep ∉ rest := cutLast_eq_none_iff.1 hr
      by_cases h : c = sep
      · simp only [cutLast, hr, h, if_true, Option.some.injEq, Prod.mk.injEq]
        cases before with
        | nil =>
          simp
          rintro rfl
          exact hm
        | cons b before =>
          simp
          rintro rfl rfl
          simp at hm
      · simp [cutLast, hr, h]
        cases before with
        | nil => simp [h]
        | cons b before =>
          simp
          rintro rfl rfl
          simp at hm

end Attribution.Text
