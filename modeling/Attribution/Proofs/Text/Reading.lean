import Mathlib.Data.List.Forall2

/-!
# Reading part by part

A text is read by cutting it into parts, reading these one after the other, and giving up at the
first part that cannot be read. What such a reading succeeds on is put together from what its steps
succeed on.
-/

namespace Except

variable {ε α β : Type} {outcome : Except ε α} {next : α → Except ε β}

theorem bind_assoc {γ : Type} {last : β → Except ε γ} :
    (outcome.bind next).bind last = outcome.bind fun value => (next value).bind last := by
  cases outcome <;> rfl

theorem bind_eq_ok_iff {value : β} :
    outcome.bind next = .ok value ↔ ∃ first, outcome = .ok first ∧ next first = .ok value := by
  cases outcome <;> simp [Except.bind]

theorem bind_eq_error_iff {error : ε} :
    outcome.bind next = .error error ↔
      outcome = .error error ∨ ∃ first, outcome = .ok first ∧ next first = .error error := by
  cases outcome <;> simp [Except.bind]

theorem map_eq_ok_iff {f : α → β} {value : β} :
    outcome.map f = .ok value ↔ ∃ first, outcome = .ok first ∧ f first = value := by
  cases outcome <;> simp [Except.map]

/-- Where all that matters of a first value is what `g` sees of it, so it is for the outcome. -/
theorem map_bind_eq_ok_iff {γ δ : Type} {f : β → γ} {g : α → δ} {P : δ → Prop} {value : γ}
    (h : ∀ first, (next first).map f = .ok value ↔ P (g first)) :
    (outcome.bind next).map f = .ok value ↔ ∃ seen, outcome.map g = .ok seen ∧ P seen := by
  cases outcome with
  | error => simp [Except.bind, Except.map]
  | ok first => simpa [Except.bind, Except.map] using h first

end Except

namespace Attribution.Text

theorem mapM_eq_some_iff_forall₂ {α β : Type} {f : α → Option β} {R : α → β → Prop}
    (h : ∀ x y, f x = some y ↔ R x y) {xs : List α} {ys : List β} :
    xs.mapM f = some ys ↔ List.Forall₂ R xs ys := by
  induction xs generalizing ys with
  | nil => cases ys <;> simp
  | cons x more ih =>
    simp only [List.mapM_cons, bind, pure, Option.bind_eq_some_iff, h, ih,
      List.forall₂_cons_left_iff, Option.some.injEq]
    constructor
    · rintro ⟨y, related, others, all, rfl⟩
      exact ⟨y, others, related, all, rfl⟩
    · rintro ⟨y, others, related, all, rfl⟩
      exact ⟨y, related, others, all, rfl⟩

theorem not_mem_intercalate {c sep : Char} {parts : List (List Char)} (other : c ≠ sep)
    (apart : ∀ part ∈ parts, c ∉ part) : c ∉ [sep].intercalate parts := by
  induction parts with
  | nil => exact List.not_mem_nil
  | cons part more ih =>
    have later := ih fun rest there => apart rest (List.mem_cons_of_mem _ there)
    have first := apart part List.mem_cons_self
    cases more with
    | nil => rwa [List.intercalate_singleton]
    | cons next more =>
      rw [List.intercalate_cons_cons, List.mem_append, List.mem_append, List.mem_singleton]
      exact not_or.2 ⟨not_or.2 ⟨first, other⟩, later⟩

/-! ### Letters in either case -/

theorem toNat_toLower (c : Char) :
    c.toLower.toNat = if 65 ≤ c.toNat ∧ c.toNat ≤ 90 then c.toNat + 32 else c.toNat := by
  by_cases within : 65 ≤ c.toNat ∧ c.toNat ≤ 90
  · have capital : c.toLower.val = c.val + 32 := congrArg Char.val (dif_pos within)
    rw [if_pos within, Char.toNat, capital]
    refine (UInt32.toNat_add _ _).trans (Nat.mod_eq_of_lt ?_)
    change c.toNat + 32 < 2 ^ 32
    omega
  · have other : c.toLower = c := dif_neg within
    rw [if_neg within, other]

theorem toLower_eq_iff {c letter : Char} (h : letter.isLower = true) :
    c.toLower = letter ↔ c = letter ∨ c = letter.toUpper := by
  have range : 97 ≤ letter.toNat ∧ letter.toNat ≤ 122 := by
    have ⟨least, greatest⟩ := Bool.and_eq_true_iff.1 h
    exact ⟨of_decide_eq_true least, of_decide_eq_true greatest⟩
  -- Each small letter is 32 after its capital, which is what lowering adds.
  have all : ∀ code : Fin 128, (Char.ofNat code).isLower = true →
      (Char.ofNat code).toUpper.toNat + 32 = (Char.ofNat code).toNat := by
    decide
  have capital := all ⟨letter.toNat, by omega⟩
  rw [Char.ofNat_toNat] at capital
  have := capital h
  rw [← Char.toNat_inj, ← Char.toNat_inj, ← Char.toNat_inj, toNat_toLower]
  split <;> omega

theorem map_toLower_eq_iff {text letters : List Char}
    (lower : ∀ letter ∈ letters, letter.isLower = true) :
    text.map Char.toLower = letters ↔
      List.Forall₂ (fun c letter => c = letter ∨ c = letter.toUpper) text letters := by
  induction letters generalizing text with
  | nil => simp
  | cons letter more ih =>
    have ⟨first, rest⟩ := List.forall_mem_cons.1 lower
    cases text with
    | nil => simp
    | cons c text =>
      rw [List.map_cons, List.cons.injEq, toLower_eq_iff first, ih rest, List.forall₂_cons]

end Attribution.Text
