import Attribution.Endpoint
import Attribution.Identity

/-!
# Texts in fields

What is written of a name or an identifier has three parts: the beginning of its text, as far as the
precision leaves it, and fill characters before and after it. All of them are counted in scalar
values. An endpoint is put together from texts of its own, and none of what is asked for it reaches
them. A width or a precision beyond sixteen bits cannot be had at all.
-/

namespace Attribution

namespace Text.Layout

/-- Sixteen bits hold the width and the precision that are asked for. -/
structure IsGranted (layout : Layout) : Prop where
  width_le : ∀ width ∈ layout.width, width ≤ 65535
  precision_le : ∀ precision ∈ layout.precision, precision ≤ 65535

/-- How many scalar values of a text are left by the precision. -/
def keptLength (layout : Layout) (text : String) : Nat :=
  layout.precision.elim text.length (min · text.length)

/-- What stands before the text, what is kept of it, and what stands after it. -/
structure Parts (layout : Layout) (text : String) (before kept after : List Char) : Prop where
  kept_prefix : kept <+: text.toList
  length_kept : kept.length = layout.keptLength text
  filled : ∀ c ∈ before ++ after, c = layout.fill
  length_eq : before.length + kept.length + after.length = max (layout.width.getD 0) kept.length
  left : layout.alignment = none ∨ layout.alignment = some .left → before = []
  right : layout.alignment = some .right → after = []
  center : layout.alignment = some .center →
    before.length ≤ after.length ∧ after.length ≤ before.length + 1

/-- Something is written for a value with the given text, and it is as the layout asks. -/
structure Governs (layout : Layout) (text : String) (format : Field → String) : Prop where
  exists_parts : ∃ before kept after,
    layout.write format = .ok (String.ofList (before ++ kept ++ after)) ∧
      layout.Parts text before kept after
  /-- Where there is nothing to fill, it does not matter where the text is to stand. -/
  aligned : layout.width.getD 0 ≤ layout.keptLength text → ∀ alignment,
    ({ layout with alignment } : Layout).write format = layout.write format

variable {layout : Layout} {format : Field → String} {text : String}

theorem isWithinLimits_iff : layout.field.isWithinLimits = true ↔ layout.IsGranted := by
  have all (measure : Option Nat) :
      measure.all (· ≤ Field.greatestExtent) = true ↔ ∀ extent ∈ measure, extent ≤ 65535 := by
    simp only [Option.all_eq_true, decide_eq_true_eq]
    rfl
  rw [Field.isWithinLimits, Bool.and_eq_true, all, all]
  exact ⟨fun ⟨width, precision⟩ => ⟨width, precision⟩, fun h => ⟨h.width_le, h.precision_le⟩⟩

theorem write_of_isGranted (granted : layout.IsGranted) :
    layout.write format = .ok (format layout.field) :=
  if_pos (isWithinLimits_iff.2 granted)

theorem write_of_not_isGranted (refused : ¬ layout.IsGranted) :
    layout.write format = .error .outOfRange :=
  if_neg fun within => refused (isWithinLimits_iff.1 within)

/-- Where nothing is written nothing is as the layout asks. -/
theorem Governs.isGranted (h : layout.Governs text format) : layout.IsGranted := by
  obtain ⟨_, _, _, written, -⟩ := h.exists_parts
  by_cases granted : layout.IsGranted
  · exact granted
  · rw [write_of_not_isGranted granted] at written
    cases written

theorem length_cut_field : (layout.field.cut text.toList).length = layout.keptLength text := by
  rw [Field.length_cut, String.length_toList]
  rfl

/-- A text fitted into the field consists of the parts that are asked for. -/
theorem exists_parts_fit (layout : Layout) (text : String) : ∃ before kept after,
    layout.field.fit text.toList = before ++ kept ++ after ∧
      layout.Parts text before kept after := by
  let kept := layout.field.cut text.toList
  let gap := layout.width.getD 0 - kept.length
  let leading := layout.field.leading gap
  refine ⟨.replicate leading layout.fill, kept, .replicate (gap - leading) layout.fill, rfl, ?_⟩
  exact {
    kept_prefix := layout.field.cut_prefix text.toList
    length_kept := length_cut_field
    filled c there := by
      rcases List.mem_append.1 there with before | after
      · exact List.eq_of_mem_replicate before
      · exact List.eq_of_mem_replicate after
    length_eq := by
      rw [← List.length_append, ← List.length_append]
      exact layout.field.length_fit text.toList
    left place := by
      have start : leading = 0 := by
        rcases place with place | place <;> simp [leading, field, Field.leading, place]
      rw [start, List.replicate_zero]
    right place := by
      have whole : leading = gap := by
        simp [leading, field, Field.leading, place]
      rw [whole, Nat.sub_self, List.replicate_zero]
    center place := by
      have half : leading = gap / 2 := by
        simp [leading, field, Field.leading, place]
      rw [List.length_replicate, List.length_replicate]
      omega }

variable (fits : ∀ field, format field = String.ofList (field.fit text.toList))
include fits

/-- A text that fills its field is written as it was cut. -/
theorem write_of_le (granted : layout.IsGranted)
    (full : layout.width.getD 0 ≤ layout.keptLength text) :
    layout.write format = .ok (String.ofList (layout.field.cut text.toList)) := by
  have no_gap : layout.field.width.getD 0 - (layout.field.cut text.toList).length = 0 :=
    Nat.sub_eq_zero_of_le (length_cut_field.symm ▸ full)
  have nothing : layout.field.leading 0 = 0 := Nat.le_zero.1 (layout.field.leading_le 0)
  rw [write_of_isGranted granted, fits]
  simp only [Field.fit, no_gap, nothing, Nat.sub_zero, List.replicate_zero, List.nil_append,
    List.append_nil]

/-- What is written by fitting a text into the field is as the layout asks. -/
theorem governs (granted : layout.IsGranted) : layout.Governs text format where
  exists_parts := by
    obtain ⟨before, kept, after, fit, parts⟩ := exists_parts_fit layout text
    refine ⟨before, kept, after, ?_, parts⟩
    rw [write_of_isGranted granted, fits, fit]
  aligned full alignment := by
    have same : ({ layout with alignment } : Layout).IsGranted :=
      ⟨granted.width_le, granted.precision_le⟩
    exact (write_of_le fits same full).trans (write_of_le fits granted full).symm

end Text.Layout

open Text

theorem Endpoint.text_eq (endpoint : Endpoint) :
    endpoint.text =
      endpoint.socketAddress.text ++ "/" ++ endpoint.protocol.format Field.unbounded := by
  rw [text, SocketAddress.text, Protocol.format, Field.fit_unbounded, ← String.toList_inj]
  simp [chars]

/-- Within the limits the names of protocols and the identifiers are written as the layout asks, and
of an endpoint its two parts are written in full, whatever the layout. Beyond the limits nothing is
written, and it is said that the layout is out of range. -/
theorem written_as_laid_out (layout : Layout) :
    (layout.IsGranted →
      (∀ protocol : Protocol, layout.Governs protocol.text (Protocol.format · protocol)) ∧
      (∀ id : DeploymentId, layout.Governs id.text (DeploymentId.format · id)) ∧
      (∀ id : ContainerId, layout.Governs id.text (ContainerId.format · id)) ∧
      ∀ endpoint : Endpoint, layout.write (Endpoint.format · endpoint) =
        .ok (endpoint.socketAddress.text ++ "/" ++ endpoint.protocol.format Field.unbounded)) ∧
    (¬ layout.IsGranted → ∀ format, (layout.write format).mapError LayoutError.message =
      .error "Formatting argument out of range") := by
  refine ⟨fun granted => ⟨fun protocol => ?_, fun id => ?_, fun id => ?_, fun endpoint => ?_⟩,
    fun refused format => by rw [Layout.write_of_not_isGranted refused]; rfl⟩
  · refine Layout.governs (fun field => ?_) granted
    rw [Protocol.format, Protocol.text, String.toList_ofList]
  · exact Layout.governs (fun _ => rfl) granted
  · exact Layout.governs (fun _ => rfl) granted
  · rw [Layout.write_of_isGranted granted, Endpoint.format, endpoint.text_eq]

/-- The gap of five goes around the four scalar values that are kept, the smaller half before them.
A field that is one wider than sixteen bits can say is refused. -/
theorem written_as_laid_out_centred :
    let layout : Layout := ⟨some 9, some 4, some .center, '*'⟩
    let wide : Layout := ⟨some 65536, none, none, ' '⟩
    let id : DeploymentId := ⟨"zürich"⟩
    layout.IsGranted ∧ layout.Governs "zürich" (DeploymentId.format · id) ∧
      layout.write (DeploymentId.format · id) = .ok "**züri***" ∧
      ¬ wide.IsGranted ∧ (wide.write (DeploymentId.format · id)).mapError LayoutError.message =
        .error "Formatting argument out of range" := by
  intro layout wide id
  have granted : layout.IsGranted := Layout.isWithinLimits_iff.1 (by decide)
  have refused : ¬ wide.IsGranted := fun granted =>
    absurd (granted.width_le 65536 rfl) (by decide)
  have written : layout.write (DeploymentId.format · id) = .ok "**züri***" :=
    (Layout.write_of_isGranted granted).trans (congrArg Except.ok (by decide +kernel))
  obtain ⟨-, governs, -, -⟩ := (written_as_laid_out layout).1 granted
  exact ⟨granted, governs id, written, refused, (written_as_laid_out wide).2 refused _⟩

/-- Not every layout governs what is written, as there is nothing written beyond the limits: neither
for a width nor for a precision, and not even where the layout does not matter otherwise. -/
theorem not_written_beyond_limits :
    let wide : Layout := ⟨some 65536, none, none, ' '⟩
    let precise : Layout := ⟨none, some 65536, none, ' '⟩
    let plain : Layout := ⟨none, none, none, ' '⟩
    let endpoint : Endpoint := .tcp (.v4 (.of 10 0 0 5)) 80
    ¬ wide.Governs Protocol.udp.text (Protocol.format · .udp) ∧
      ¬ precise.Governs Protocol.udp.text (Protocol.format · .udp) ∧
      wide.write (Endpoint.format · endpoint) ≠ plain.write (Endpoint.format · endpoint) := by
  intro wide precise plain endpoint
  have no_width : ¬ wide.IsGranted := fun granted =>
    absurd (granted.width_le 65536 rfl) (by decide)
  have no_precision : ¬ precise.IsGranted := fun granted =>
    absurd (granted.precision_le 65536 rfl) (by decide)
  refine ⟨fun governs => no_width governs.isGranted,
    fun governs => no_precision governs.isGranted, ?_⟩
  rw [Layout.write_of_not_isGranted no_width]
  exact nofun

end Attribution
