/-!
# Padding to a width

Short texts are written into a field: first cut to a precision, then filled up to a width. Both
count Unicode scalars. A text that is as wide as the field or wider is not filled, so the width
never removes anything. Neither can be given beyond what sixteen bits hold. A layout is what is
asked for a text; it need not say everything, and it is refused where it asks for too much.
-/

namespace Attribution.Text

/-- Where the text stands in a field that is wider than it. -/
inductive Alignment where
  | left
  | right
  | center
  deriving DecidableEq

/-- How a text is fitted into a field. -/
structure Field where
  /-- The least number of characters written. -/
  width : Option Nat
  /-- The greatest number of characters kept of the text itself. -/
  precision : Option Nat
  /-- Where the text stands. -/
  alignment : Alignment
  /-- What the rest of the field is filled with. -/
  fill : Char
  deriving DecidableEq

namespace Field

/-- The field that leaves every text as it is. -/
def unbounded : Field := ⟨none, none, .left, ' '⟩

/-- The greatest width and the greatest precision that can be given. -/
def greatestExtent : Nat := 65535

/-- Whether the width and the precision can be given. -/
def isWithinLimits (field : Field) : Bool :=
  field.width.all (· ≤ greatestExtent) && field.precision.all (· ≤ greatestExtent)

/-- The part of the text that the precision keeps. -/
def cut (field : Field) (text : List Char) : List Char :=
  match field.precision with
  | none => text
  | some limit => text.take limit

/-- How much of a gap goes to the left of the text; in the centre the smaller half does. -/
def leading (field : Field) (gap : Nat) : Nat :=
  match field.alignment with
  | .left => 0
  | .right => gap
  | .center => gap / 2

/-- The text cut to the precision and filled to the width. -/
def fit (field : Field) (text : List Char) : List Char :=
  let kept := field.cut text
  let gap := field.width.getD 0 - kept.length
  let before := field.leading gap
  List.replicate before field.fill ++ kept ++ List.replicate (gap - before) field.fill

/-- The precision leaves as much of a text as it says, if there is as much. -/
theorem length_cut (field : Field) (text : List Char) :
    (field.cut text).length = field.precision.elim text.length (min · text.length) := by
  rw [cut]
  cases field.precision with
  | none => rfl
  | some limit => exact List.length_take

theorem cut_prefix (field : Field) (text : List Char) : field.cut text <+: text := by
  rw [cut]
  cases field.precision with
  | none => exact List.prefix_rfl
  | some limit => exact List.take_prefix limit text

theorem leading_le (field : Field) (gap : Nat) : field.leading gap ≤ gap := by
  rw [leading]
  split <;> omega

@[simp] theorem fit_unbounded (text : List Char) : unbounded.fit text = text := by
  simp [fit, unbounded, cut, leading]

/-- A field is filled exactly to its width, and never below the text. -/
theorem length_fit (field : Field) (text : List Char) :
    (field.fit text).length = max (field.width.getD 0) (field.cut text).length := by
  have := field.leading_le (field.width.getD 0 - (field.cut text).length)
  simp [fit]
  omega

end Field

/-- What is asked for a text. Everything but the fill character may be left open. -/
structure Layout where
  width : Option Nat
  precision : Option Nat
  alignment : Option Alignment
  fill : Char
  deriving DecidableEq

/-- Why nothing is written in the field that is asked for. -/
inductive LayoutError where
  /-- The width or the precision is beyond what can be given. -/
  | outOfRange
  deriving DecidableEq

/-- What is said of a layout that is refused. -/
def LayoutError.message : LayoutError → String
  | outOfRange => "Formatting argument out of range"

namespace Layout

/-- The field that is asked for; a text with no place of its own stands on the left. -/
def field (layout : Layout) : Field where
  width := layout.width
  precision := layout.precision
  alignment := layout.alignment.getD .left
  fill := layout.fill

/-- What is written of a value in the field that is asked for. Beyond the limits nothing is written
of any value. -/
def write (layout : Layout) (format : Field → String) : Except LayoutError String :=
  if layout.field.isWithinLimits then .ok (format layout.field) else .error .outOfRange

end Layout

end Attribution.Text
