import Mathlib
import MeterTelegram.Proofs.Layout.Consistency

namespace MeterTelegram.Field

/-! The bytes of a field, and what the comparison of two fields and the size of a payload make of
a field that ends where offsets of 32 bits do not reach. -/

variable {field left right : Field}

/-- The bytes of a field. -/
def span (field : Field) : Set Int :=
  Set.Ico field.offset (field.offset + field.width)

/-- The field ends where offsets of 32 bits do not reach. -/
def Overruns (field : Field) : Prop :=
  Layout.greatestStop < field.offset + field.width

/-- A field that passes the checks of its own: it is wide enough and stands behind the coding
byte, at an offset of 32 bits. -/
structure Placed (field : Field) : Prop where
  width : 1 ≤ field.width ∧ field.width ≤ 4
  behindCoding : 1 ≤ field.offset
  offset : field.offset ≤ Layout.greatestStop

theorem Placed.stop (placed : field.Placed) (fits : ¬ field.Overruns) :
    field.stop = field.offset + field.width := by
  obtain ⟨⟨lower, _⟩, behind, _⟩ := placed
  exact Layout.stop_of_fits (by omega) (Int.not_lt.mp fits)

/-- The end of a field that overruns wraps below zero. -/
theorem Placed.stop_of_overruns (placed : field.Placed) (overruns : field.Overruns) :
    field.stop = field.offset + field.width - 4294967296 := by
  have range : offsetRange = 4294967296 := rfl
  obtain ⟨⟨_, upper⟩, _, offset⟩ := placed
  unfold Overruns at overruns
  unfold Layout.greatestStop at overruns offset
  rw [Field.stop, range, Int.bmod_def]
  split <;> omega

theorem Placed.stop_neg (placed : field.Placed) (overruns : field.Overruns) : field.stop < 0 := by
  have upper := placed.width.2
  have offset := placed.offset
  unfold Layout.greatestStop at offset
  rw [placed.stop_of_overruns overruns]
  omega

theorem disjoint_span_iff (left right : Field) (leftWidth : 1 ≤ left.width)
    (rightWidth : 1 ≤ right.width) :
    Disjoint left.span right.span ↔
      right.offset + right.width ≤ left.offset ∨ left.offset + left.width ≤ right.offset := by
  unfold span
  rw [Set.Ico_disjoint_Ico]
  omega

/-- The comparison of two fields sees every byte they share, unless one of them overruns. -/
theorem overlaps_eq_false (here : left.Placed) (there : right.Placed) :
    left.overlaps right = false ↔
      Disjoint left.span right.span ∨ left.Overruns ∨ right.Overruns := by
  rw [disjoint_span_iff left right here.width.1 there.width.1, overlaps, Bool.and_eq_false_iff,
    decide_eq_false_iff_not, decide_eq_false_iff_not, Int.not_lt, Int.not_lt]
  by_cases leftOverruns : left.Overruns
  · have wrapped := here.stop_neg leftOverruns
    have behind := there.behindCoding
    exact iff_of_true (.inr (by omega)) (.inr (.inl leftOverruns))
  · by_cases rightOverruns : right.Overruns
    · have wrapped := there.stop_neg rightOverruns
      have behind := here.behindCoding
      exact iff_of_true (.inl (by omega)) (.inr (.inr rightOverruns))
    · rw [here.stop leftOverruns, there.stop rightOverruns]
      simp only [leftOverruns, rightOverruns, or_false]

theorem Placed.reach (placed : field.Placed) (fits : ¬ field.Overruns) :
    (field.reach : Int) = field.offset + field.width := by
  have range : sizeRange = 18446744073709551616 := rfl
  have stop := placed.stop fits
  obtain ⟨⟨lower, _⟩, behind, _⟩ := placed
  unfold Overruns Layout.greatestStop at fits
  rw [Field.reach, if_neg (by omega), stop, range]
  omega

/-- Counted in 64 bits, an end that wrapped is out of proportion. -/
theorem Placed.lt_reach (placed : field.Placed) (overruns : field.Overruns) :
    4294967296 < (field.reach : Int) := by
  have range : sizeRange = 18446744073709551616 := rfl
  have stop := placed.stop_of_overruns overruns
  obtain ⟨⟨lower, upper⟩, _, offset⟩ := placed
  unfold Overruns at overruns
  unfold Layout.greatestStop at overruns offset
  rw [Field.reach, if_neg (by omega), stop, range]
  omega

theorem Placed.end_le_reach (placed : field.Placed) :
    field.offset + field.width ≤ (field.reach : Int) := by
  by_cases overruns : field.Overruns
  · have far := placed.lt_reach overruns
    have upper := placed.width.2
    have offset := placed.offset
    unfold Layout.greatestStop at offset
    omega
  · exact Int.le_of_eq (placed.reach overruns).symm

end MeterTelegram.Field
