import MeterTelegram.Layout
import MeterTelegram.Proofs.Counter

namespace MeterTelegram.Layout

/-! What the check of a layout guarantees: fields of allowed widths behind the
coding byte that stay apart from each other, all of them within `Layout.length`. -/

variable {layout : Layout} {role : Role} {bound : Nat}

/-- The rules of a layout, without the order in which they are checked. -/
structure Sound (layout : Layout) : Prop where
  codings : layout.codings ≠ []
  divisor : layout.divisor.isAtMostZero = false
  countsConsumption : layout.unit.countsConsumption = true
  unreported : layout.reportsTemperature = false →
    layout.roomTemperature.width = 0 ∧ layout.radiatorTemperature.width = 0
  pastDate : layout.pastDate.width = 2
  currentDate : layout.currentDate.width = 2
  allowed : ∀ role ∈ layout.roles, Counter.Allowed (layout.field role).width
  behindCoding : ∀ role ∈ layout.roles, 1 ≤ (layout.field role).offset
  apart : layout.roles.Pairwise fun first second =>
    (layout.field first).overlaps (layout.field second) = false

/-- A rule checked before others finds no fault if it holds and the others find none. -/
theorem rule_eq_none {broken : Prop} [Decidable broken] {fault : Fault} {others : Option Fault} :
    (if broken then some fault else others) = none ↔ ¬ broken ∧ others = none := by
  by_cases holds : broken
  · simp [holds]
  · simp [holds]

theorem fieldFault?_eq_none :
    layout.fieldFault? role = none ↔
      Counter.Allowed (layout.field role).width ∧ 1 ≤ (layout.field role).offset := by
  unfold fieldFault? Counter.Allowed
  rw [rule_eq_none, rule_eq_none, eq_self, and_true]
  omega

theorem overlapWith?_eq_none {others : List Role} :
    layout.overlapWith? role others = none ↔
      ∀ other ∈ others, (layout.field role).overlaps (layout.field other) = false := by
  simp only [overlapWith?, Option.map_eq_none_iff, List.find?_eq_none, Bool.not_eq_true]

theorem overlapAmong?_eq_none {roles : List Role} :
    layout.overlapAmong? roles = none ↔
      roles.Pairwise fun first second =>
        (layout.field first).overlaps (layout.field second) = false := by
  induction roles with
  | nil => exact ⟨fun _ => List.Pairwise.nil, fun _ => rfl⟩
  | cons role others ih =>
      rw [overlapAmong?, Option.or_eq_none_iff, overlapWith?_eq_none, ih, List.pairwise_cons]

/-- The check accepts the sound layouts and no others. -/
theorem isConsistent_iff_sound : layout.isConsistent = true ↔ layout.Sound := by
  unfold isConsistent fault?
  rw [Option.isNone_iff_eq_none, rule_eq_none, rule_eq_none, rule_eq_none, rule_eq_none,
    rule_eq_none, Option.or_eq_none_iff, List.findSome?_eq_none_iff, overlapAmong?_eq_none]
  constructor
  · rintro ⟨codings, divisor, unit, unreported, dates, fields, apart⟩
    simp only [Bool.or_eq_true, decide_eq_true_eq, not_or, Decidable.not_not] at dates
    exact
      { codings := fun empty => codings (by rw [empty]; rfl)
        divisor := Bool.eq_false_iff.mpr divisor
        countsConsumption := by simpa using unit
        unreported := fun without => by simpa [without] using unreported
        pastDate := dates.1
        currentDate := dates.2
        allowed := fun role member => (fieldFault?_eq_none.mp (fields role member)).1
        behindCoding := fun role member => (fieldFault?_eq_none.mp (fields role member)).2
        apart }
  · intro sound
    refine ⟨?_, Bool.eq_false_iff.mp sound.divisor, ?_, ?_, ?_, ?_, sound.apart⟩
    · rw [List.isEmpty_iff]
      exact sound.codings
    · simp only [sound.countsConsumption, Bool.not_true, Bool.false_eq_true, not_false_eq_true]
    · intro broken
      simp only [Bool.and_eq_true, Bool.not_eq_true', Bool.or_eq_true, decide_eq_true_eq] at broken
      obtain ⟨without, room | radiator⟩ := broken
      · exact room (sound.unreported without).1
      · exact radiator (sound.unreported without).2
    · simp only [sound.pastDate, sound.currentDate, ne_eq, not_true_eq_false, decide_false,
        Bool.or_self, Bool.false_eq_true, not_false_eq_true]
    · intro role member
      exact fieldFault?_eq_none.mpr ⟨sound.allowed role member, sound.behindCoding role member⟩

def greatestStop : Int := 2147483647

/-- The end of every field that is read can be counted in 32 bits. -/
def EndsFit (layout : Layout) : Prop :=
  ∀ role ∈ layout.roles, (layout.field role).offset + (layout.field role).width ≤ greatestStop

instance : Decidable layout.EndsFit :=
  inferInstanceAs (Decidable (∀ role ∈ layout.roles, _))

structure Readable (layout : Layout) : Prop extends layout.Sound where
  endsFit : layout.EndsFit

theorem readable_of_isConsistent (consistent : layout.isConsistent = true)
    (endsFit : layout.EndsFit) : layout.Readable :=
  ⟨isConsistent_iff_sound.mp consistent, endsFit⟩

theorem Readable.isConsistent (readable : layout.Readable) : layout.isConsistent = true :=
  isConsistent_iff_sound.mpr readable.toSound

theorem stop_of_fits {field : Field} (lower : 0 ≤ field.offset + field.width)
    (fits : field.offset + field.width ≤ greatestStop) :
    field.stop = field.offset + field.width := by
  have range : Field.offsetRange = 4294967296 := rfl
  unfold greatestStop at fits
  rw [Field.stop, range]
  exact Int.bmod_eq_of_le_mul_two (by omega) (by omega)

theorem Readable.stop (readable : layout.Readable) (member : role ∈ layout.roles) :
    (layout.field role).stop = (layout.field role).offset + (layout.field role).width := by
  have width := (readable.allowed role member).1
  have offset := readable.behindCoding role member
  exact stop_of_fits (by omega) (readable.endsFit role member)

theorem Readable.reach (readable : layout.Readable) (member : role ∈ layout.roles) :
    (layout.field role).reach =
      (layout.field role).offset.toNat + (layout.field role).width.toNat := by
  have width := (readable.allowed role member).1
  have offset := readable.behindCoding role member
  have fits := readable.endsFit role member
  have range : Field.sizeRange = 18446744073709551616 := rfl
  unfold greatestStop at fits
  rw [Field.reach, if_neg (by omega), readable.stop member, range]
  omega

theorem length_le_iff :
    layout.length ≤ bound ↔
      1 ≤ bound ∧ ∀ role ∈ layout.roles, (layout.field role).reach ≤ bound := by
  have greatest : (1 :: layout.roles.map fun role => (layout.field role).reach).max? =
      some layout.length := rfl
  rw [List.max?_le_iff greatest, List.forall_mem_cons, List.forall_mem_map]

/-- Fields that stay apart in a layout stay apart wherever a payload starts. -/
theorem Readable.pairwise_apart (readable : layout.Readable) :
    layout.roles.Pairwise fun first second =>
      (layout.field first).offset + (layout.field first).width ≤ (layout.field second).offset ∨
        (layout.field second).offset + (layout.field second).width ≤
          (layout.field first).offset := by
  refine readable.apart.imp_of_mem fun {first second} firstMember secondMember apart => ?_
  rw [Field.overlaps, readable.stop firstMember, readable.stop secondMember] at apart
  simp only [Bool.and_eq_false_iff, decide_eq_false_iff_not] at apart
  omega

end MeterTelegram.Layout
