import MeterTelegram.Proofs.Layout.Consistency

namespace MeterTelegram.Layout

/-! The check of a layout as it is carried out: rule after rule over a list of named fields, with
an explanation written where a rule is broken. It comes to what the first fault says. -/

/-- Goes on with what the caller holds, unless the check has ended. -/
def andThen (verdict : Bool × Text) (next : Text → Bool × Text) : Bool × Text :=
  match verdict with
  | (true, why) => next why
  | (false, why) => (false, why)

/-- Widths and offsets, field by field. -/
def checkPlaces (why : Text) : List (Text × Field) → Bool × Text
  | [] => (true, why)
  | (name, field) :: others =>
      if field.width < 1 ∨ Counter.maxWidth < field.width then
        (false, name ++ " has width " ++ Text.ofInt field.width)
      else if field.offset < 1 then
        (false, name ++ " has offset " ++ Text.ofInt field.offset)
      else checkPlaces why others

/-- A field against each of those behind it. -/
def checkAgainst (why name : Text) (field : Field) : List (Text × Field) → Bool × Text
  | [] => (true, why)
  | (other, behind) :: others =>
      if field.offset < behind.stop && behind.offset < field.stop then
        (false, name ++ " overlaps " ++ other)
      else checkAgainst why name field others

def checkApart (why : Text) : List (Text × Field) → Bool × Text
  | [] => (true, why)
  | (name, field) :: others =>
      andThen (checkAgainst why name field others) (fun why => checkApart why others)

def checkFields (layout : Layout) (why : Text) (fields : List (Text × Field)) : Bool × Text :=
  if layout.pastDate.width ≠ 2 || layout.currentDate.width ≠ 2 then
    (false, "dates must be 2 bytes wide")
  else andThen (checkPlaces why fields) (fun why => checkApart why fields)

/-- Says whether the layout is consistent, and writes an explanation in place of what the caller
holds if it is not. -/
def checkInto (layout : Layout) (why : Text) : Bool × Text :=
  if layout.codings.length = 0 then (false, "no coding bytes")
  else if layout.divisor.isAtMostZero then
    (false, "consumption divisor " ++ layout.divisor.briefText ++ " must be positive")
  else if !layout.unit.countsConsumption then
    (false, "consumption unit " ++ layout.unit.fieldSuffix ++ " is not a consumption")
  else
    let fields : List (Text × Field) :=
      [("past_date", layout.pastDate), ("past_consumption", layout.pastConsumption),
        ("current_date", layout.currentDate), ("current_consumption", layout.currentConsumption)]
    if layout.reportsTemperature then
      let temperatures : List (Text × Field) :=
        [("room_temperature", layout.roomTemperature),
          ("radiator_temperature", layout.radiatorTemperature)]
      layout.checkFields why (fields ++ temperatures)
    else if layout.roomTemperature.width ≠ 0 || layout.radiatorTemperature.width ≠ 0 then
      (false, "temperature fields present but temperature is not reported")
    else layout.checkFields why fields

variable {layout : Layout}

/-- What the caller holds once the first fault is known. -/
def explained (why : Text) : Option Fault → Bool × Text
  | none => (true, why)
  | some fault => (false, fault.message)

def named (layout : Layout) (role : Role) : Text × Field :=
  (role.name, layout.field role)

theorem explained_or (why : Text) (first second : Option Fault) :
    explained why (first.or second) =
      andThen (explained why first) (fun why => explained why second) := by
  cases first <;> rfl

theorem explained_of_rule (why : Text) {broken : Prop} [Decidable broken] (fault : Fault)
    (others : Option Fault) :
    explained why (if broken then some fault else others) =
      if broken then (false, fault.message) else explained why others := by
  split <;> rfl

theorem checkPlaces_eq (why : Text) (roles : List Role) :
    checkPlaces why (roles.map layout.named) =
      explained why (roles.findSome? layout.fieldFault?) := by
  induction roles with
  | nil => rfl
  | cons role others ih =>
      rw [List.map_cons, named, checkPlaces, ih, List.findSome?_cons, fieldFault?]
      split
      · rfl
      · split <;> rfl

theorem checkAgainst_eq (why : Text) (role : Role) (others : List Role) :
    checkAgainst why role.name (layout.field role) (others.map layout.named) =
      explained why (layout.overlapWith? role others) := by
  induction others with
  | nil => rfl
  | cons other others ih =>
      rw [List.map_cons, named, checkAgainst, ih, overlapWith?, overlapWith?, List.find?_cons,
        Field.overlaps]
      split
      · rename_i overlaps
        rw [overlaps]
        rfl
      · rename_i apart
        rw [Bool.eq_false_iff.mpr apart]

theorem checkApart_eq (why : Text) (roles : List Role) :
    checkApart why (roles.map layout.named) = explained why (layout.overlapAmong? roles) := by
  induction roles generalizing why with
  | nil => rfl
  | cons role others ih =>
      rw [overlapAmong?, explained_or, ← checkAgainst_eq]
      simp only [← ih]
      rfl

theorem checkFields_eq (layout : Layout) (why : Text) (roles : List Role) :
    layout.checkFields why (roles.map layout.named) =
      explained why (if layout.pastDate.width ≠ 2 || layout.currentDate.width ≠ 2 then
        some .dateWidth
      else (roles.findSome? layout.fieldFault?).or (layout.overlapAmong? roles)) := by
  rw [explained_of_rule, explained_or, ← checkPlaces_eq, checkFields]
  simp only [checkApart_eq]
  rfl

/-- The check stops at the first fault, with the text of that fault. -/
theorem checkInto_eq (layout : Layout) (why : Text) :
    layout.checkInto why = explained why layout.fault? := by
  rw [fault?, explained_of_rule, explained_of_rule, explained_of_rule, explained_of_rule,
    ← checkFields_eq, checkInto]
  have noCodings : layout.codings.length = 0 ↔ layout.codings.isEmpty = true := by
    rw [List.length_eq_zero_iff, List.isEmpty_iff]
  simp only [noCodings]
  cases reported : layout.reportsTemperature with
  | true =>
      have all : layout.roles = [.pastDate, .pastConsumption, .currentDate, .currentConsumption,
          .roomTemperature, .radiatorTemperature] := by
        rw [roles, reported]
        rfl
      simp only [Bool.not_true, Bool.false_and, Bool.false_eq_true, if_false, if_true, all]
      rfl
  | false =>
      have all : layout.roles =
          [.pastDate, .pastConsumption, .currentDate, .currentConsumption] := by
        rw [roles, reported]
        rfl
      simp only [Bool.not_false, Bool.true_and, Bool.false_eq_true, if_false, all]
      rfl

end MeterTelegram.Layout
