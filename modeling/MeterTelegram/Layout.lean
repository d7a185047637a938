import MeterTelegram.Binary64.Numeral
import MeterTelegram.Counter
import MeterTelegram.MeterUnit

namespace MeterTelegram

/-! Payload layouts: where the fields of a reading stand behind the coding byte.
A layout is sound if its fields are wide enough, stand behind the coding byte
and do not overlap; `Layout.fault?` finds the first rule that is broken. -/

/-- Bytes of a payload. Offsets are counted from the coding byte. -/
structure Field where
  offset : Int := 0
  width : Int := 0
deriving DecidableEq, Repr

namespace Field

/-- Offsets are numbers of 32 bits. -/
def offsetRange : Nat := Nat.pow 2 32

/-- Sizes are counted in 64 bits. -/
def sizeRange : Nat := Nat.pow 2 64

/-- The offset behind the field. -/
def stop (field : Field) : Int :=
  (field.offset + field.width).bmod offsetRange

/-- Payload bytes needed to hold the field. -/
def reach (field : Field) : Nat :=
  if field.width = 0 then 0 else (field.stop % (sizeRange : Int)).toNat

def overlaps (left right : Field) : Bool :=
  left.offset < right.stop && right.offset < left.stop

end Field

inductive Role where
  | pastDate
  | pastConsumption
  | currentDate
  | currentConsumption
  | roomTemperature
  | radiatorTemperature
deriving DecidableEq, Repr

def Role.name : Role → Text
  | .pastDate => "past_date"
  | .pastConsumption => "past_consumption"
  | .currentDate => "current_date"
  | .currentConsumption => "current_consumption"
  | .roomTemperature => "room_temperature"
  | .radiatorTemperature => "radiator_temperature"

/-- The `codings` are the values of the coding byte for which the layout holds. -/
structure Layout where
  codings : List UInt8
  pastDate : Field := {}
  pastConsumption : Field := {}
  currentDate : Field := {}
  currentConsumption : Field := {}
  reportsTemperature : Bool := false
  roomTemperature : Field := {}
  radiatorTemperature : Field := {}
  unit : MeterUnit := .heatCost
  divisor : Binary64 := Binary64.ofNat 1
deriving DecidableEq, Repr

namespace Layout

def field (layout : Layout) : Role → Field
  | .pastDate => layout.pastDate
  | .pastConsumption => layout.pastConsumption
  | .currentDate => layout.currentDate
  | .currentConsumption => layout.currentConsumption
  | .roomTemperature => layout.roomTemperature
  | .radiatorTemperature => layout.radiatorTemperature

/-- The fields that are read. -/
def roles (layout : Layout) : List Role :=
  [.pastDate, .pastConsumption, .currentDate, .currentConsumption] ++
    if layout.reportsTemperature then [.roomTemperature, .radiatorTemperature] else []

def recognizes (layout : Layout) (coding : UInt8) : Bool :=
  layout.codings.contains coding

/-- Bytes from the coding byte up to the end of the last field. -/
def length (layout : Layout) : Nat :=
  (layout.roles.map (fun role => (layout.field role).reach)).foldl max 1

inductive Fault where
  | noCodings
  | divisor (divisor : Binary64)
  | unit (unit : MeterUnit)
  | unreportedTemperature
  | dateWidth
  | width (role : Role) (width : Int)
  | offset (role : Role) (offset : Int)
  | overlap (first second : Role)
deriving DecidableEq, Repr

def Fault.message : Fault → Text
  | .noCodings => "no coding bytes"
  | .divisor given => "consumption divisor " ++ given.briefText ++ " must be positive"
  | .unit given => "consumption unit " ++ given.fieldSuffix ++ " is not a consumption"
  | .unreportedTemperature => "temperature fields present but temperature is not reported"
  | .dateWidth => "dates must be 2 bytes wide"
  | .width role given => role.name ++ " has width " ++ Text.ofInt given
  | .offset role given => role.name ++ " has offset " ++ Text.ofInt given
  | .overlap first second => first.name ++ " overlaps " ++ second.name

def fieldFault? (layout : Layout) (role : Role) : Option Fault :=
  let field := layout.field role
  if field.width < 1 ∨ Counter.maxWidth < field.width then some (.width role field.width)
  else if field.offset < 1 then some (.offset role field.offset)
  else none

def overlapWith? (layout : Layout) (role : Role) (others : List Role) : Option Fault :=
  (others.find? (fun other => (layout.field role).overlaps (layout.field other))).map
    (Fault.overlap role)

def overlapAmong? (layout : Layout) : List Role → Option Fault
  | [] => none
  | role :: others => (layout.overlapWith? role others).or (layout.overlapAmong? others)

/-- The first rule the layout breaks. -/
def fault? (layout : Layout) : Option Fault :=
  if layout.codings.isEmpty then some .noCodings
  else if layout.divisor.isAtMostZero then some (.divisor layout.divisor)
  else if !layout.unit.countsConsumption then some (.unit layout.unit)
  else if !layout.reportsTemperature &&
      (layout.roomTemperature.width ≠ 0 || layout.radiatorTemperature.width ≠ 0) then
    some .unreportedTemperature
  else if layout.pastDate.width ≠ 2 || layout.currentDate.width ≠ 2 then some .dateWidth
  else (layout.roles.findSome? layout.fieldFault?).or (layout.overlapAmong? layout.roles)

def isConsistent (layout : Layout) : Bool :=
  layout.fault?.isNone

/-- A decoder that was given a layout which cannot be right. -/
structure Broken where
  decoder : Text
  cause : Fault
deriving DecidableEq, Repr

def Broken.message (broken : Broken) : Text :=
  "Internal error: decoder " ++ broken.decoder.shown ++ " has a broken layout: " ++
    broken.cause.message ++ "\n"

def verify (decoder : Text) (layout : Layout) : Except Broken PUnit :=
  match layout.fault? with
  | none => .ok ()
  | some cause => .error ⟨decoder, cause⟩

end Layout

end MeterTelegram
