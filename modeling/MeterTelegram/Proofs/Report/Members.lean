import MeterTelegram.Report
import MeterTelegram.Proofs.Calendar
import MeterTelegram.Proofs.Catalogue.Decoded
import MeterTelegram.Proofs.Frame
import MeterTelegram.Proofs.Numeral

namespace MeterTelegram

/-! What goes into the JSON line of a decoded telegram. Nothing is escaped on the way: numbers
of devices, media, names and dates need no escapes, and no measurement is infinite. -/

open Json

variable {frame : Frame} {text : Text} {signal : Int}

namespace Hex

def isLowerDigit (byte : UInt8) : Bool :=
  48 ≤ byte && byte ≤ 57 || 97 ≤ byte && byte ≤ 102

theorem isLowerDigit_lowerDigit : ∀ value < 16, isLowerDigit (lowerDigit value) = true := by
  decide

theorem isLowerDigit_of_mem_lowerByte {byte digit : UInt8} (listed : digit ∈ lowerByte byte) :
    isLowerDigit digit = true := by
  have bound := byte.toNat_lt
  simp only [lowerByte, List.mem_cons, List.not_mem_nil, or_false] at listed
  rcases listed with rfl | rfl
  · exact isLowerDigit_lowerDigit _ (by omega)
  · exact isLowerDigit_lowerDigit _ (by omega)

theorem isPlainByte_of_isLowerDigit {byte : UInt8} (lower : isLowerDigit byte = true) :
    isPlainByte byte = true := by
  simp only [isLowerDigit, isPlainByte, Bool.or_eq_true, Bool.and_eq_true, decide_eq_true_eq,
    bne_iff_ne, ne_eq] at lower ⊢
  grind

end Hex

/-- The number of a device is written as two digits for each of its four bytes. -/
structure Address.Numbered (address : Address) : Prop where
  eightDigits : address.id.length = 8
  lowerCase : ∀ digit ∈ address.id, Hex.isLowerDigit digit = true

theorem Address.Numbered.isPlain {address : Address} (numbered : address.Numbered) :
    isPlain address.id = true :=
  List.all_eq_true.mpr fun digit listed =>
    Hex.isPlainByte_of_isLowerDigit (numbered.lowerCase digit listed)

theorem Address.numbered_of_ofBytes? {bytes : List UInt8} {address : Address}
    (found : ofBytes? bytes = some address) : address.Numbered := by
  unfold ofBytes? at found
  split at found
  · cases found
    refine ⟨rfl, fun digit listed => ?_⟩
    obtain ⟨byte, -, listed⟩ := List.mem_flatMap.mp listed
    exact Hex.isLowerDigit_of_mem_lowerByte listed
  · cases found

theorem Frame.numbered_of_receiveText (received : (receiveText text signal).outcome = .ok frame) :
    frame.address.Numbered := by
  obtain ⟨-, -, address, found, rfl⟩ := ofBytes_ok_iff.mp (ofBytes_of_receiveText received)
  unfold Address.read? at found
  split at found
  · cases found
  · exact Address.numbered_of_ofBytes? found

theorem Medium.isPlain_name (medium : Medium) : isPlain medium.name = true := by
  cases medium <;> decide +kernel

theorem Date.IsDashed.isPlain (dashed : Date.IsDashed text) : isPlain text = true := by
  obtain ⟨year, month, day, rfl, ⟨-, years⟩, ⟨-, months⟩, ⟨-, days⟩⟩ := dashed
  have dash : isPlain "-" = true := by decide +kernel
  simp only [isPlain_append, dash, isPlain_of_isDecimal years, isPlain_of_isDecimal months,
    isPlain_of_isDecimal days, Bool.and_self]

/-- Measurements that reports can hold: finite numbers and dates with a year of four digits. -/
inductive Measurement.Reportable : Measurement → Prop
  | scalar {value : Binary64} (unit : MeterUnit) (finite : value.IsFinite) :
      Reportable (.scalar value unit)
  | quantity {value : Binary64} (unit : MeterUnit) (finite : value.IsFinite) :
      Reportable (.quantity value unit)
  | integer (value : Int) : Reportable (.integer value)
  | dateTime {date : Date} (valid : date.isValid = true) (lower : 1000 ≤ date.year)
      (upper : date.year ≤ 9999) : Reportable (.dateTime date)

namespace Record

variable {record : Record}

structure Reportable (record : Record) : Prop where
  typed : record.measurement.valueType = record.kind.valueType
  measurement : record.measurement.Reportable

/-- How a record stands in an object: dates are named without a unit and are strings, all
others are numbers. -/
structure Reported (record : Record) : Prop where
  jsonName : record.jsonName =
    if record.kind.valueType = .dateTime then record.kind.fieldName
    else record.kind.fieldName ++ "_" ++ record.unit.fieldSuffix
  number : record.kind.valueType ≠ .dateTime → IsNumber record.jsonValue
  date : record.kind.valueType = .dateTime →
    ∃ date, record.measurement = .dateTime date ∧ record.jsonValue = quoted date.text ∧
      Date.IsDashed date.text

theorem Reported.of_number (counts : record.kind.valueType ≠ .dateTime)
    (named : record.jsonName = record.kind.fieldName ++ "_" ++ record.unit.fieldSuffix)
    (number : IsNumber record.jsonValue) : record.Reported :=
  ⟨by rw [if_neg counts, named], fun _ => number, fun date => absurd date counts⟩

theorem Reported.of_date {date : Date} (dated : record.kind.valueType = .dateTime)
    (measured : record.measurement = .dateTime date)
    (dashed : Date.IsDashed date.text) : record.Reported := by
  obtain ⟨kind, measurement⟩ := record
  obtain rfl : measurement = .dateTime date := measured
  exact ⟨(if_pos dated).symm, fun counts => absurd dated counts,
    fun _ => ⟨date, rfl, rfl, dashed⟩⟩

theorem Reportable.reported (reportable : record.Reportable) : record.Reported := by
  obtain ⟨kind, measurement⟩ := record
  obtain ⟨typed, measured⟩ := reportable
  dsimp only at typed measured
  have counts (other : measurement.valueType ≠ .dateTime) : kind.valueType ≠ .dateTime :=
    typed ▸ other
  cases measured with
  | scalar unit finite => exact .of_number (counts nofun) rfl finite.isNumber_text
  | quantity unit finite => exact .of_number (counts nofun) rfl finite.isNumber_text
  | integer value => exact .of_number (counts nofun) rfl (isNumber_ofInt value)
  | dateTime valid lower upper =>
      exact .of_date typed.symm rfl (Date.isDashed_text valid lower upper)

theorem Reported.isValue (reported : record.Reported) : IsValue record.jsonValue := by
  by_cases dated : record.kind.valueType = .dateTime
  · obtain ⟨date, -, spelled, dashed⟩ := reported.date dated
    rw [spelled]
    exact .string (isCharacters_of_isPlain dashed.isPlain)
  · exact .number (reported.number dated)

end Record

namespace Layout

variable {layout : Layout} {unit : MeterUnit}

/-- Counts of 32 bits cannot come out infinite, and years from 2000 to 2128 have four digits. -/
theorem reportable_records (readable : layout.Readable)
    (large : layout.divisor.isOneOrMore = true) (valid : layout.DatesValid frame) :
    ∀ record ∈ (layout.contents frame).records layout frame.signal, record.Reportable := by
  obtain ⟨⟨pastLower, pastUpper⟩, currentLower, currentUpper⟩ := years_contents layout frame
  have counted (role : Role) (listed : role ∈ layout.roles) :
      layout.fieldValue frame role < 2 ^ 32 :=
    readable.fieldValue_lt listed
  have hundred : (Binary64.ofNat 100).isOneOrMore = true := by decide +kernel
  have current := Binary64.isFinite_quotient (counted _ currentConsumption_mem) large
  have past := Binary64.isFinite_quotient (counted _ pastConsumption_mem) large
  unfold Contents.records
  refine List.forall_mem_append.mpr ⟨?_, ?_⟩
  · simp only [List.forall_mem_cons]
    exact ⟨⟨rfl, .scalar _ current⟩, ⟨rfl, .dateTime valid.2 (by omega) (by omega)⟩,
      ⟨rfl, .scalar _ past⟩, ⟨rfl, .dateTime valid.1 (by omega) (by omega)⟩,
      ⟨rfl, .integer frame.signal⟩, nofun⟩
  · split
    · rename_i reported
      have room := Binary64.isFinite_quotient
        (counted _ (roomTemperature_mem_iff.mpr reported)) hundred
      have radiator := Binary64.isFinite_quotient
        (counted _ (radiatorTemperature_mem_iff.mpr reported)) hundred
      simp only [List.forall_mem_cons]
      exact ⟨⟨rfl, .quantity _ room⟩, ⟨rfl, .quantity _ radiator⟩, nofun⟩
    · nofun

/-- The names of the records in an object: the values of the fields do not matter. -/
def jsonNames (unit : MeterUnit) (reportsTemperature : Bool) : List Text :=
  let named (kind : RecordKind) (unit : MeterUnit) := kind.fieldName ++ "_" ++ unit.fieldSuffix
  [named .currentVolume unit, RecordKind.currentReadingDate.fieldName, named .pastVolume unit,
    RecordKind.pastReadingDate.fieldName, named .signalStrength .decibelMilliwatt] ++
  if reportsTemperature then [named .roomTemperature .celsius, named .radiatorTemperature .celsius]
  else []

theorem jsonName_records (contents : Contents) :
    (contents.records layout signal).map Record.jsonName =
      jsonNames layout.unit layout.reportsTemperature := by
  unfold Contents.records jsonNames
  cases layout.reportsTemperature <;> rfl

end Layout

end MeterTelegram
