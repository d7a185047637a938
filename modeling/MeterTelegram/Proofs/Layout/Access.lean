import MeterTelegram.Decoder
import MeterTelegram.Proofs.Access
import MeterTelegram.Proofs.Layout.Verdict

namespace MeterTelegram.Layout

/-! Decoding with checked access: whatever the frame and the layout are, no byte
beyond the end of the frame is reached for. -/

open Buffer

variable {layout : Layout} {frame : Frame}

def readConsumptionChecked (layout : Layout) (frame : Frame) : Checked Failure Consumption := do
  let pastDate ←
    translate Failure.pastDate
      (PackedDate.readPastChecked frame.bytes (position frame layout.pastDate))
  let past ←
    translate Failure.pastConsumption
      (Counter.readScaledChecked frame.bytes (position frame layout.pastConsumption)
        layout.pastConsumption.width layout.divisor)
  let currentDate ←
    translate Failure.currentDate
      (PackedDate.readCurrentChecked frame.bytes (position frame layout.currentDate) pastDate)
  let current ←
    translate Failure.currentConsumption
      (Counter.readScaledChecked frame.bytes (position frame layout.currentConsumption)
        layout.currentConsumption.width layout.divisor)
  return { pastDate, past, currentDate, current }

theorem readConsumptionChecked_eq (layout : Layout) (frame : Frame) :
    layout.readConsumptionChecked frame = settled (layout.readConsumption frame) := by
  simp only [readConsumptionChecked, PackedDate.readPastChecked_eq,
    PackedDate.readCurrentChecked_eq, Counter.readScaledChecked_eq, translate_settled,
    pure_settled, settled_bind]
  rfl

def readTemperaturesChecked (layout : Layout) (frame : Frame) :
    Checked Failure (List (RecordKind × Binary64)) :=
  if layout.reportsTemperature then do
    let room ←
      translate Failure.roomTemperature
        (Counter.readScaledChecked frame.bytes (position frame layout.roomTemperature)
          layout.roomTemperature.width (Binary64.ofNat 100))
    let radiator ←
      translate Failure.radiatorTemperature
        (Counter.readScaledChecked frame.bytes (position frame layout.radiatorTemperature)
          layout.radiatorTemperature.width (Binary64.ofNat 100))
    return [(.roomTemperature, room), (.radiatorTemperature, radiator)]
  else return []

theorem readTemperaturesChecked_eq (layout : Layout) (frame : Frame) :
    layout.readTemperaturesChecked frame = settled (layout.readTemperatures frame) := by
  unfold readTemperaturesChecked readTemperatures
  split
  · simp only [Counter.readScaledChecked_eq, translate_settled, pure_settled, settled_bind]
    rfl
  · rfl

def readFieldsChecked (layout : Layout) (frame : Frame) :
    Except Stray (Except Record.Fault Outcome) := do
  match ← (layout.readConsumptionChecked frame).run with
  | .error cause => return .ok (.failed cause)
  | .ok consumption =>
      match layout.consumptionRecords consumption frame.signal with
      | .error fault => return .error fault
      | .ok counted =>
          match ← (layout.readTemperaturesChecked frame).run with
          | .error cause => return .ok (.failed cause)
          | .ok temperatures =>
              return (temperatureRecords temperatures).map fun felt => .decoded (counted ++ felt)

theorem readFieldsChecked_eq (layout : Layout) (frame : Frame) :
    layout.readFieldsChecked frame = .ok (layout.readFields frame) := by
  rw [readFieldsChecked, readConsumptionChecked_eq, readTemperaturesChecked_eq, readFields]
  cases layout.readConsumption frame with
  | error cause => rfl
  | ok consumption =>
      simp only [settled, ExceptT.run_mk, bind, Except.bind]
      cases layout.consumptionRecords consumption frame.signal with
      | error fault => rfl
      | ok counted => cases layout.readTemperatures frame <;> rfl

def decodeChecked (decoder : Text) (layout : Layout) (frame : Frame) :
    Except Stray (Journal Record.Fault Outcome) := do
  let start := frame.payloadOffset
  let size := frame.bytes.length
  if size ≤ start then return pure (.failed (.noCoding start size))
  else
    let coding ← fetch frame.bytes start
    if !layout.recognizes coding then return do
      Journal.note [.debug ("(" ++ decoder.shown ++ ") coding " ++ Hex.lowerByte coding ++
        " at offset " ++ Text.ofNat start ++ " not handled\n")]
      return .notApplicable
    else if size < layout.neededSize frame then
      return pure (.failed (.short coding (layout.neededSize frame) size))
    else
      let payload ← fetchFrom frame.bytes start (size - start)
      let read ← layout.readFieldsChecked frame
      return do
        Journal.note [.payload ("(" ++ decoder ++ ") decoding payload") payload]
        let outcome ← Journal.ofExcept read
        Journal.note (outcome.entries decoder)
        return outcome

theorem decodeChecked_eq (decoder : Text) (layout : Layout) (frame : Frame) :
    layout.decodeChecked decoder frame = .ok (layout.decode decoder frame) := by
  by_cases inside : frame.payloadOffset < frame.bytes.length
  · have found := List.getElem?_eq_getElem inside
    simp only [decodeChecked, if_neg (Nat.not_le_of_lt inside), decode, found,
      fetch_eq_ok.mpr found, bind, Except.bind]
    split
    · rfl
    · split
      · rfl
      · have whole : frame.payloadOffset + (frame.bytes.length - frame.payloadOffset) ≤
            frame.bytes.length := by omega
        have payload : excerpt frame.bytes frame.payloadOffset
            (frame.bytes.length - frame.payloadOffset) =
              frame.bytes.drop frame.payloadOffset := by
          rw [excerpt, ← List.length_drop, List.take_length]
        rw [fetchFrom_of_room whole, payload, readFieldsChecked_eq]
        rfl
  · have missing := List.getElem?_eq_none (Nat.le_of_not_lt inside)
    simp only [decodeChecked, if_pos (Nat.le_of_not_lt inside), decode, missing]
    rfl

def decodeIntoChecked (decoder : Text) (layout : Layout) (frame : Frame) (findings : Findings) :
    Except Stray (Journal Record.Fault (DecodeStatus × Findings)) := do
  let decoding ← layout.decodeChecked decoder frame
  return do
    let outcome ← decoding
    return outcome.leave findings

theorem decodeIntoChecked_eq (decoder : Text) (layout : Layout) (frame : Frame)
    (findings : Findings) :
    layout.decodeIntoChecked decoder frame findings =
      .ok (layout.decodeInto decoder frame findings) := by
  rw [decodeIntoChecked, decodeChecked_eq]
  rfl

end MeterTelegram.Layout
