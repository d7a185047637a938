import MeterTelegram.Decoder
import MeterTelegram.Proofs.Journal
import MeterTelegram.Proofs.Layout.Fields

namespace MeterTelegram.Layout

/-! What a frame that is long enough decodes to: the values of its fields and the
signal strength decide, nothing else does. -/

variable {layout : Layout} {frame : Frame}

structure Contents where
  pastDate : Date
  past : Nat
  currentDate : Date
  current : Nat
  room : Nat
  radiator : Nat
deriving DecidableEq, Repr

namespace Contents

def ofValues (value : Role → Nat) : Contents :=
  let pastDate := PackedDate.pastDate (value .pastDate)
  { pastDate
    past := value .pastConsumption
    currentDate := PackedDate.currentDate pastDate (value .currentDate)
    current := value .currentConsumption
    room := value .roomTemperature
    radiator := value .radiatorTemperature }

/-- Counts are divided by the divisor of the layout, temperatures are hundredths of a degree. -/
def records (layout : Layout) (contents : Contents) (signal : Int) : List Record :=
  [ ⟨.currentVolume, .scalar (Binary64.quotient contents.current layout.divisor) layout.unit⟩,
    ⟨.currentReadingDate, .dateTime contents.currentDate⟩,
    ⟨.pastVolume, .scalar (Binary64.quotient contents.past layout.divisor) layout.unit⟩,
    ⟨.pastReadingDate, .dateTime contents.pastDate⟩,
    ⟨.signalStrength, .integer signal⟩ ] ++
  if layout.reportsTemperature then
    [ ⟨.roomTemperature, .quantity (Binary64.quotient contents.room (.ofNat 100)) .celsius⟩,
      ⟨.radiatorTemperature,
        .quantity (Binary64.quotient contents.radiator (.ofNat 100)) .celsius⟩ ]
  else []

variable {layout : Layout} {contents : Contents} {signal : Int}

theorem length_records :
    (contents.records layout signal).length = if layout.reportsTemperature then 7 else 5 := by
  unfold records
  cases layout.reportsTemperature <;> rfl

theorem nodup_kinds : ((contents.records layout signal).map Record.kind).Nodup := by
  unfold records
  cases layout.reportsTemperature
  · simp only [Bool.false_eq_true, if_false, List.append_nil, List.map_cons, List.map_nil]
    decide
  · simp only [if_true, List.cons_append, List.nil_append, List.map_cons, List.map_nil]
    decide

end Contents

/-- What fields with these values decode to: only the dates can be wrong. -/
def verdict (layout : Layout) (value : Role → Nat) (signal : Int) : Outcome :=
  let contents := Contents.ofValues value
  match PackedDate.check .past (value .pastDate) contents.pastDate with
  | .error fault => .failed (.pastDate fault)
  | .ok _ =>
      match PackedDate.check .current (value .currentDate) contents.currentDate with
      | .error fault => .failed (.currentDate fault)
      | .ok _ => .decoded (contents.records layout signal)

inductive Failure.InvalidDate : Failure → Prop where
  | past {fault : PackedDate.Fault} (ofDate : fault.OfDate) : InvalidDate (.pastDate fault)
  | current {fault : PackedDate.Fault} (ofDate : fault.OfDate) : InvalidDate (.currentDate fault)

variable {value : Role → Nat}

theorem verdict_of_valid (signal : Int)
    (pastValid : (Contents.ofValues value).pastDate.isValid = true)
    (currentValid : (Contents.ofValues value).currentDate.isValid = true) :
    layout.verdict value signal = .decoded ((Contents.ofValues value).records layout signal) := by
  simp only [verdict, PackedDate.check_of_isValid pastValid,
    PackedDate.check_of_isValid currentValid]

theorem verdict_of_invalid (layout : Layout) (signal : Int)
    (invalid : ¬ ((Contents.ofValues value).pastDate.isValid = true ∧
      (Contents.ofValues value).currentDate.isValid = true)) :
    ∃ cause, layout.verdict value signal = .failed cause ∧ cause.InvalidDate := by
  cases pastValid : (Contents.ofValues value).pastDate.isValid with
  | false =>
      obtain ⟨fault, checked, ofDate⟩ :=
        PackedDate.check_of_not_isValid .past (value .pastDate) pastValid
      exact ⟨_, by simp only [verdict, checked], .past ofDate⟩
  | true =>
      have currentInvalid : (Contents.ofValues value).currentDate.isValid = false :=
        Bool.eq_false_iff.mpr fun currentValid => invalid ⟨pastValid, currentValid⟩
      obtain ⟨fault, checked, ofDate⟩ :=
        PackedDate.check_of_not_isValid .current (value .currentDate) currentInvalid
      exact ⟨_, by simp only [verdict, PackedDate.check_of_isValid pastValid, checked],
        .current ofDate⟩

theorem verdict_congr {other : Role → Nat} {signal : Int}
    (same : ∀ role ∈ layout.roles, value role = other role) :
    layout.verdict value signal = layout.verdict other signal := by
  have past := same .pastDate pastDate_mem
  have current := same .currentDate currentDate_mem
  have contents : (Contents.ofValues value).records layout signal =
      (Contents.ofValues other).records layout signal := by
    simp only [Contents.records, Contents.ofValues, past, current,
      same .pastConsumption pastConsumption_mem, same .currentConsumption currentConsumption_mem]
    by_cases reported : layout.reportsTemperature = true
    · rw [same .roomTemperature (roomTemperature_mem_iff.mpr reported),
        same .radiatorTemperature (radiatorTemperature_mem_iff.mpr reported)]
    · simp only [reported, Bool.false_eq_true, if_false]
  simp only [verdict, contents]
  simp only [Contents.ofValues, past, current]

theorem consumptionRecords_of_counts {consumption : Consumption} {signal : Int}
    (counts : layout.unit.countsConsumption = true) :
    layout.consumptionRecords consumption signal = .ok
      [ ⟨.currentVolume, .scalar consumption.current layout.unit⟩,
        ⟨.currentReadingDate, .dateTime consumption.currentDate⟩,
        ⟨.pastVolume, .scalar consumption.past layout.unit⟩,
        ⟨.pastReadingDate, .dateTime consumption.pastDate⟩,
        ⟨.signalStrength, .integer signal⟩ ] := by
  have scalar (kind : RecordKind) (value : Binary64) :
      Record.scalar kind value layout.unit = Record.store kind (.scalar value layout.unit) := by
    rw [Record.scalar, if_pos counts]
  simp only [consumptionRecords, scalar]
  rfl

/-- Reading comes to the verdict on the values of the fields. -/
theorem Held.readFields (held : layout.Held frame) (readable : layout.Readable) :
    layout.readFields frame = .ok (layout.verdict (layout.fieldValue frame) frame.signal) := by
  have past := held.readScaled layout.divisor readable pastConsumption_mem
  have current := held.readScaled layout.divisor readable currentConsumption_mem
  simp only [field] at past current
  unfold Layout.readFields readConsumption verdict
  simp only [held.readPast readable, held.readCurrent readable, past, current,
    Contents.ofValues]
  cases pastDate : PackedDate.check .past (layout.fieldValue frame .pastDate)
      (PackedDate.pastDate (layout.fieldValue frame .pastDate)) with
  | error fault => rfl
  | ok date =>
      obtain ⟨rfl, _⟩ := PackedDate.check_ok pastDate
      cases currentDate : PackedDate.check .current (layout.fieldValue frame .currentDate)
          (PackedDate.currentDate (PackedDate.pastDate (layout.fieldValue frame .pastDate))
            (layout.fieldValue frame .currentDate)) with
      | error fault =>
          simp only [Results.mapError_ok, Results.mapError_error, bind, Except.bind, currentDate]
      | ok date =>
          obtain ⟨rfl, _⟩ := PackedDate.check_ok currentDate
          simp only [Results.mapError_ok, bind, Except.bind, currentDate, pure, Except.pure,
            consumptionRecords_of_counts readable.countsConsumption]
          by_cases reported : layout.reportsTemperature = true
          · simp only [held.readTemperatures readable reported]
            simp only [Contents.records, reported]
            rfl
          · simp only [Layout.readTemperatures, Contents.records, reported]
            rfl

theorem readFields_of_not_held (readable : layout.Readable) (missing : ¬ layout.Held frame) :
    ∃ cause, layout.readFields frame = .ok (.failed cause) := by
  unfold Layout.readFields
  cases counted : layout.readConsumption frame with
  | error cause => exact ⟨cause, rfl⟩
  | ok consumption =>
      simp only [consumptionRecords_of_counts readable.countsConsumption]
      cases felt : layout.readTemperatures frame with
      | error cause => exact ⟨cause, rfl⟩
      | ok temperatures => exact absurd (held_of_read readable counted felt) missing

variable {coding : UInt8}

theorem decode_of_no_coding (decoder : Text)
    (missing : frame.bytes[frame.payloadOffset]? = none) :
    (layout.decode decoder frame).outcome =
      .ok (.failed (.noCoding frame.payloadOffset frame.bytes.length)) := by
  simp only [decode, missing]
  rfl

theorem decode_of_unrecognized (decoder : Text)
    (found : frame.bytes[frame.payloadOffset]? = some coding)
    (foreign : layout.recognizes coding = false) :
    (layout.decode decoder frame).outcome = .ok .notApplicable := by
  simp only [decode, found, foreign, Bool.not_false, if_true]
  rfl

theorem decode_of_recognized (decoder : Text)
    (found : frame.bytes[frame.payloadOffset]? = some coding)
    (recognized : layout.recognizes coding = true) {outcome : Outcome}
    (long : layout.neededSize frame ≤ frame.bytes.length)
    (read : layout.readFields frame = .ok outcome) :
    (layout.decode decoder frame).outcome = .ok outcome := by
  simp only [decode, found, recognized, Bool.not_true, Bool.false_eq_true, if_false,
    if_neg (Nat.not_lt_of_le long), read]
  rfl

/-- The size needed is counted in 64 bits and never comes out too great. -/
theorem neededSize_le (layout : Layout) (frame : Frame) :
    layout.neededSize frame ≤ frame.payloadOffset + layout.length :=
  Nat.mod_le ..

theorem decode_of_room (decoder : Text) (readable : layout.Readable)
    (found : frame.bytes[frame.payloadOffset]? = some coding)
    (recognized : layout.recognizes coding = true)
    (room : frame.payloadOffset + layout.length ≤ frame.bytes.length) :
    (layout.decode decoder frame).outcome =
      .ok (layout.verdict (layout.fieldValue frame) frame.signal) :=
  decode_of_recognized decoder found recognized (Nat.le_trans (neededSize_le ..) room)
    ((readable.room_iff.mp room).2.readFields readable)

theorem decode_of_short (decoder : Text) (readable : layout.Readable)
    (found : frame.bytes[frame.payloadOffset]? = some coding)
    (recognized : layout.recognizes coding = true)
    (short : frame.bytes.length < frame.payloadOffset + layout.length) :
    ∃ cause, (layout.decode decoder frame).outcome = .ok (.failed cause) := by
  -- A length beyond 64 bits would pass the check of the size: then a field is missing.
  by_cases long : layout.neededSize frame ≤ frame.bytes.length
  · have coding : frame.payloadOffset < frame.bytes.length :=
      (List.getElem?_eq_some_iff.mp found).1
    have missing : ¬ layout.Held frame := fun held =>
      Nat.not_le_of_lt short (readable.room_iff.mpr ⟨coding, held⟩)
    obtain ⟨cause, read⟩ := readFields_of_not_held readable missing
    exact ⟨cause, decode_of_recognized decoder found recognized long read⟩
  · refine ⟨.short coding (layout.neededSize frame) frame.bytes.length, ?_⟩
    simp only [decode, found, recognized, Bool.not_true, Bool.false_eq_true, if_false,
      if_pos (Nat.lt_of_not_le long)]
    rfl

theorem readFields_ends (readable : layout.Readable) (frame : Frame) :
    ∃ outcome, layout.readFields frame = .ok outcome := by
  by_cases held : layout.Held frame
  · exact ⟨_, held.readFields readable⟩
  · obtain ⟨cause, failed⟩ := readFields_of_not_held readable held
    exact ⟨_, failed⟩

theorem Outcome.entries_silent (decoder : Text) (outcome : Outcome) :
    (outcome.entries decoder).filterMap Entry.output? = [] := by
  cases outcome with
  | decoded records =>
      rw [entries, List.filterMap_map, List.filterMap_eq_nil_iff]
      exact fun record _ => rfl
  | notApplicable => rfl
  | failed cause => rfl

/-- Whatever the frame is, decoding ends without a fault of a record and prints nothing. -/
theorem decode_calm (readable : layout.Readable) (decoder : Text) (frame : Frame) :
    (layout.decode decoder frame).Calm := by
  simp only [decode]
  split
  · exact .pure _
  · split
    · exact (Journal.Calm.note rfl).bind fun _ => .pure _
    · split
      · exact .pure _
      · obtain ⟨outcome, read⟩ := readFields_ends readable frame
        refine (Journal.Calm.note rfl).bind fun _ => ?_
        refine (Journal.Calm.ofExcept read).bind fun outcome => ?_
        exact (Journal.Calm.note (outcome.entries_silent decoder)).bind fun _ => .pure _

theorem decodeInto_calm (readable : layout.Readable) (decoder : Text) (frame : Frame)
    (before : Findings) : (layout.decodeInto decoder frame before).Calm :=
  (decode_calm readable decoder frame).bind fun _ => .pure _

theorem decodeInto_of_decode {decoder : Text} {outcome : Outcome} (before : Findings)
    (decoded : (layout.decode decoder frame).outcome = .ok outcome) :
    (layout.decodeInto decoder frame before).outcome = .ok (outcome.leave before) := by
  rw [decodeInto, Journal.outcome_bind decoded, Journal.outcome_pure]

end MeterTelegram.Layout
