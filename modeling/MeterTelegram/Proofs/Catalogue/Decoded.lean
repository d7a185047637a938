import MeterTelegram.Proofs.Catalogue
import MeterTelegram.Proofs.Layout.Outcome
import MeterTelegram.Proofs.Registry.Asking

namespace MeterTelegram

/-! What comes of a frame that is decoded: the records are those of the fields of one family's
layout, the counts in them have at most 32 bits, and the dates are valid. -/

variable {frame : Frame}

namespace Layout

variable {layout : Layout} {role : Role} {decoder : Text} {records : List Record}

theorem Readable.fieldValue_lt (readable : layout.Readable) (member : role ∈ layout.roles) :
    layout.fieldValue frame role < 2 ^ 32 := by
  obtain ⟨-, narrow⟩ := readable.allowed role member
  have taken : (layout.fieldBytes frame role).length ≤ (layout.field role).width.toNat :=
    List.length_take_le _ _
  have length : (layout.fieldBytes frame role).length ≤ Counter.maxWidth := by omega
  exact Nat.lt_of_lt_of_le (Counter.value_lt _) (Nat.pow_le_pow_right (by decide) length)

theorem years_contents (layout : Layout) (frame : Frame) :
    (2000 ≤ (layout.contents frame).pastDate.year ∧
      (layout.contents frame).pastDate.year ≤ 2127) ∧
    2000 ≤ (layout.contents frame).currentDate.year ∧
      (layout.contents frame).currentDate.year ≤ 2128 := by
  have past : 2000 ≤ (layout.contents frame).pastDate.year ∧
      (layout.contents frame).pastDate.year ≤ 2127 :=
    PackedDate.year_pastDate (layout.fieldValue frame .pastDate)
  have current : (layout.contents frame).pastDate.year ≤
        (layout.contents frame).currentDate.year ∧
      (layout.contents frame).currentDate.year ≤ (layout.contents frame).pastDate.year + 1 :=
    PackedDate.year_currentDate _ (layout.fieldValue frame .currentDate)
  omega

/-- Only a frame with valid dates is decoded, to the records of its fields. -/
theorem decoded_of_decode (readable : layout.Readable)
    (decoded : (layout.decode decoder frame).outcome = .ok (.decoded records)) :
    layout.DatesValid frame ∧ records = (layout.contents frame).records layout frame.signal := by
  cases found : frame.bytes[frame.payloadOffset]? with
  | none =>
      rw [decode_of_no_coding decoder found] at decoded
      cases decoded
  | some coding =>
      cases recognized : layout.recognizes coding with
      | false =>
          rw [decode_of_unrecognized decoder found recognized] at decoded
          cases decoded
      | true =>
          by_cases room : frame.payloadOffset + layout.length ≤ frame.bytes.length
          · rw [decode_of_room decoder readable found recognized room] at decoded
            by_cases valid : layout.DatesValid frame
            · rw [verdict_of_valid frame.signal valid.1 valid.2] at decoded
              cases decoded
              exact ⟨valid, rfl⟩
            · obtain ⟨cause, failed, -⟩ := verdict_of_invalid layout frame.signal valid
              rw [failed] at decoded
              cases decoded
          · obtain ⟨cause, failed⟩ :=
              decode_of_short decoder readable found recognized (Nat.lt_of_not_le room)
            rw [failed] at decoded
            cases decoded

theorem decode_of_decodeInto {before after : Findings}
    (answered : (layout.decodeInto decoder frame before).outcome = .ok (.decoded, after)) :
    (layout.decode decoder frame).outcome = .ok (.decoded after.records) := by
  obtain ⟨outcome, decoded, left⟩ := Journal.ok_of_bind answered
  cases outcome with
  | decoded records =>
      cases left
      exact decoded
  | notApplicable => cases left
  | failed cause => cases left

end Layout

variable {trace : Registry.Trace} {before : Reading} {dispatch : Dispatch}

theorem Registry.answer_of_decoded {registry : Registry}
    (dispatched : (registry.decode trace frame before).outcome = .ok dispatch)
    (decoded : dispatch.status = .decoded) :
    ∃ decoder ∈ registry.lookup frame.address.signature, ∃ findings,
      decoder.answer frame = .ok (.decoded, findings) ∧ dispatch.reading =
        { before with records := findings.records, decoder := decoder.name } := by
  by_cases unknown : registry.lookup frame.address.signature = []
  · rw [decode_of_unknown trace before unknown] at dispatched
    cases dispatched
    cases decoded
  · rw [decode_of_known trace before unknown, ask_eq] at dispatched
    simp only [conclusion] at dispatched
    cases settles : settler? frame (registry.lookup frame.address.signature) with
    | none =>
        simp only [settles] at dispatched
        cases dispatched
        cases decoded
    | some decoder =>
        simp only [settles] at dispatched
        obtain ⟨⟨status, findings⟩, answered, rfl⟩ := Results.ok_of_map dispatched
        cases status with
        | decoded => exact ⟨decoder, List.mem_of_find?_eq_some settles, findings, answered, rfl⟩
        | failed => cases decoded
        | notApplicable => cases decoded

/-- The records of a decoded frame are those of its fields in the layout of one family. -/
theorem Catalogue.family_of_decoded {catalogue : Catalogue} (readable : catalogue.Readable)
    (dispatched : (catalogue.readers.decode trace frame before).outcome = .ok dispatch)
    (decoded : dispatch.status = .decoded) :
    ∃ family ∈ catalogue.families, family.layout.DatesValid frame ∧
      dispatch.reading = { before with
        records := (family.layout.contents frame).records family.layout frame.signal
        decoder := family.name } := by
  obtain ⟨decoder, found, findings, answered, left⟩ := Registry.answer_of_decoded dispatched decoded
  obtain ⟨family, listed, rfl⟩ := reader_of_lookup found
  obtain ⟨valid, records⟩ := Layout.decoded_of_decode (readable family listed)
    (Layout.decode_of_decodeInto answered)
  refine ⟨family, listed, valid, ?_⟩
  rw [left, records]
  rfl

end MeterTelegram
