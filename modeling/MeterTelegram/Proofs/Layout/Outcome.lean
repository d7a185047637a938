import MeterTelegram.Proofs.Layout.RoundTrip

namespace MeterTelegram.Layout

/-! Which outcome decoding a frame has, and what it leaves for its caller. The
coding byte, the length and the two dates decide; findings of the caller are
replaced only by a decoded frame, its error only by a failure. -/

variable {layout : Layout} {frame : Frame} {before after : Findings} {status : DecodeStatus}

/-- The coding byte is there and belongs to some other layout. -/
def Foreign (layout : Layout) (frame : Frame) : Prop :=
  ∃ coding, frame.bytes[frame.payloadOffset]? = some coding ∧ coding ∉ layout.codings

/-- The coding byte belongs to the layout and the frame holds its whole length. -/
def Complete (layout : Layout) (frame : Frame) : Prop :=
  (∃ coding, frame.bytes[frame.payloadOffset]? = some coding ∧ coding ∈ layout.codings) ∧
    frame.payloadOffset + layout.length ≤ frame.bytes.length

def contents (layout : Layout) (frame : Frame) : Contents :=
  Contents.ofValues (layout.fieldValue frame)

def DatesValid (layout : Layout) (frame : Frame) : Prop :=
  (layout.contents frame).pastDate.isValid = true ∧
    (layout.contents frame).currentDate.isValid = true

/-- Status and findings that a decoder answers a frame with. -/
structure Answers (layout : Layout) (frame : Frame) (before : Findings) (status : DecodeStatus)
    (after : Findings) : Prop where
  notApplicable_iff : status = .notApplicable ↔ layout.Foreign frame
  decoded_iff : status = .decoded ↔ layout.Complete frame ∧ layout.DatesValid frame
  failed_iff : status = .failed ↔
    ¬ layout.Foreign frame ∧ ¬ (layout.Complete frame ∧ layout.DatesValid frame)
  invalidDate : layout.Complete frame → status = .failed →
    ∃ cause : Failure, cause.InvalidDate ∧ after.error = cause.message
  newRecords : status = .decoded →
    after.records = (layout.contents frame).records layout frame.signal
  recordCount : status = .decoded →
    after.records.length = if layout.reportsTemperature then 7 else 5
  distinctKinds : status = .decoded → (after.records.map Record.kind).Nodup
  oldRecords : status ≠ .decoded → after.records = before.records
  oldError : status ≠ .failed → after.error = before.error

variable {coding : UInt8}

theorem foreign_iff (found : frame.bytes[frame.payloadOffset]? = some coding) :
    layout.Foreign frame ↔ coding ∉ layout.codings := by
  simp only [Foreign, found, Option.some.injEq, exists_eq_left']

theorem complete_iff (found : frame.bytes[frame.payloadOffset]? = some coding) :
    layout.Complete frame ↔ coding ∈ layout.codings ∧
      frame.payloadOffset + layout.length ≤ frame.bytes.length := by
  simp only [Complete, found, Option.some.injEq, exists_eq_left']

theorem not_foreign_of_no_coding (missing : frame.bytes[frame.payloadOffset]? = none) :
    ¬ layout.Foreign frame := by
  simp [Foreign, missing]

theorem not_complete_of_no_coding (missing : frame.bytes[frame.payloadOffset]? = none) :
    ¬ layout.Complete frame := by
  simp [Complete, missing]

theorem not_complete_of_foreign (foreign : layout.Foreign frame) : ¬ layout.Complete frame := by
  obtain ⟨coding, found, other⟩ := foreign
  rw [complete_iff found]
  exact fun complete => other complete.1

theorem answers_of_notApplicable (foreign : layout.Foreign frame) :
    layout.Answers frame before .notApplicable before where
  notApplicable_iff := ⟨fun _ => foreign, fun _ => rfl⟩
  decoded_iff := ⟨nofun, fun accepted => absurd accepted.1 (not_complete_of_foreign foreign)⟩
  failed_iff := ⟨nofun, fun failed => absurd foreign failed.1⟩
  invalidDate := nofun
  newRecords := nofun
  recordCount := nofun
  distinctKinds := nofun
  oldRecords := fun _ => rfl
  oldError := fun _ => rfl

theorem answers_of_failed {cause : Failure} (own : ¬ layout.Foreign frame)
    (rejected : ¬ (layout.Complete frame ∧ layout.DatesValid frame))
    (dates : layout.Complete frame → cause.InvalidDate) :
    layout.Answers frame before .failed { before with error := cause.message } where
  notApplicable_iff := ⟨nofun, fun foreign => absurd foreign own⟩
  decoded_iff := ⟨nofun, fun accepted => absurd accepted rejected⟩
  failed_iff := ⟨fun _ => ⟨own, rejected⟩, fun _ => rfl⟩
  invalidDate := fun complete _ => ⟨cause, dates complete, rfl⟩
  newRecords := nofun
  recordCount := nofun
  distinctKinds := nofun
  oldRecords := fun _ => rfl
  oldError := fun failed => absurd rfl failed

theorem answers_of_decoded (complete : layout.Complete frame) (valid : layout.DatesValid frame) :
    layout.Answers frame before .decoded
      { before with records := (layout.contents frame).records layout frame.signal } where
  notApplicable_iff :=
    ⟨nofun, fun foreign => absurd complete (not_complete_of_foreign foreign)⟩
  decoded_iff := ⟨fun _ => ⟨complete, valid⟩, fun _ => rfl⟩
  failed_iff := ⟨nofun, fun failed => absurd ⟨complete, valid⟩ failed.2⟩
  invalidDate := nofun
  newRecords := fun _ => rfl
  recordCount := fun _ => Contents.length_records
  distinctKinds := fun _ => Contents.nodup_kinds
  oldRecords := fun decoded => absurd rfl decoded
  oldError := fun _ => rfl

/-- Decoding comes to an end for every frame, with exactly the status that coding byte,
length and dates call for. Fields of a complete frame are always read. -/
theorem decodeInto_answers (decoder : Text) (frame : Frame) (before : Findings)
    (consistent : layout.isConsistent = true) (endsFit : layout.EndsFit) :
    (layout.Complete frame → ∀ role ∈ layout.roles,
      Counter.read frame.bytes (position frame (layout.field role)) (layout.field role).width =
        .ok (layout.fieldValue frame role)) ∧
    ∃ status after, (layout.decodeInto decoder frame before).outcome = .ok (status, after) ∧
      layout.Answers frame before status after := by
  have readable := readable_of_isConsistent consistent endsFit
  refine ⟨fun complete role member =>
    (readable.room_iff.mp complete.2).2.readCounter readable member, ?_⟩
  cases found : frame.bytes[frame.payloadOffset]? with
  | none =>
      have decoded : (layout.decode decoder frame).outcome = _ := decode_of_no_coding decoder found
      have incomplete : ¬ layout.Complete frame := not_complete_of_no_coding found
      exact ⟨_, _, decodeInto_of_decode before decoded,
        answers_of_failed (not_foreign_of_no_coding found)
          (fun accepted => incomplete accepted.1) (fun complete => absurd complete incomplete)⟩
  | some coding =>
      by_cases own : coding ∈ layout.codings
      · have recognized : layout.recognizes coding = true := List.contains_iff_mem.mpr own
        have notForeign : ¬ layout.Foreign frame := fun foreign =>
          (foreign_iff found).mp foreign own
        by_cases room : frame.payloadOffset + layout.length ≤ frame.bytes.length
        · have complete : layout.Complete frame := (complete_iff found).mpr ⟨own, room⟩
          have decoded := decode_of_room decoder readable found recognized room
          by_cases valid : layout.DatesValid frame
          · rw [verdict_of_valid frame.signal valid.1 valid.2] at decoded
            exact ⟨_, _, decodeInto_of_decode before decoded, answers_of_decoded complete valid⟩
          · obtain ⟨cause, failed, invalid⟩ := verdict_of_invalid layout frame.signal valid
            rw [failed] at decoded
            exact ⟨_, _, decodeInto_of_decode before decoded,
              answers_of_failed notForeign (fun accepted => valid accepted.2) (fun _ => invalid)⟩
        · have incomplete : ¬ layout.Complete frame := fun complete => room complete.2
          obtain ⟨cause, failed⟩ :=
            decode_of_short decoder readable found recognized (Nat.lt_of_not_le room)
          exact ⟨_, _, decodeInto_of_decode before failed,
            answers_of_failed notForeign (fun accepted => incomplete accepted.1)
              (fun complete => absurd complete incomplete)⟩
      · have foreign : layout.recognizes coding = false := by
          rw [recognizes, List.contains_eq_mem]
          exact decide_eq_false own
        exact ⟨_, _, decodeInto_of_decode before (decode_of_unrecognized decoder found foreign),
          answers_of_notApplicable ((foreign_iff found).mpr own)⟩

/-- A complete frame whose past date falls into a thirteenth month. -/
def thirteenthMonth : Frame :=
  Layout.patched shortAddressed [⟨5, [0x11]⟩]

theorem decodeInto_answers_thirteenthMonth :
    scattered.isConsistent = true ∧ scattered.EndsFit ∧ ∃ after,
      (scattered.decodeInto "scattered" thirteenthMonth {}).outcome = .ok (.failed, after) ∧
        scattered.Answers thirteenthMonth {} .failed after := by
  have consistent : scattered.isConsistent = true := by decide +kernel
  have endsFit : scattered.EndsFit := by decide
  have found : thirteenthMonth.bytes[thirteenthMonth.payloadOffset]? = some 0x11 := by
    decide +kernel
  obtain ⟨_, status, after, decoded, answers⟩ :=
    decodeInto_answers "scattered" thirteenthMonth {} consistent endsFit
  have own : ¬ scattered.Foreign thirteenthMonth := by
    rw [foreign_iff found]
    decide +kernel
  have wrong : (scattered.contents thirteenthMonth).pastDate.isValid = false := by decide +kernel
  obtain rfl : status = .failed := answers.failed_iff.mpr
    ⟨own, fun accepted => Bool.false_ne_true (wrong.symm.trans accepted.2.1)⟩
  exact ⟨consistent, endsFit, after, decoded, answers⟩

end MeterTelegram.Layout
