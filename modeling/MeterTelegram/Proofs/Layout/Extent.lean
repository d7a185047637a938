import MeterTelegram.Proofs.Layout.Locality

namespace MeterTelegram.Layout

/-! How far decoding looks into a frame. What stands behind that has no influence, and a
frame that ends before it cannot be decoded. -/

variable {layout : Layout} {frame : Frame} {bytes : List UInt8} {coding : UInt8}

/-- The end of the last field, or of the coding byte if it belongs to some other layout. -/
def extent (layout : Layout) (frame : Frame) : Nat :=
  match frame.bytes[frame.payloadOffset]? with
  | some coding =>
      if layout.recognizes coding then frame.payloadOffset + layout.length
      else frame.payloadOffset + 1
  | none => frame.payloadOffset + layout.length

theorem extent_of_recognized (found : frame.bytes[frame.payloadOffset]? = some coding)
    (recognized : layout.recognizes coding = true) :
    layout.extent frame = frame.payloadOffset + layout.length := by
  simp only [extent, found, recognized, if_true]

theorem extent_of_unrecognized (found : frame.bytes[frame.payloadOffset]? = some coding)
    (foreign : layout.recognizes coding = false) :
    layout.extent frame = frame.payloadOffset + 1 := by
  simp only [extent, found, foreign, Bool.false_eq_true, if_false]

theorem payloadOffset_lt_extent (layout : Layout) (frame : Frame) :
    frame.payloadOffset < layout.extent frame := by
  have coding : 1 ≤ layout.length := (length_le_iff.mp (Nat.le_refl _)).1
  unfold extent
  split
  · split <;> omega
  · omega

/-- Frames that agree up to the extent of one of them are decoded alike. -/
theorem decode_of_agreement (decoder : Text) (readable : layout.Readable)
    (agreement : bytes.take (layout.extent frame) = frame.bytes.take (layout.extent frame)) :
    ∃ outcome, (layout.decode decoder frame).outcome = .ok outcome ∧
      (layout.decode decoder { frame with bytes }).outcome = .ok outcome := by
  -- Nothing but the frame itself agrees with it beyond its own end.
  by_cases whole : layout.extent frame ≤ frame.bytes.length
  · have start := payloadOffset_lt_extent layout frame
    have found : frame.bytes[frame.payloadOffset]? = some frame.bytes[frame.payloadOffset] :=
      List.getElem?_eq_getElem (Nat.lt_of_lt_of_le start whole)
    have same : bytes[frame.payloadOffset]? = frame.bytes[frame.payloadOffset]? :=
      Buffer.getElem?_of_agreement agreement start
    cases recognized : layout.recognizes frame.bytes[frame.payloadOffset] with
    | false =>
        have otherFound := same.trans found
        exact ⟨.notApplicable, decode_of_unrecognized decoder found recognized,
          decode_of_unrecognized decoder otherFound recognized⟩
    | true =>
        have room := whole
        have otherRoom : layout.extent frame ≤ bytes.length :=
          Buffer.length_of_agreement agreement whole
        rw [extent_of_recognized found recognized] at room otherRoom agreement
        refine decode_local decoder readable rfl room otherRoom same.symm fun role member => ?_
        have inside := length_le_iff.mp (Nat.le_refl layout.length)
        have reach := inside.2 role member
        rw [readable.reach member] at reach
        rw [fieldBytes, fieldBytes, readable.position member, readable.position member]
        exact (Buffer.excerpt_of_agreement agreement (by omega)).symm
  · have same : bytes = frame.bytes :=
      Buffer.eq_of_agreement agreement (Nat.lt_of_not_le whole)
    obtain ⟨outcome, decoded⟩ := (decode_calm readable decoder frame).ends
    subst same
    exact ⟨outcome, decoded, decoded⟩

theorem decode_of_cut (decoder : Text) (readable : layout.Readable)
    (cut : frame.bytes.length < layout.extent frame) :
    ∃ cause, (layout.decode decoder frame).outcome = .ok (.failed cause) := by
  cases found : frame.bytes[frame.payloadOffset]? with
  | none => exact ⟨_, decode_of_no_coding decoder found⟩
  | some coding =>
      cases recognized : layout.recognizes coding with
      | true =>
          rw [extent_of_recognized found recognized] at cut
          exact decode_of_short decoder readable found recognized cut
      | false =>
          have start := (List.getElem?_eq_some_iff.mp found).1
          rw [extent_of_unrecognized found recognized] at cut
          omega

end MeterTelegram.Layout
