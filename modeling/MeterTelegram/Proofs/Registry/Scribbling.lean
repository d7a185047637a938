import MeterTelegram.Proofs.Registry.Asking

namespace MeterTelegram

/-! Decoders may write into their findings before they decline. Nobody sees it: a dispatch
among decoders that scribble is the dispatch among decoders that do not. -/

namespace Decoder

variable {frame : Frame} {scribble : Decoder → Findings → Findings}

/-- A decoder that also scribbles into its findings whenever it declines. -/
def scribbling (scribble : Decoder → Findings → Findings) (decoder : Decoder) : Decoder :=
  { decoder with
    decode := fun frame before => do
      let (status, findings) ← decoder.decode frame before
      return (status, if status = .notApplicable then scribble decoder findings else findings) }

theorem decode_scribbling (decoder : Decoder) (frame : Frame) :
    (decoder.scribbling scribble).decode frame {} =
      ⟨(decoder.decode frame {}).entries, (decoder.answer frame).map fun (status, findings) =>
        (status, if status = .notApplicable then scribble decoder findings else findings)⟩ := by
  cases answered : decoder.answer frame with
  | error fault => exact Journal.bind_of_error answered
  | ok answer =>
      refine (Journal.bind_of_ok answered).trans ?_
      rw [Journal.entries_pure, List.append_nil]
      rfl

theorem answer_scribbling (decoder : Decoder) (frame : Frame) :
    (decoder.scribbling scribble).answer frame =
      (decoder.answer frame).map fun (status, findings) =>
        (status, if status = .notApplicable then scribble decoder findings else findings) := by
  rw [answer, decode_scribbling]

theorem declines_scribbling (decoder : Decoder) (frame : Frame) :
    (decoder.scribbling scribble).declines frame = decoder.declines frame := by
  unfold declines
  rw [answer_scribbling]
  rcases decoder.answer frame with fault | ⟨status, findings⟩
  · rfl
  · cases status <;> rfl

theorem decision?_scribbling (decoder : Decoder) (frame : Frame) :
    (decoder.scribbling scribble).decision? frame = decoder.decision? frame := by
  unfold decision?
  rw [answer_scribbling]
  cases decoder.answer frame <;> rfl

theorem said_scribbling (trace : Registry.Trace) (decoder : Decoder) (frame : Frame) :
    (decoder.scribbling scribble).said trace frame = decoder.said trace frame := by
  rw [said, said, decision?_scribbling, decode_scribbling]

theorem answer_scribbling_of_settles {decoder : Decoder}
    (settles : decoder.declines frame = false) :
    (decoder.scribbling scribble).answer frame = decoder.answer frame := by
  rw [answer_scribbling]
  cases answered : decoder.answer frame with
  | error fault => rfl
  | ok answer =>
      rw [declines_of_ok answered, decide_eq_false_iff_not] at settles
      simp only [Except.map, if_neg settles]

end Decoder

namespace Registry

variable {trace : Trace} {frame : Frame} {before : Reading} {found : List Decoder}
  {scribble : Decoder → Findings → Findings}

theorem settler?_scribbling (frame : Frame) (found : List Decoder) :
    settler? frame (found.map (Decoder.scribbling scribble)) =
      (settler? frame found).map (Decoder.scribbling scribble) := by
  simp only [settler?, List.find?_map, Function.comp_def, Decoder.declines_scribbling]

theorem asked_scribbling (frame : Frame) (found : List Decoder) :
    asked frame (found.map (Decoder.scribbling scribble)) =
      (asked frame found).map (Decoder.scribbling scribble) := by
  simp only [asked, settler?_scribbling, List.takeWhile_map, Function.comp_def,
    Decoder.declines_scribbling, List.map_append, Option.toList_map]

theorem settle_scribbling (before : Reading) (decoder : Decoder) :
    settle before (decoder.scribbling scribble) = settle before decoder := by
  funext ⟨status, findings⟩
  cases status <;> rfl

theorem conclusion_scribbling (frame : Frame) (before : Reading) (found : List Decoder) :
    conclusion frame before (found.map (Decoder.scribbling scribble)) =
      conclusion frame before found := by
  simp only [conclusion, settler?_scribbling, asked_scribbling, List.filterMap_map,
    Function.comp_def, Decoder.decision?_scribbling]
  cases settles : settler? frame found with
  | none => rfl
  | some decoder =>
      simp only [Option.map_some, settle_scribbling,
        Decoder.answer_scribbling_of_settles (settler?_settles settles)]

theorem ask_scribbling (trace : Trace) (frame : Frame) (before : Reading) (found : List Decoder) :
    ask trace frame before (found.map (Decoder.scribbling scribble)) =
      ask trace frame before found := by
  rw [ask_eq, ask_eq, asked_scribbling, conclusion_scribbling, List.flatMap_map]
  simp only [Decoder.said_scribbling]

theorem lookup_scribbling (decoders : List Decoder) (signature : Signature) :
    (ofDecoders (decoders.map (Decoder.scribbling scribble))).lookup signature =
      ((ofDecoders decoders).lookup signature).map (Decoder.scribbling scribble) := by
  have copies (decoder : Decoder) :
      (decoder.scribbling scribble).copies signature =
        (decoder.copies signature).map (Decoder.scribbling scribble) := by
    rw [Decoder.copies, Decoder.copies, List.map_replicate]
    rfl
  simp only [lookup_ofDecoders, List.flatMap_map, List.map_flatMap, copies]

theorem decode_scribbling (decoders : List Decoder) (trace : Trace) (frame : Frame)
    (before : Reading) :
    (ofDecoders (decoders.map (Decoder.scribbling scribble))).decode trace frame before =
      (ofDecoders decoders).decode trace frame before := by
  have found : (ofDecoders (decoders.map (Decoder.scribbling scribble))).lookup
      frame.address.signature = _ := lookup_scribbling decoders frame.address.signature
  by_cases unknown : (ofDecoders decoders).lookup frame.address.signature = []
  · rw [unknown] at found
    rw [decode_of_unknown trace before unknown, decode_of_unknown trace before found]
  · have known : (ofDecoders (decoders.map (Decoder.scribbling scribble))).lookup
        frame.address.signature ≠ [] := by
      rw [found]
      exact fun empty => unknown (List.map_eq_nil_iff.mp empty)
    rw [decode_of_known trace before unknown, decode_of_known trace before known, found,
      ask_scribbling]

end Registry

end MeterTelegram
