import MeterTelegram.Proofs.Registry.Index

namespace MeterTelegram

/-! Asking decoders in turn: those that decline are passed over, and the first that does
not decline ends the asking. -/

def Dispatch.after (decision : Decision) (dispatch : Dispatch) : Dispatch :=
  { dispatch with decisions := decision :: dispatch.decisions }

namespace Decoder

variable {frame : Frame} {decoder : Decoder} {status : DecodeStatus} {findings : Findings}
  {fault : Record.Fault}

/-- What a decoder answers when it is asked: it starts without findings. -/
def answer (frame : Frame) (decoder : Decoder) :
    Except Record.Fault (DecodeStatus × Findings) :=
  (decoder.decode frame {}).outcome

def declines (frame : Frame) (decoder : Decoder) : Bool :=
  match decoder.answer frame with
  | .ok (.notApplicable, _) => true
  | _ => false

def decision? (frame : Frame) (decoder : Decoder) : Option Decision :=
  match decoder.answer frame with
  | .ok (status, _) =>
      some (.asked decoder.name frame.address.signature frame.address.id status)
  | .error _ => none

/-- What is logged when a decoder is asked. -/
def said (trace : Registry.Trace) (frame : Frame) (decoder : Decoder) : List Entry :=
  (decoder.decode frame {}).entries ++ (decoder.decision? frame).toList.flatMap trace

theorem declines_of_ok (answered : decoder.answer frame = .ok (status, findings)) :
    decoder.declines frame = decide (status = .notApplicable) := by
  unfold declines
  rw [answered]
  cases status <;> rfl

theorem declines_of_error (answered : decoder.answer frame = .error fault) :
    decoder.declines frame = false := by
  simp only [declines, answered]

theorem answer_of_declines (declines : decoder.declines frame = true) :
    ∃ findings, decoder.answer frame = .ok (.notApplicable, findings) := by
  cases answered : decoder.answer frame with
  | error fault =>
      rw [declines_of_error answered] at declines
      contradiction
  | ok answer =>
      rw [declines_of_ok answered, decide_eq_true_iff] at declines
      exact ⟨answer.2, by rw [← declines]⟩

theorem said_of_ok (trace : Registry.Trace)
    (answered : decoder.answer frame = .ok (status, findings)) :
    decoder.said trace frame = (decoder.decode frame {}).entries ++
      trace (.asked decoder.name frame.address.signature frame.address.id status) := by
  simp [said, decision?, answered]

theorem said_of_error (trace : Registry.Trace) (answered : decoder.answer frame = .error fault) :
    decoder.said trace frame = (decoder.decode frame {}).entries := by
  simp [said, decision?, answered]

end Decoder

namespace Registry

variable {trace : Trace} {frame : Frame} {before : Reading} {decoder : Decoder}
  {found others : List Decoder} {status : DecodeStatus} {findings : Findings}
  {fault : Record.Fault}

/-- The first decoder that does not decline. -/
def settler? (frame : Frame) (found : List Decoder) : Option Decoder :=
  found.find? fun decoder => !decoder.declines frame

/-- The decoders that are asked: those that decline first, then the one that does not. -/
def asked (frame : Frame) (found : List Decoder) : List Decoder :=
  found.takeWhile (Decoder.declines frame) ++ (settler? frame found).toList

theorem settler?_of_declines (declines : decoder.declines frame = true) :
    settler? frame (decoder :: others) = settler? frame others := by
  simp [settler?, declines]

theorem settler?_of_settles (settles : decoder.declines frame = false) :
    settler? frame (decoder :: others) = some decoder := by
  simp [settler?, settles]

theorem asked_of_declines (declines : decoder.declines frame = true) :
    asked frame (decoder :: others) = decoder :: asked frame others := by
  rw [asked, settler?_of_declines declines, List.takeWhile_cons_of_pos declines]
  rfl

theorem asked_of_settles (settles : decoder.declines frame = false) :
    asked frame (decoder :: others) = [decoder] := by
  rw [asked, settler?_of_settles settles, List.takeWhile_cons_of_neg (by simp [settles])]
  rfl

/-- What the caller sees once a decoder has not declined. -/
def settle (before : Reading) (decoder : Decoder) :
    DecodeStatus × Findings → DispatchStatus × Reading
  | (.decoded, findings) =>
      (.decoded, { before with records := findings.records, decoder := decoder.name })
  | (.failed, findings) =>
      (.failed, { before with decoder := decoder.name, error := findings.error })
  | (.notApplicable, _) => (.notApplicable, before)

def conclusion (frame : Frame) (before : Reading) (found : List Decoder) :
    Except Record.Fault Dispatch :=
  let decisions := (asked frame found).filterMap (Decoder.decision? frame)
  match settler? frame found with
  | none => .ok {
      status := .notApplicable
      reading := { before with
        error := "no decoder for " ++ frame.address.signature.text ++
          " understood the coding byte" }
      decisions }
  | some decoder =>
      (decoder.answer frame).map fun answer =>
        ⟨(settle before decoder answer).1, (settle before decoder answer).2, decisions⟩

theorem conclusion_of_declines (before : Reading) (others : List Decoder)
    (answered : decoder.answer frame = .ok (.notApplicable, findings)) :
    conclusion frame before (decoder :: others) =
      (conclusion frame before others).map (Dispatch.after
        (.asked decoder.name frame.address.signature frame.address.id .notApplicable)) := by
  have declines := Decoder.declines_of_ok answered
  simp only [conclusion, settler?_of_declines declines, asked_of_declines declines,
    List.filterMap_cons, Decoder.decision?, answered]
  cases settler? frame others with
  | none => rfl
  | some settler =>
      dsimp only
      cases settler.answer frame <;> rfl

theorem conclusion_of_settles (before : Reading) (others : List Decoder)
    (settles : decoder.declines frame = false) :
    conclusion frame before (decoder :: others) =
      (decoder.answer frame).map fun answer =>
        ⟨(settle before decoder answer).1, (settle before decoder answer).2,
          [.asked decoder.name frame.address.signature frame.address.id answer.1]⟩ := by
  simp only [conclusion, settler?_of_settles settles, asked_of_settles settles]
  cases answered : decoder.answer frame with
  | error fault => rfl
  | ok answer => simp [Decoder.decision?, answered, Except.map]

theorem ask_of_declines (trace : Trace) (before : Reading) (others : List Decoder)
    (answered : decoder.answer frame = .ok (.notApplicable, findings)) :
    ask trace frame before (decoder :: others) =
      ⟨decoder.said trace frame ++ (ask trace frame before others).entries,
        (ask trace frame before others).outcome.map (Dispatch.after
          (.asked decoder.name frame.address.signature frame.address.id .notApplicable))⟩ := by
  rw [ask, Journal.bind_of_ok answered, Decoder.said_of_ok trace answered]
  simp only [Journal.note_bind]
  cases rest : (ask trace frame before others).outcome with
  | error fault =>
      rw [Journal.bind_of_error rest, List.append_assoc]
      rfl
  | ok dispatch =>
      rw [Journal.bind_of_ok rest, Journal.entries_pure, List.append_nil, List.append_assoc]
      rfl

theorem ask_of_settles (trace : Trace) (before : Reading) (others : List Decoder)
    (settles : decoder.declines frame = false) :
    ask trace frame before (decoder :: others) =
      ⟨decoder.said trace frame, conclusion frame before (decoder :: others)⟩ := by
  rw [conclusion_of_settles before others settles, ask]
  cases answered : decoder.answer frame with
  | error fault =>
      rw [Journal.bind_of_error answered, Decoder.said_of_error trace answered]
      rfl
  | ok answer =>
      obtain ⟨status, findings⟩ := answer
      rw [Journal.bind_of_ok answered, Decoder.said_of_ok trace answered]
      cases status with
      | decoded =>
          simp only [Journal.note_bind, Journal.entries_pure, List.append_nil]
          rfl
      | failed =>
          simp only [Journal.note_bind, Journal.entries_pure, List.append_nil]
          rfl
      | notApplicable =>
          rw [Decoder.declines_of_ok answered] at settles
          contradiction

/-- Asking logs what each decoder says that is asked, and nothing else. -/
theorem ask_eq (trace : Trace) (frame : Frame) (before : Reading) (found : List Decoder) :
    ask trace frame before found =
      ⟨(asked frame found).flatMap (Decoder.said trace frame), conclusion frame before found⟩ := by
  induction found with
  | nil => rfl
  | cons decoder others ih =>
      cases declines : decoder.declines frame with
      | false =>
          rw [ask_of_settles trace before others declines, asked_of_settles declines,
            List.flatMap_singleton]
      | true =>
          obtain ⟨findings, answered⟩ := Decoder.answer_of_declines declines
          rw [ask_of_declines trace before others answered,
            conclusion_of_declines before others answered, ih, asked_of_declines declines,
            List.flatMap_cons]

theorem decode_of_unknown (trace : Trace) (before : Reading) {registry : Registry}
    (unknown : registry.lookup frame.address.signature = []) :
    registry.decode trace frame before =
      ⟨trace (.noDecoder frame.address.signature frame.address.id), .ok {
        status := .unknownDevice
        reading := { before with error := "no decoder for " ++ frame.address.signature.text }
        decisions := [.noDecoder frame.address.signature frame.address.id] }⟩ := by
  simp only [decode, unknown, Journal.note_bind, Journal.entries_pure, List.append_nil,
    Journal.outcome_pure]

theorem decode_of_known (trace : Trace) (before : Reading) {registry : Registry}
    (known : registry.lookup frame.address.signature ≠ []) :
    registry.decode trace frame before =
      ask trace frame before (registry.lookup frame.address.signature) := by
  cases found : registry.lookup frame.address.signature with
  | nil => contradiction
  | cons decoder others => simp only [decode, found]

/-- What is traced has no influence on how a dispatch ends. -/
theorem decode_untraced (trace other : Trace) (frame : Frame) (before : Reading)
    (registry : Registry) :
    (registry.decode other frame before).outcome =
      (registry.decode trace frame before).outcome := by
  by_cases unknown : registry.lookup frame.address.signature = []
  · rw [decode_of_unknown trace before unknown, decode_of_unknown other before unknown]
  · rw [decode_of_known trace before unknown, decode_of_known other before unknown, ask_eq, ask_eq]

theorem conclusion_congr {other : Frame} (before : Reading)
    (address : other.address = frame.address)
    (answers : ∀ decoder ∈ found, decoder.answer other = decoder.answer frame) :
    conclusion other before found = conclusion frame before found := by
  induction found with
  | nil =>
      simp only [conclusion, address]
      rfl
  | cons decoder others ih =>
      obtain ⟨answer, rest⟩ := List.forall_mem_cons.mp answers
      cases declines : decoder.declines frame with
      | false =>
          have otherDeclines : decoder.declines other = false := by
            rwa [Decoder.declines, answer]
          rw [conclusion_of_settles before others declines,
            conclusion_of_settles before others otherDeclines, answer, address]
      | true =>
          obtain ⟨findings, answered⟩ := Decoder.answer_of_declines declines
          rw [conclusion_of_declines before others answered,
            conclusion_of_declines before others (answer.trans answered), ih rest, address]

theorem decode_of_answers {registry : Registry} {other : Frame} (trace : Trace) (before : Reading)
    (address : other.address = frame.address)
    (answers : ∀ decoder ∈ registry.lookup frame.address.signature,
      decoder.answer other = decoder.answer frame) :
    (registry.decode trace other before).outcome =
      (registry.decode trace frame before).outcome := by
  by_cases unknown : registry.lookup frame.address.signature = []
  · have otherUnknown : registry.lookup other.address.signature = [] := by rwa [address]
    rw [decode_of_unknown trace before unknown, decode_of_unknown trace before otherUnknown,
      address]
  · have otherKnown : registry.lookup other.address.signature ≠ [] := by rwa [address]
    rw [decode_of_known trace before unknown, decode_of_known trace before otherKnown, ask_eq,
      ask_eq, address]
    exact conclusion_congr before address answers

theorem decode_of_failed {registry : Registry} (trace : Trace) (before : Reading)
    (known : registry.lookup frame.address.signature ≠ [])
    (failed : ∀ decoder ∈ registry.lookup frame.address.signature,
      ∃ findings, decoder.answer frame = .ok (.failed, findings)) :
    ∃ dispatch, (registry.decode trace frame before).outcome = .ok dispatch ∧
      dispatch.status = .failed ∧ dispatch.reading.records = before.records := by
  rw [decode_of_known trace before known]
  cases found : registry.lookup frame.address.signature with
  | nil => contradiction
  | cons decoder others =>
      rw [found] at failed
      obtain ⟨findings, answered⟩ := failed decoder List.mem_cons_self
      have settles : decoder.declines frame = false := Decoder.declines_of_ok answered
      rw [ask_of_settles trace before others settles, conclusion_of_settles before others settles,
        answered]
      exact ⟨_, rfl, rfl, rfl⟩

theorem settler?_eq_none_iff :
    settler? frame found = none ↔ ∀ decoder ∈ found, decoder.declines frame = true := by
  simp [settler?]

theorem settler?_settles (settles : settler? frame found = some decoder) :
    decoder.declines frame = false := by
  simpa using List.find?_some settles

theorem known_of_settler? (settles : settler? frame found = some decoder) : found ≠ [] := by
  rintro rfl
  contradiction

theorem settler?_asked_append (settles : settler? frame found = some decoder)
    (rest : List Decoder) :
    settler? frame (asked frame found ++ rest) = some decoder ∧
      asked frame (asked frame found ++ rest) = asked frame found := by
  induction found with
  | nil => contradiction
  | cons first others ih =>
      cases declines : first.declines frame with
      | false =>
          rw [settler?_of_settles declines] at settles
          rw [asked_of_settles declines]
          exact ⟨(settler?_of_settles declines).trans settles, asked_of_settles declines⟩
      | true =>
          rw [settler?_of_declines declines] at settles
          obtain ⟨same, again⟩ := ih settles
          rw [asked_of_declines declines, List.cons_append]
          exact ⟨(settler?_of_declines declines).trans same,
            by rw [asked_of_declines declines, again]⟩

theorem ask_asked_append (trace : Trace) (before : Reading)
    (settles : settler? frame found = some decoder) (rest : List Decoder) :
    ask trace frame before (asked frame found ++ rest) = ask trace frame before found := by
  obtain ⟨same, again⟩ := settler?_asked_append settles rest
  simp only [ask_eq, conclusion, same, again, settles]

theorem asked_prefix (frame : Frame) (found : List Decoder) : asked frame found <+: found := by
  induction found with
  | nil => exact List.prefix_rfl
  | cons decoder others ih =>
      cases declines : decoder.declines frame with
      | false =>
          rw [asked_of_settles declines]
          exact ⟨others, rfl⟩
      | true =>
          rw [asked_of_declines declines]
          exact List.cons_prefix_cons.mpr ⟨rfl, ih⟩

theorem conclusion_ends (frame : Frame) (before : Reading) (found : List Decoder) :
    (∃ dispatch, conclusion frame before found = .ok dispatch) ∨
      ∃ decoder fault, settler? frame found = some decoder ∧
        decoder.answer frame = .error fault ∧ conclusion frame before found = .error fault := by
  unfold conclusion
  cases settler? frame found with
  | none => exact Or.inl ⟨_, rfl⟩
  | some decoder =>
      cases answered : decoder.answer frame with
      | error fault => exact Or.inr ⟨decoder, fault, rfl, answered, by simp only [answered]; rfl⟩
      | ok answer => exact Or.inl ⟨_, by simp only [answered]; rfl⟩

end Registry

end MeterTelegram
