import MeterTelegram.Proofs.Registry.Scribbling
import MeterTelegram.Proofs.Results

namespace MeterTelegram.Registry

/-! Dispatching a frame: which decoders are asked, what the caller sees afterwards and what
is logged, for decoders of any behaviour. -/

variable {trace : Trace} {frame : Frame} {before : Reading} {decoder : Decoder}
  {found : List Decoder}

/-- A dispatch that returned, by the decoders found for the frame. -/
structure Settled (frame : Frame) (before : Reading) (found : List Decoder)
    (dispatch : Dispatch) : Prop where
  unknownDevice_iff : dispatch.status = .unknownDevice ↔ found = []
  notApplicable_iff : dispatch.status = .notApplicable ↔
    found ≠ [] ∧ ∀ decoder ∈ found, decoder.declines frame = true
  settled : ∀ decoder answer, settler? frame found = some decoder →
    decoder.answer frame = .ok answer →
      (dispatch.status, dispatch.reading) = settle before decoder answer
  unknownDevice : dispatch.status = .unknownDevice →
    dispatch.reading = { before with error := "no decoder for " ++ frame.address.signature.text }
  notApplicable : dispatch.status = .notApplicable →
    dispatch.reading = { before with
      error := "no decoder for " ++ frame.address.signature.text ++
        " understood the coding byte" }
  decisions : dispatch.decisions =
    if found = [] then [.noDecoder frame.address.signature frame.address.id]
    else (asked frame found).filterMap (Decoder.decision? frame)

theorem settled_of_unknown (frame : Frame) (before : Reading) :
    Settled frame before [] {
      status := .unknownDevice
      reading := { before with error := "no decoder for " ++ frame.address.signature.text }
      decisions := [.noDecoder frame.address.signature frame.address.id] } where
  unknownDevice_iff := ⟨fun _ => rfl, fun _ => rfl⟩
  notApplicable_iff := ⟨nofun, fun known => absurd rfl known.1⟩
  settled := nofun
  unknownDevice := fun _ => rfl
  notApplicable := nofun
  decisions := rfl

theorem settled_of_declined {dispatch : Dispatch} (known : found ≠ [])
    (declined : settler? frame found = none)
    (concluded : conclusion frame before found = .ok dispatch) :
    Settled frame before found dispatch := by
  simp only [conclusion, declined, Except.ok.injEq] at concluded
  subst concluded
  have knows : DispatchStatus.notApplicable ≠ .unknownDevice := by decide
  exact
    { unknownDevice_iff :=
        ⟨fun unknown => absurd unknown knows, fun unknown => absurd unknown known⟩
      notApplicable_iff := ⟨fun _ => ⟨known, settler?_eq_none_iff.mp declined⟩, fun _ => rfl⟩
      settled := by simp [declined]
      unknownDevice := fun unknown => absurd unknown knows
      notApplicable := fun _ => rfl
      decisions := (if_neg known).symm }

theorem settle_status (before : Reading) {answer : DecodeStatus × Findings}
    (settles : decoder.declines frame = false) (answered : decoder.answer frame = .ok answer) :
    (settle before decoder answer).1 ≠ .unknownDevice ∧
      (settle before decoder answer).1 ≠ .notApplicable := by
  obtain ⟨status, findings⟩ := answer
  cases status with
  | decoded => exact ⟨nofun, nofun⟩
  | failed => exact ⟨nofun, nofun⟩
  | notApplicable =>
      rw [Decoder.declines_of_ok answered] at settles
      contradiction

theorem settled_of_settles {dispatch : Dispatch} (settles : settler? frame found = some decoder)
    (concluded : conclusion frame before found = .ok dispatch) :
    Settled frame before found dispatch := by
  have known : found ≠ [] := known_of_settler? settles
  simp only [conclusion, settles] at concluded
  obtain ⟨answer, answered, rfl⟩ := Results.ok_of_map concluded
  obtain ⟨knows, applies⟩ := settle_status before (settler?_settles settles) answered
  have firm : ¬ (found ≠ [] ∧ ∀ decoder ∈ found, decoder.declines frame = true) := by
    rintro ⟨_, declined⟩
    rw [settler?_eq_none_iff.mpr declined] at settles
    contradiction
  exact
    { unknownDevice_iff := ⟨fun unknown => absurd unknown knows, fun empty => absurd empty known⟩
      notApplicable_iff :=
        ⟨fun declined => absurd declined applies, fun declined => absurd declined firm⟩
      settled := by
        intro other found same again
        obtain rfl := Option.some.inj (settles.symm.trans same)
        obtain rfl := Except.ok.inj (answered.symm.trans again)
        rfl
      unknownDevice := fun unknown => absurd unknown knows
      notApplicable := fun declined => absurd declined applies
      decisions := (if_neg known).symm }

theorem settled_of_decode {registry : Registry} {dispatch : Dispatch}
    (returned : (registry.decode trace frame before).outcome = .ok dispatch) :
    Settled frame before (registry.lookup frame.address.signature) dispatch := by
  by_cases unknown : registry.lookup frame.address.signature = []
  · rw [decode_of_unknown trace before unknown, Except.ok.injEq] at returned
    rw [unknown, ← returned]
    exact settled_of_unknown frame before
  · rw [decode_of_known trace before unknown, ask_eq] at returned
    cases settles : settler? frame (registry.lookup frame.address.signature) with
    | none => exact settled_of_declined unknown settles returned
    | some decoder => exact settled_of_settles settles returned

/-- A dispatch among decoders that were added in order. -/
structure Dispatches (decoders : List Decoder) (trace : Trace) (frame : Frame)
    (before : Reading) (found : List Decoder) (journal : Journal Record.Fault Dispatch) :
    Prop where
  inOrder : asked frame found <+: found
  logged : journal.entries =
    if found = [] then trace (.noDecoder frame.address.signature frame.address.id)
    else (asked frame found).flatMap (Decoder.said trace frame)
  ends : (∃ dispatch, journal.outcome = .ok dispatch) ∨
    ∃ decoder fault, settler? frame found = some decoder ∧
      decoder.answer frame = .error fault ∧ journal.outcome = .error fault
  settled : ∀ dispatch, journal.outcome = .ok dispatch → Settled frame before found dispatch
  untraced : ∀ other : Trace,
    ((ofDecoders decoders).decode other frame before).outcome = journal.outcome
  unasked : ∀ (other : Registry) (rest : List Decoder), (settler? frame found).isSome = true →
    other.lookup frame.address.signature = asked frame found ++ rest →
      other.decode trace frame before = journal
  unscribbled : ∀ scribble : Decoder → Findings → Findings,
    (ofDecoders (decoders.map (Decoder.scribbling scribble))).decode trace frame before = journal

theorem dispatches_of_unknown {decoders : List Decoder} (trace : Trace) (before : Reading)
    (unknown : (ofDecoders decoders).lookup frame.address.signature = []) :
    Dispatches decoders trace frame before []
      ((ofDecoders decoders).decode trace frame before) where
  inOrder := asked_prefix frame []
  logged := by rw [decode_of_unknown trace before unknown, if_pos rfl]
  ends := Or.inl ⟨_, by rw [decode_of_unknown trace before unknown]⟩
  settled := fun _ returned => unknown ▸ settled_of_decode returned
  untraced := fun other => decode_untraced trace other frame before _
  unasked := nofun
  unscribbled := fun _ => decode_scribbling decoders trace frame before

theorem dispatches_of_known {decoders : List Decoder} (trace : Trace) (before : Reading)
    (known : (ofDecoders decoders).lookup frame.address.signature ≠ []) :
    Dispatches decoders trace frame before
      ((ofDecoders decoders).lookup frame.address.signature)
      ((ofDecoders decoders).decode trace frame before) where
  inOrder := asked_prefix frame _
  logged := by rw [decode_of_known trace before known, ask_eq, if_neg known]
  ends := by
    rw [decode_of_known trace before known, ask_eq]
    exact conclusion_ends frame before _
  settled := fun _ returned => settled_of_decode returned
  untraced := fun other => decode_untraced trace other frame before _
  unasked := by
    intro other rest settles found
    obtain ⟨decoder, settles⟩ := Option.isSome_iff_exists.mp settles
    have occupied : other.lookup frame.address.signature ≠ [] := by
      rw [found, asked, settles]
      simp
    rw [decode_of_known trace before occupied, decode_of_known trace before known, found,
      ask_asked_append trace before settles rest]
  unscribbled := fun _ => decode_scribbling decoders trace frame before

/-- The decoders found for a frame are asked in order until one does not decline. It alone
decides what the caller sees, and what decliners leave in their findings reaches nobody. -/
theorem decode_dispatches (decoders : List Decoder) (trace : Trace) (frame : Frame)
    (before : Reading) :
    Dispatches decoders trace frame before
      ((ofDecoders decoders).lookup frame.address.signature)
      ((ofDecoders decoders).decode trace frame before) := by
  by_cases unknown : (ofDecoders decoders).lookup frame.address.signature = []
  · rw [unknown]
    exact dispatches_of_unknown trace before unknown
  · exact dispatches_of_known trace before unknown

end MeterTelegram.Registry
