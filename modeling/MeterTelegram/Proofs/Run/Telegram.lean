import MeterTelegram.Run
import MeterTelegram.Proofs.Catalogue
import MeterTelegram.Proofs.Frame
import MeterTelegram.Proofs.Layout.Access
import MeterTelegram.Proofs.Session

namespace MeterTelegram.Run

/-! Decoding one telegram: it always ends, it says whether the text was a telegram,
and it prints one line exactly if some decoder decoded the frame. -/

variable {registry : Registry} {report : Report} {telegram : Text} {signal : Int}
  {frame : Frame} {dispatch : Dispatch}

def printed (report : Report) (frame : Frame) (dispatch : Dispatch) : List Text :=
  if dispatch.status = .decoded then
    [(report.line frame dispatch.reading.decoder dispatch.reading.records).shown ++ "\n"]
  else []

theorem decodeTelegram_of_fault (registry : Registry) (report : Report) {fault : Frame.Fault}
    (rejected : (Frame.receiveText telegram signal).outcome = .error fault) :
    (decodeTelegram registry report telegram signal).outcome = .ok false ∧
      (decodeTelegram registry report telegram signal).outputs = [] := by
  have attempted : (Frame.receiveText telegram signal).attempt.outcome =
      (.ok (.error fault) : Except Record.Fault _) := congrArg Except.ok rejected
  have silent := Frame.receiveText_silent telegram signal
  unfold decodeTelegram
  rw [Journal.outcome_bind attempted, Journal.outputs_bind attempted, Journal.outputs_attempt,
    silent]
  exact ⟨rfl, rfl⟩

theorem decodeTelegram_of_frame (report : Report)
    (received : (Frame.receiveText telegram signal).outcome = .ok frame)
    (dispatched : (registry.decode Registry.debugging frame {}).outcome = .ok dispatch)
    (silent : (registry.decode Registry.debugging frame {}).outputs = []) :
    (decodeTelegram registry report telegram signal).outcome = .ok true ∧
      (decodeTelegram registry report telegram signal).outputs =
        printed report frame dispatch := by
  have attempted : (Frame.receiveText telegram signal).attempt.outcome =
      (.ok (.ok frame) : Except Record.Fault _) := congrArg Except.ok received
  have arrived := Frame.receiveText_silent telegram signal
  unfold decodeTelegram
  rw [Journal.outcome_bind attempted, Journal.outputs_bind attempted, Journal.outputs_attempt,
    arrived, List.nil_append, Journal.outcome_bind dispatched, Journal.outputs_bind dispatched,
    silent, List.nil_append]
  cases status : dispatch.status with
  | decoded => exact ⟨rfl, by rw [printed, if_pos status]; rfl⟩
  | notApplicable => exact ⟨rfl, by rw [printed, status]; rfl⟩
  | failed => exact ⟨rfl, by rw [printed, status]; rfl⟩
  | unknownDevice => exact ⟨rfl, by rw [printed, status]; rfl⟩

/-- No byte beyond the end of a telegram is reached for, neither by the frame nor by the
decoders that may be asked. -/
structure StaysInside (registry : Registry) (telegram : Text) (signal : Int) : Prop where
  receiving :
    Frame.receiveTextChecked telegram signal = .ok (Frame.receiveText telegram signal)
  decoding : ∀ frame, (Frame.receiveText telegram signal).outcome = .ok frame →
    ∀ decoder ∈ registry.lookup frame.address.signature,
      ∃ family ∈ Catalogue.builtin.families, decoder = family.reader ∧
        ∀ findings, family.layout.decodeIntoChecked family.name frame findings =
          .ok (decoder.decode frame findings)

/-- How decoding a telegram ends and what reaches standard output. -/
structure Endures (registry : Registry) (report : Report) (telegram : Text) (signal : Int) :
    Prop where
  ends : ∃ accepted, (decodeTelegram registry report telegram signal).outcome = .ok accepted ∧
    (accepted = false ↔ ∃ fault, (Frame.receiveText telegram signal).outcome = .error fault)
  rejected : ∀ fault, (Frame.receiveText telegram signal).outcome = .error fault →
    (decodeTelegram registry report telegram signal).outputs = []
  dispatched : ∀ frame, (Frame.receiveText telegram signal).outcome = .ok frame →
    ∃ dispatch, (registry.decode Registry.debugging frame {}).outcome = .ok dispatch ∧
      (decodeTelegram registry report telegram signal).outputs = printed report frame dispatch
  stdout : ∀ (first : Session) (settings : LogSettings) (said : List Entry),
    let session := (first.configure settings).recordAll said
    (session.follow (decodeTelegram registry report telegram signal)).1.stdout =
      session.stdout ++ (decodeTelegram registry report telegram signal).outputs.flatten

theorem endures_of_calm
    (calm : ∀ signature, ∀ decoder ∈ registry.lookup signature, decoder.Calm) :
    Endures registry report telegram signal := by
  have stdout (first : Session) (settings : LogSettings) (said : List Entry) :=
    Session.stdout_recordAll
      (Session.recordAll_toStderr (first.configure_toStderr settings) said)
      (decodeTelegram registry report telegram signal).entries
  cases received : (Frame.receiveText telegram signal).outcome with
  | error fault =>
      obtain ⟨outcome, outputs⟩ := decodeTelegram_of_fault registry report received
      exact
        { ends := ⟨false, outcome, fun _ => ⟨fault, received⟩, fun _ => rfl⟩
          rejected := fun _ _ => outputs
          dispatched := by
            intro frame accepted
            rw [received] at accepted
            contradiction
          stdout }
  | ok frame =>
      have dispatching : (registry.decode Registry.debugging frame {}).Calm :=
        Registry.decode_calm Registry.debugging_silent (calm frame.address.signature)
      obtain ⟨⟨dispatch, dispatched⟩, silent⟩ := dispatching
      obtain ⟨outcome, outputs⟩ := decodeTelegram_of_frame report received dispatched silent
      have accepted : ¬ ∃ fault, (Frame.receiveText telegram signal).outcome = .error fault := by
        rintro ⟨fault, rejected⟩
        rw [received] at rejected
        contradiction
      exact
        { ends := ⟨true, outcome, nofun, fun rejected => absurd rejected accepted⟩
          rejected := fun fault rejected => absurd ⟨fault, rejected⟩ accepted
          dispatched := by
            intro other same
            obtain rfl := Except.ok.inj (received.symm.trans same)
            exact ⟨dispatch, dispatched, outputs⟩
          stdout }

theorem readers_stayInside (telegram : Text) (signal : Int) :
    StaysInside Catalogue.builtin.readers telegram signal where
  receiving := Frame.receiveTextChecked_eq telegram signal
  decoding := by
    intro frame _ decoder member
    obtain ⟨family, listed, rfl⟩ := Catalogue.reader_of_lookup member
    exact ⟨family, listed, rfl, Layout.decodeIntoChecked_eq family.name family.layout frame⟩

/-- No text given as a telegram can stop the tool. -/
theorem decodeTelegram_builtin :
    ∃ registry, Catalogue.builtin.registry = .ok registry ∧
      ∀ report telegram signal, StaysInside registry telegram signal ∧
        Endures registry report telegram signal := by
  refine ⟨_, Catalogue.registry_of_readable Catalogue.builtin_readable, ?_⟩
  intro report telegram signal
  exact ⟨readers_stayInside telegram signal,
    endures_of_calm fun _ _ member =>
      Catalogue.readers_calm Catalogue.builtin_readable member⟩

end MeterTelegram.Run
