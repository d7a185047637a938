import MeterTelegram.Settings
import MeterTelegram.TelegramFile
import MeterTelegram.Proofs.Hex

namespace MeterTelegram

/-! Telegrams on their way to the decoders. Whatever is kept as a telegram was accepted as
hexadecimal text, but a separator that splits a byte keeps the text from being read. -/

variable {text telegram file line : Text} {files : Directory}

namespace Frame

theorem ofBytes_hex (bytes : List UInt8) (signal : Int) :
    ofBytes bytes signal ≠ .error (.notHex text) := by
  unfold ofBytes
  split
  · nofun
  · split
    · nofun
    · split
      · nofun
      · split <;> nofun

theorem receive_hex (bytes : List UInt8) (signal : Int) :
    (receive bytes signal).outcome ≠ .error (.notHex text) := by
  unfold receive
  split
  · rename_i fault rejected
    intro refused
    cases refused
    exact ofBytes_hex bytes signal rejected
  · nofun

/-- Accepted text is refused as not hexadecimal exactly if it is not read to its end. -/
theorem receiveText_notHex_iff (accepted : Hex.isTelegram text = true) (signal : Int) :
    (receiveText text signal).outcome = .error (.notHex text) ↔
      (Hex.read text).complete = false := by
  simp only [receiveText, accepted, Bool.not_true, Bool.false_eq_true, if_false]
  cases complete : (Hex.read text).complete with
  | false => exact ⟨fun _ => rfl, fun _ => rfl⟩
  | true =>
      exact ⟨fun refused => absurd refused (receive_hex (Hex.read text).bytes signal), nofun⟩

end Frame

namespace TelegramFile

theorem telegram?_accepted (found : telegram? file line = .ok (some telegram)) :
    Hex.isTelegram telegram = true := by
  unfold telegram? at found
  split at found
  · cases found
  · split at found
    · cases found
    · split at found
      · cases found
      · dsimp only at found
        split at found
        · rename_i accepted
          cases found
          exact accepted
        · cases found

/-- Telegrams are added behind those that are there, and only accepted text is added. -/
theorem collect_accepted (file : Text) (before lines : List Text) :
    ∃ added, (collect file before lines).1 = before ++ added ∧
      ∀ telegram ∈ added, Hex.isTelegram telegram = true := by
  induction lines generalizing before with
  | nil => exact ⟨[], (List.append_nil before).symm, nofun⟩
  | cons line others ih =>
      rw [collect]
      cases found : telegram? file (Text.trim line) with
      | error fault => exact ⟨[], (List.append_nil before).symm, nofun⟩
      | ok kept =>
          cases kept with
          | none => exact ih before
          | some telegram =>
              obtain ⟨added, collected, accepted⟩ := ih (before ++ [telegram])
              rw [List.append_assoc] at collected
              exact ⟨telegram :: added, collected,
                List.forall_mem_cons.mpr ⟨telegram?_accepted found, accepted⟩⟩

theorem load_accepted (files : Directory) (file : Text) (before : List Text) :
    ∃ added, (load files file before).telegrams = before ++ added ∧
      ∀ telegram ∈ added, Hex.isTelegram telegram = true := by
  obtain ⟨added, collected, accepted⟩ :=
    collect_accepted file before (TextLines.load files file).lines
  simp only [load]
  cases (TextLines.load files file).fault with
  | some fault => exact ⟨[], (List.append_nil before).symm, nofun⟩
  | none =>
      refine ⟨added, ?_, accepted⟩
      rw [← collected]
      rcases collect file before (TextLines.load files file).lines with ⟨telegrams, _ | fault⟩
      · rfl
      · rfl

end TelegramFile

theorem Settings.Source.ofText?_accepted
    (found : Settings.Source.ofText? files text = some (.telegram telegram)) :
    Hex.isTelegram telegram = true := by
  simp only [Settings.Source.ofText?] at found
  split at found
  · rename_i accepted
    cases found
    exact accepted
  · split at found <;> cases found

namespace Intake

/-- Text that is kept as a telegram, from the settings or from a telegram file. -/
inductive Kept (telegram : Text) : Prop where
  | given (files : Directory) (text : Text)
      (found : Settings.Source.ofText? files text = some (.telegram telegram))
  | loaded (files : Directory) (file : Text) (before added : List Text)
      (appended : (TelegramFile.load files file before).telegrams = before ++ added)
      (member : telegram ∈ added)

theorem Kept.accepted (kept : Kept telegram) : Hex.isTelegram telegram = true := by
  cases kept with
  | given files text found => exact Settings.Source.ofText?_accepted found
  | loaded files file before added appended member =>
      obtain ⟨others, loaded, accepted⟩ := TelegramFile.load_accepted files file before
      rw [List.append_cancel_left (appended.symm.trans loaded)] at member
      exact accepted telegram member

/-- Accepted text, and so every telegram that is kept, becomes half as many bytes as it has
digits unless a separator splits a byte; then it is refused as not hexadecimal. -/
theorem accepted_converts_iff (text : Text) :
    (Kept text → Hex.isTelegram text = true) ∧
      (Hex.isTelegram text = true →
        ((Hex.read text).complete = true ↔ Hex.Unsplit text.shown) ∧
        ((Hex.read text).complete = true →
          (Hex.read text).bytes.length = (Hex.digits text.shown).length / 2) ∧
        ∀ signal, (Frame.receiveText text signal).outcome = .error (.notHex text) ↔
          ¬ Hex.Unsplit text.shown) := by
  refine ⟨Kept.accepted, fun accepted => ?_⟩
  have converts := Hex.read_complete_iff_unsplit accepted
  refine ⟨converts, Hex.length_read, fun signal => ?_⟩
  rw [Frame.receiveText_notHex_iff accepted signal, ← converts, Bool.not_eq_true]

/-- Two digits that are accepted but belong to no whole byte. -/
def splitByte : Text := "0 0"

theorem splitByte_refused :
    0 ∉ splitByte ∧ Hex.isTelegram splitByte = true ∧ (Hex.digits splitByte).length = 2 ∧
      Hex.read splitByte = ⟨[], false⟩ ∧ Kept splitByte ∧
      (Frame.receiveText splitByte 0).outcome = .error (.notHex splitByte) := by
  have accepted : Hex.isTelegram splitByte = true := by decide +kernel
  have unread : Hex.read splitByte = ⟨[], false⟩ := by decide +kernel
  have kept : Kept splitByte := .given .empty splitByte (by decide +kernel)
  exact ⟨by decide +kernel, accepted, by decide +kernel, unread, kept,
    (Frame.receiveText_notHex_iff accepted 0).mpr (congrArg Hex.Reading.complete unread)⟩

end Intake

end MeterTelegram
