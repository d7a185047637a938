import MeterTelegram.CommandLine
import MeterTelegram.Proofs.ConfigFile.Reading
import MeterTelegram.Proofs.Results
import MeterTelegram.Proofs.Session.Delivery

namespace MeterTelegram

/-! What is shown while the arguments are read: complaints about the config file, and nothing
else if the arguments have no fault. -/

variable {files : Directory} {name content : Text} {arguments : List Text} {settings : Settings}

theorem Settings.Complaint.message_ne_nil (complaint : Settings.Complaint) :
    complaint.message ≠ [] := by
  cases complaint with
  | separator => decide +kernel
  | level given => exact List.append_ne_nil_of_right_ne_nil _ (by decide +kernel)
  | timestamps given => exact List.append_ne_nil_of_right_ne_nil _ (by decide +kernel)
  | format given => exact List.append_ne_nil_of_right_ne_nil _ (by decide +kernel)
  | signal given => exact List.append_ne_nil_of_right_ne_nil _ (by decide +kernel)
  | alreadySelected given => exact List.append_ne_nil_of_right_ne_nil _ (by decide +kernel)
  | field given => exact List.append_ne_nil_of_right_ne_nil _ (by decide +kernel)
  | telegram given => exact List.append_ne_nil_of_right_ne_nil _ (by decide +kernel)
  | key given => exact List.append_ne_nil_of_right_ne_nil _ (by decide +kernel)

theorem Settings.Complaint.flatten_messages_eq_nil {complaints : List Settings.Complaint} :
    (complaints.map Settings.Complaint.message).flatten = [] ↔ complaints = [] := by
  constructor
  · intro silent
    cases complaints with
    | nil => rfl
    | cons complaint others =>
        have first := (List.append_eq_nil_iff.mp silent).1
        exact absurd first complaint.message_ne_nil
  · rintro rfl
    rfl

namespace ConfigFile

/-- What is wrong with pairs that are applied in order. -/
def complaints (files : Directory) : List Pair → Settings → List Settings.Complaint
  | [], _ => []
  | pair :: others, settings =>
      (apply files settings pair).complaints ++
        complaints files others (applied files settings pair)

theorem shownAtFirst_warnings (complaints : List Settings.Complaint) :
    (complaints.map fun complaint => Entry.warning complaint.message).filterMap
        Entry.shownAtFirst? =
      complaints.map Settings.Complaint.message := by
  rw [List.filterMap_map, ← List.filterMap_eq_map]
  rfl

theorem shownAtFirst_applyAll {ε : Type} (files : Directory) (pairs : List Pair)
    (settings : Settings) :
    (applyAll files pairs settings : Journal ε Settings).entries.filterMap Entry.shownAtFirst? =
      (complaints files pairs settings).map Settings.Complaint.message := by
  induction pairs generalizing settings with
  | nil => rfl
  | cons pair others ih =>
      have behind := ih (applied files settings pair)
      have warned := shownAtFirst_warnings (apply files settings pair).complaints
      simp only [applyAll, Journal.note_bind, List.filterMap_append, complaints, List.map_append]
      exact congrArg₂ (· ++ ·) warned behind

theorem shownAtFirst_load (read : files.read name = .ok content) (settings : Settings) :
    (load files name settings).entries.filterMap Entry.shownAtFirst? =
      (complaints files (pairs content) settings).map Settings.Complaint.message := by
  rw [← @shownAtFirst_applyAll Directory.ReadFault]
  simp only [load, read]
  rfl

end ConfigFile

namespace CommandLine

/-- What is wrong with the config file of a run. -/
def complaints (files : Directory) (arguments : List Text) : List Settings.Complaint :=
  match configFile? (arguments.map Text.shown) none with
  | .ok (some name) =>
      match files.read name with
      | .ok content =>
          ConfigFile.complaints files (ConfigFile.pairs content) { configFile := some name }
      | .error _ => []
  | _ => []

theorem shownAtFirst_loadConfig {config : Option Text}
    (chosen : configFile? (arguments.map Text.shown) none = .ok config)
    (loaded : (loadConfig files config).outcome = .ok settings) :
    (loadConfig files config).entries.filterMap Entry.shownAtFirst? =
      (complaints files arguments).map Settings.Complaint.message := by
  cases config with
  | none =>
      rw [complaints, chosen]
      rfl
  | some name =>
      obtain ⟨content, read⟩ := ConfigFile.read_of_load (Results.ok_of_mapError loaded)
      simp only [complaints, chosen, read]
      exact ConfigFile.shownAtFirst_load read _

/-- Arguments without a fault show what is wrong with the config file. -/
theorem shownAtFirst_parse (parsed : (parse files arguments).outcome = .ok settings) :
    (parse files arguments).entries.filterMap Entry.shownAtFirst? =
      (complaints files arguments).map Settings.Complaint.message := by
  cases absent : (arguments.map Text.shown).isEmpty with
  | true =>
      obtain rfl := List.map_eq_nil_iff.mp (List.isEmpty_iff.mp absent)
      rfl
  | false =>
      simp only [parse, absent, Bool.false_eq_true, if_false] at parsed ⊢
      -- Only the config file is loaded with anything to say; the rest of the reading is silent.
      obtain ⟨config, chosen, parsed⟩ := Journal.ok_of_bind parsed
      obtain ⟨configured, loaded, -⟩ := Journal.ok_of_bind parsed
      rw [Journal.bind_of_ok chosen, Journal.entries_bind_of_silent]
      · exact shownAtFirst_loadConfig chosen loaded
      · intro configured
        exact Journal.entries_bind_of_silent fun _ => rfl

end CommandLine

end MeterTelegram
