import MeterTelegram.Proofs.Directory
import MeterTelegram.Proofs.Session.Delivery

namespace MeterTelegram.Session

/-! A session writes to its log file and to no other: a file that is not the log file stays as
it is, whatever is recorded. -/

variable {session : Session} {file name : Text} {found : List Text × Node}

/-- The session logs to another file than this one. -/
structure Spares (session : Session) (file : Text) (found : List Text × Node) : Prop where
  resolved : session.files.resolve file = .ok found
  apart : ∀ log, session.log.file = some log → Directory.target log ≠ Directory.target file

theorem Spares.of_same {after : Session} (spares : session.Spares file found)
    (files : after.files = session.files)
    (log : after.log.file = session.log.file ∨ after.log.file = none) :
    after.Spares file found := by
  refine ⟨by rw [files]; exact spares.resolved, fun name logged => ?_⟩
  rcases log with kept | closed
  · exact spares.apart name (kept.symm.trans logged)
  · rw [closed] at logged
    contradiction

theorem Spares.consoleMessage (spares : session.Spares file found) (severity : Severity)
    (text : Text) : (session.consoleMessage severity text).Spares file found := by
  unfold Session.consoleMessage Session.console
  split
  · split <;> exact spares.of_same rfl (.inl rfl)
  · exact spares

theorem Spares.message (spares : session.Spares file found) (severity : Severity) (text : Text) :
    (session.message severity text).Spares file found := by
  unfold Session.message
  cases logged : session.log.file with
  | none => exact spares.consoleMessage severity text
  | some name =>
      dsimp only
      split
      · exact spares
      · cases appended : session.files.append? name (session.stamped severity text) with
        | some files =>
            exact ⟨Directory.resolve_append appended (spares.apart name logged) spares.resolved,
              spares.apart⟩
        | none =>
            have givenUp : session.withoutFile.Spares file found := spares.of_same rfl (.inr rfl)
            exact (givenUp.consoleMessage .warning _).consoleMessage severity text

theorem Spares.record (spares : session.Spares file found) (entry : Entry) :
    (session.record entry).Spares file found := by
  cases entry with
  | message severity text => exact spares.message severity text
  | output text => exact spares.of_same rfl (.inl rfl)

theorem Spares.recordAll (spares : session.Spares file found) (entries : List Entry) :
    (session.recordAll entries).Spares file found := by
  induction entries generalizing session with
  | nil => exact spares
  | cons entry rest ih => exact ih (spares.record entry)

theorem spares_openLogFile {place : List Text} {content : Text}
    (resolved : session.files.resolve file = .ok (place, .file content))
    (apart : ¬ session.files.SamePlace name file) :
    (session.openLogFile name).1.Spares file (place, .file content) := by
  unfold openLogFile
  cases appended : session.files.append? name [] with
  | some files =>
      have different := Directory.target_ne_of_append appended resolved apart
      refine ⟨Directory.resolve_append appended different resolved, ?_⟩
      rintro log ⟨⟩
      exact different
  | none => exact ⟨resolved, nofun⟩

/-- Opening the log file spares all other files that are there. -/
theorem spares_configure {place : List Text} {content : Text} {settings : LogSettings}
    (closed : session.log.file = none)
    (resolved : session.files.resolve file = .ok (place, .file content))
    (apart : ∀ log, settings.file = some log → ¬ session.files.SamePlace log file) :
    (session.configure settings).Spares file (place, .file content) := by
  obtain ⟨verbosity, timestamps, logged⟩ := settings
  cases logged with
  | none =>
      refine ⟨resolved, fun log named => ?_⟩
      have unnamed : session.log.file = some log := named
      rw [closed] at unnamed
      contradiction
  | some name =>
      have switched : (session.configure ⟨verbosity, timestamps, none⟩).files.resolve file =
          .ok (place, .file content) := resolved
      have opened := spares_openLogFile switched (apart name rfl)
      rw [configure_logFile]
      split
      · exact opened
      · exact opened.message .warning _

end MeterTelegram.Session
