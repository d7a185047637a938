import MeterTelegram.Session
import MeterTelegram.Proofs.Journal

namespace MeterTelegram.Session

/-! What reaches standard output: once the log goes to standard error, only what
is printed. -/

variable {session : Session}

theorem console_toStderr (toStderr : session.log.toStderr = true) (text : Text) :
    session.console text = { session with errorPieces := text :: session.errorPieces } := by
  rw [console, if_pos toStderr]

structure Quiet (before after : Session) : Prop where
  stdout : after.outputPieces = before.outputPieces
  toStderr : after.log.toStderr = true

theorem Quiet.trans {first second third : Session} (before : first.Quiet second)
    (after : second.Quiet third) : first.Quiet third :=
  ⟨after.stdout.trans before.stdout, after.toStderr⟩

theorem consoleMessage_quiet (toStderr : session.log.toStderr = true) (severity : Severity)
    (text : Text) : session.Quiet (session.consoleMessage severity text) := by
  unfold consoleMessage
  split
  · rw [console_toStderr toStderr]
    exact ⟨rfl, toStderr⟩
  · exact ⟨rfl, toStderr⟩

theorem message_quiet (toStderr : session.log.toStderr = true) (severity : Severity)
    (text : Text) : session.Quiet (session.message severity text) := by
  unfold message
  split
  · exact consoleMessage_quiet toStderr severity text
  · split
    · exact ⟨rfl, toStderr⟩
    · split
      · exact ⟨rfl, toStderr⟩
      · have givenUp : session.Quiet { session with log := { session.log with file := none } } :=
          ⟨rfl, toStderr⟩
        have warned := givenUp.trans (consoleMessage_quiet givenUp.toStderr .warning
          "Log file could not be written!\n")
        exact warned.trans (consoleMessage_quiet warned.toStderr severity text)

theorem record_toStderr (toStderr : session.log.toStderr = true) (entry : Entry) :
    (session.record entry).log.toStderr = true := by
  cases entry with
  | message severity text => exact (message_quiet toStderr severity text).toStderr
  | output text => exact toStderr

theorem recordAll_append (session : Session) (earlier later : List Entry) :
    session.recordAll (earlier ++ later) = (session.recordAll earlier).recordAll later :=
  List.foldl_append

theorem recordAll_toStderr (toStderr : session.log.toStderr = true) (entries : List Entry) :
    (session.recordAll entries).log.toStderr = true := by
  induction entries generalizing session with
  | nil => exact toStderr
  | cons entry rest ih => exact ih (record_toStderr toStderr entry)

theorem openLogFile_quiet (toStderr : session.log.toStderr = true) (name : Text) :
    session.Quiet (session.openLogFile name).1 := by
  unfold openLogFile
  split <;> exact ⟨rfl, toStderr⟩

theorem configure_logFile (session : Session) (verbosity : Verbosity) (timestamps : Timestamps)
    (name : Text) :
    let opening := (session.configure ⟨verbosity, timestamps, none⟩).openLogFile name
    session.configure ⟨verbosity, timestamps, some name⟩ =
      if opening.2 then opening.1
      else opening.1.message .warning
        ("Could not open log file \"" ++ name.shown ++ "\", logging to stderr.\n") := by
  intro opening
  rcases opened : opening with ⟨after, success⟩
  dsimp only [opening, configure] at opened ⊢
  rw [opened]
  cases success <;> rfl

/-- Configuring a session opens its log file or warns that it cannot be opened. -/
theorem configure_opens (session : Session) (settings : LogSettings) :
    ∃ opened, session.Quiet opened ∧
      (session.configure settings = opened ∨ ∃ name, settings.file = some name ∧
        session.configure settings = opened.message .warning
          ("Could not open log file \"" ++ name.shown ++ "\", logging to stderr.\n")) := by
  obtain ⟨verbosity, timestamps, file⟩ := settings
  have switched : session.Quiet (session.configure ⟨verbosity, timestamps, none⟩) := ⟨rfl, rfl⟩
  cases file with
  | none => exact ⟨_, switched, .inl rfl⟩
  | some name =>
      rw [configure_logFile]
      refine ⟨_, switched.trans (openLogFile_quiet switched.toStderr name), ?_⟩
      split
      · exact .inl rfl
      · exact .inr ⟨name, rfl, rfl⟩

/-- Configuring a session prints nothing. From then on it logs to standard error, whatever the
settings are. -/
theorem configure_quiet (session : Session) (settings : LogSettings) :
    session.Quiet (session.configure settings) := by
  obtain ⟨opened, quiet, same | ⟨name, -, warned⟩⟩ := configure_opens session settings
  · rwa [same]
  · rw [warned]
    exact quiet.trans (message_quiet quiet.toStderr .warning _)

theorem configure_toStderr (session : Session) (settings : LogSettings) :
    (session.configure settings).log.toStderr = true :=
  (configure_quiet session settings).toStderr

/-- Recording entries prints the outputs among them, in order, and nothing else. -/
theorem stdout_recordAll (toStderr : session.log.toStderr = true) (entries : List Entry) :
    (session.recordAll entries).stdout =
      session.stdout ++ (entries.filterMap Entry.output?).flatten := by
  induction entries generalizing session with
  | nil => simp [recordAll]
  | cons entry rest ih =>
      change ((session.record entry).recordAll rest).stdout = _
      cases entry with
      | message severity text =>
          have quiet := message_quiet toStderr severity text
          rw [ih (record_toStderr toStderr (.message severity text)), record]
          simp only [stdout, quiet.stdout]
          rfl
      | output text =>
          rw [ih (record_toStderr toStderr (.output text)), record]
          simp [stdout, print, Entry.output?]

end MeterTelegram.Session
