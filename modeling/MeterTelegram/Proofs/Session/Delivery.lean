import MeterTelegram.Proofs.Session

namespace MeterTelegram

/-! Where entries go. Until a session is configured, all that is shown goes to standard output.
From then on a message that is shown arrives on standard error or in the log file. -/

/-- What is shown of an entry until the session is configured. -/
def Entry.shownAtFirst? : Entry → Option Text
  | .message .warning text => some text
  | .message .fatal text => some text
  | .message _ _ => none
  | .output text => some text

namespace Session

variable {session : Session} {severity : Severity} {text : Text}

theorem record_atFirst (unconfigured : session.log = {}) (entry : Entry) :
    session.record entry =
      { session with outputPieces := entry.shownAtFirst?.toList ++ session.outputPieces } := by
  obtain ⟨log, files, clock, outputPieces, errorPieces⟩ := session
  obtain rfl : log = {} := unconfigured
  cases entry with
  | message severity text => cases severity <;> rfl
  | output text => rfl

theorem recordAll_atFirst (unconfigured : session.log = {}) (entries : List Entry) :
    session.recordAll entries =
      { session with outputPieces :=
          (entries.filterMap Entry.shownAtFirst?).reverse ++ session.outputPieces } := by
  induction entries generalizing session with
  | nil => rfl
  | cons entry rest ih =>
      change (session.record entry).recordAll rest = _
      have first := record_atFirst unconfigured entry
      rw [ih (by rw [first]; exact unconfigured), first]
      cases shown : entry.shownAtFirst? with
      | none => simp [shown]
      | some text => simp [shown]

theorem stdout_start (files : Directory) (entries : List Entry) :
    ((start files).recordAll entries).stdout =
      (entries.filterMap Entry.shownAtFirst?).flatten := by
  rw [recordAll_atFirst rfl]
  simp [stdout, start]

theorem consoleMessage_of_hidden (off : session.log.shows severity = false) (text : Text) :
    session.consoleMessage severity text = session := by
  simp [consoleMessage, off]

theorem consoleMessage_of_shown (toStderr : session.log.toStderr = true)
    (on : session.log.shows severity = true) (text : Text) :
    session.consoleMessage severity text =
      { session with errorPieces := session.stamped severity text :: session.errorPieces } := by
  rw [consoleMessage, if_pos on, console_toStderr toStderr]

def withoutFile (session : Session) : Session :=
  { session with log := { session.log with file := none } }

theorem shows_withoutFile (session : Session) (severity : Severity) :
    session.withoutFile.log.shows severity = session.log.shows severity := by
  cases severity <;> rfl

/-- Giving up the log file may be shown, and leaves the log as it is but for the file. -/
theorem givenUp_suffix (toStderr : session.log.toStderr = true) (text : Text) :
    let warned := session.withoutFile.consoleMessage .warning text
    warned.log = session.withoutFile.log ∧ warned.clock = session.clock ∧
      session.errorPieces <:+ warned.errorPieces := by
  cases on : session.withoutFile.log.shows .warning with
  | false =>
      rw [consoleMessage_of_hidden on]
      exact ⟨rfl, rfl, List.suffix_rfl⟩
  | true =>
      have givenUp : session.withoutFile.log.toStderr = true := toStderr
      rw [consoleMessage_of_shown givenUp on]
      exact ⟨rfl, rfl, List.suffix_cons _ _⟩

/-- Without a log file no file is touched. -/
theorem record_files (closed : session.log.file = none) (entry : Entry) :
    (session.record entry).log.file = none ∧ (session.record entry).files = session.files := by
  cases entry with
  | message severity text =>
      simp only [record, message, closed, consoleMessage, console]
      split
      · split <;> exact ⟨closed, rfl⟩
      · exact ⟨closed, rfl⟩
  | output text => exact ⟨closed, rfl⟩

theorem recordAll_files (closed : session.log.file = none) (entries : List Entry) :
    (session.recordAll entries).log.file = none ∧
      (session.recordAll entries).files = session.files := by
  induction entries generalizing session with
  | nil => exact ⟨closed, rfl⟩
  | cons entry rest ih =>
      obtain ⟨stillClosed, same⟩ := record_files closed entry
      obtain ⟨atEnd, files⟩ := ih stillClosed
      exact ⟨atEnd, files.trans same⟩

/-- A message is passed over if it is switched off. Otherwise it is the last that was written
to standard error, or it was added to the log file. -/
structure Delivers (before after : Session) (severity : Severity) (text : Text) : Prop
    extends Quiet before after where
  hidden : before.log.shows severity = false → after = before
  arrives : before.log.shows severity = true →
    (∃ earlier, before.errorPieces <:+ earlier ∧
      after.errorPieces = before.stamped severity text :: earlier) ∨
    ∃ name files, before.log.file = some name ∧
      before.files.append? name (before.stamped severity text) = some files ∧
      after = { before with files }

theorem message_delivers (toStderr : session.log.toStderr = true) (severity : Severity)
    (text : Text) : session.Delivers (session.message severity text) severity text where
  toQuiet := message_quiet toStderr severity text
  hidden := by
    intro off
    unfold message
    cases session.log.file with
    | none => exact consoleMessage_of_hidden off text
    | some name => simp [off]
  arrives := by
    intro on
    unfold message
    cases opened : session.log.file with
    | none =>
        refine .inl ⟨session.errorPieces, List.suffix_rfl, ?_⟩
        dsimp only
        rw [consoleMessage_of_shown toStderr on]
    | some name =>
        simp only [on, Bool.not_true, Bool.false_eq_true, if_false]
        cases appended : session.files.append? name (session.stamped severity text) with
        | some files => exact .inr ⟨name, files, rfl, appended, rfl⟩
        | none =>
            -- The warning that the file is lost is written first, the message behind it.
            obtain ⟨log, clock, suffix⟩ :=
              givenUp_suffix toStderr "Log file could not be written!\n"
            refine .inl ⟨_, suffix, ?_⟩
            have stillOn := (shows_withoutFile session severity).trans on
            rw [← log] at stillOn
            change ((session.withoutFile.consoleMessage .warning
              "Log file could not be written!\n").consoleMessage severity text).errorPieces = _
            rw [consoleMessage_of_shown (by rw [log]; exact toStderr) stillOn]
            simp only [stamped, log, clock]
            rfl

/-- A log file that cannot be opened is reported like any other message. -/
theorem configure_delivers (session : Session) (settings : LogSettings) :
    ∃ opened, session.Quiet opened ∧
      (session.configure settings = opened ∨ ∃ name, settings.file = some name ∧
        opened.Delivers (session.configure settings) .warning
          ("Could not open log file \"" ++ name.shown ++ "\", logging to stderr.\n")) := by
  obtain ⟨opened, quiet, same | ⟨name, named, warned⟩⟩ := configure_opens session settings
  · exact ⟨opened, quiet, .inl same⟩
  · refine ⟨opened, quiet, .inr ⟨name, named, ?_⟩⟩
    rw [warned]
    exact message_delivers quiet.toStderr .warning _

end Session

end MeterTelegram
