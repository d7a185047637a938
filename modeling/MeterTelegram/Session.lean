import MeterTelegram.Directory
import MeterTelegram.Journal

namespace MeterTelegram

/-! A session follows journals: it decides which entries are shown and writes
them to standard output, standard error or a log file. -/

inductive Timestamps where
  | notSet
  | never
  | always
  | important
deriving DecidableEq, Repr

def Timestamps.ofName? (name : Text) : Option Timestamps :=
  if name = "never" then some .never
  else if name = "always" then some .always
  else if name = "important" then some .important
  else none

/-- How much is logged, as asked for; `Verbosity.normal` shows warnings only. -/
structure Verbosity where
  silent : Bool := false
  verbose : Bool := false
  debug : Bool := false
  trace : Bool := false
deriving DecidableEq, Repr

namespace Verbosity

def normal : Verbosity := {}

def ofName? (name : Text) : Option Verbosity :=
  if name = "verbose" then some { verbose := true }
  else if name = "debug" then some { debug := true }
  else if name = "trace" then some { trace := true }
  else if name = "silent" then some { silent := true }
  else if name = "normal" then some normal
  else none

end Verbosity

/-- The switches of the log. Debugging turns verbose messages on, tracing both. -/
structure Log where
  silent : Bool := false
  verbose : Bool := false
  debug : Bool := false
  trace : Bool := false
  timestamps : Timestamps := .notSet
  toStderr : Bool := false
  file : Option Text := none
deriving DecidableEq, Repr

namespace Log

def setVerbose (log : Log) (on : Bool) : Log :=
  { log with verbose := on }

def setDebug (log : Log) (on : Bool) : Log :=
  { log with debug := on, verbose := log.verbose || on }

def setTrace (log : Log) (on : Bool) : Log :=
  { log with trace := on, debug := log.debug || on, verbose := log.verbose || on }

def shows (log : Log) : Severity → Bool
  | .warning => !log.silent
  | .verbose => log.verbose
  | .debug => log.debug
  | .trace => log.trace
  | .fatal => true

/-- Warnings and fatal messages are the important ones. -/
def stamps (log : Log) (severity : Severity) : Bool :=
  log.timestamps = .always ||
    log.timestamps = .important && (severity = .warning || severity = .fatal)

end Log

/-- Log settings as they are configured. -/
structure LogSettings where
  verbosity : Verbosity := {}
  timestamps : Timestamps := .notSet
  file : Option Text := none
deriving DecidableEq, Repr

/-- The pieces written to standard output and standard error, the last one first. -/
structure Session where
  log : Log
  files : Directory
  clock : Text
  outputPieces : List Text
  errorPieces : List Text
deriving DecidableEq, Repr

namespace Session

/-- What the clock shows where time stands still. -/
def epoch : Text := "1970-01-01_00:00:00"

def start (files : Directory) : Session :=
  { log := {}, files, clock := epoch, outputPieces := [], errorPieces := [] }

def stdout (session : Session) : Text :=
  session.outputPieces.reverse.flatten

def stderr (session : Session) : Text :=
  session.errorPieces.reverse.flatten

/-- All that was written, standard output first. -/
def written (session : Session) : Text :=
  session.stdout ++ session.stderr

def print (session : Session) (text : Text) : Session :=
  { session with outputPieces := text :: session.outputPieces }

def console (session : Session) (text : Text) : Session :=
  if session.log.toStderr then { session with errorPieces := text :: session.errorPieces }
  else session.print text

def stamped (session : Session) (severity : Severity) (text : Text) : Text :=
  if session.log.stamps severity then "[" ++ session.clock ++ "] " ++ text else text

def consoleMessage (session : Session) (severity : Severity) (text : Text) : Session :=
  if session.log.shows severity then session.console (session.stamped severity text) else session

/-- Shows a message unless it is switched off. A log file that cannot be
written is given up, and the message goes to the console behind a warning. -/
def message (session : Session) (severity : Severity) (text : Text) : Session :=
  match session.log.file with
  | none => session.consoleMessage severity text
  | some name =>
      if !session.log.shows severity then session
      else match session.files.append? name (session.stamped severity text) with
        | some files => { session with files }
        | none =>
            let withoutFile := { session with log := { session.log with file := none } }
            (withoutFile.consoleMessage .warning "Log file could not be written!\n").consoleMessage
              severity text

def record (session : Session) : Entry → Session
  | .message severity text => session.message severity text
  | .output text => session.print text

def recordAll (session : Session) (entries : List Entry) : Session :=
  entries.foldl record session

/-- Records what a computation said and hands on its result. -/
def follow {ε α : Type} (session : Session) (journal : Journal ε α) : Session × Except ε α :=
  (session.recordAll journal.entries, journal.outcome)

/-- Opens a log file; without success nothing is logged to a file. -/
def openLogFile (session : Session) (name : Text) : Session × Bool :=
  match session.files.append? name [] with
  | some files => ({ session with files, log := { session.log with file := some name } }, true)
  | none => ({ session with log := { session.log with file := none } }, false)

def closeLogFile (session : Session) : Session :=
  { session with log := { session.log with file := none } }

/-- Applies configured log settings; from then on the log goes to standard error. -/
def configure (session : Session) (settings : LogSettings) : Session :=
  let verbosity := settings.verbosity
  let log :=
    ((({ session.log with toStderr := true, silent := verbosity.silent }.setVerbose
      (verbosity.verbose || verbosity.debug || verbosity.trace)).setDebug
      (verbosity.debug || verbosity.trace)).setTrace verbosity.trace)
  let session := { session with log := { log with timestamps := settings.timestamps } }
  match settings.file with
  | none => session
  | some name =>
      match session.openLogFile name with
      | (session, true) => session
      | (session, false) =>
          session.message .warning
            ("Could not open log file \"" ++ name.shown ++ "\", logging to stderr.\n")

end Session

end MeterTelegram
