import MeterTelegram.Catalogue.Builtin
import MeterTelegram.CommandLine
import MeterTelegram.TelegramFile

namespace MeterTelegram

/-! A whole run of the tool: from the arguments and the files to what is
written and the exit status. -/

/-- A session that has come to its end. -/
structure Finish where
  session : Session
  status : Nat
deriving DecidableEq, Repr

namespace Run

def program : Text := "techemframes"

def version : Text := "1.0.0"

def manual : Text := "
Usage: techemframes \x7boptions\x7d \x7btelegram | telegramfile\x7d*

As \x7boptions\x7d you can use:

    --debug                    for a lot of information
    --format=<hr/json/fields>  for human readable, json or semicolon separated fields
    --help                     list all options
    --listdecoders             list the decoders and the devices they decode
    --logfile=<file>           use this file for logging instead of stderr
    --logtimestamps=<when>     add timestamps to log entries: never/always/important
    --normal                   normal logging
    --rssi=<dBm>               signal strength to attach to the telegrams
    --selectfields=id,current_volume,room_temperature
                               fields and columns to print
    --separator=<c>            change field separator to c
    --silent                   do not print warnings nor errors
    --trace                    for tons of information
    --useconfig=<file>         load settings from this file before the options
    --verbose                  for more information

A telegram is hex, spaces | _ and # are ignored:
    2F446850313233347462A2_069F255900B029310000000306060906030609070606050509050505050407040605070500

A telegram file has one telegram=|hex| per line, lines starting with # are comments.
"

def usage : Text :=
  program ++ " version: " ++ version ++ "\n" ++ manual ++ "\n"

/-- Two lines for each family: its name with the signatures, and its description. -/
def familyLines (family : Family) : Text :=
  let signatures := Text.joined " " (family.signatures.map Signature.text)
  Text.padRight 16 family.name ++ " " ++ signatures ++ "\n" ++
    Text.padRight 16 [] ++ " " ++ family.description ++ "\n"

/-- Decodes one telegram and prints it if it decodes. False only for a text
that is no telegram at all: unknown devices and codings are normal on a shared
radio channel. -/
def decodeTelegram (registry : Registry) (report : Report) (telegram : Text) (signal : Int) :
    Journal Record.Fault Bool := do
  match ← (Frame.receiveText telegram signal).attempt with
  | .error fault => do
      Journal.note [.warning ("(main) bad telegram: " ++ fault.message.shown ++ "\n")]
      return false
  | .ok frame => do
      let dispatch ← registry.decode Registry.debugging frame {}
      let reading := dispatch.reading
      match dispatch.status with
      | .decoded => Journal.note [report.print frame reading.decoder reading.records]
      | .unknownDevice | .notApplicable =>
          Journal.note [.verbose ("(main) ignoring telegram from " ++ frame.text.shown ++ ": " ++
            reading.error.shown ++ "\n")]
      | .failed =>
          Journal.note [.warning ("(" ++ reading.decoder.shown ++
            ") could not decode telegram from " ++ frame.text.shown ++ ": " ++
            reading.error.shown ++ "\n")]
      return true

/-- Decodes telegrams in order; true if all of them were telegrams. -/
def decodeAll (registry : Registry) (report : Report) (signal : Int) :
    List Text → Journal Record.Fault Bool
  | [] => return true
  | telegram :: others => do
      let first ← decodeTelegram registry report telegram signal
      let rest ← decodeAll registry report signal others
      return first && rest

/-- Decodes the telegrams of a file; a file that does not load gives none. -/
def decodeFile (registry : Registry) (report : Report) (signal : Int) (files : Directory)
    (file : Text) : Journal Record.Fault Bool := do
  let load := TelegramFile.load files file []
  Journal.note load.entries
  match load.fault with
  | some fault => do
      Journal.note [.warning ("(main) " ++ fault.message.shown ++ "\n")]
      return false
  | none => decodeAll registry report signal load.telegrams

/-- Decodes telegram files in order, each as it is when its turn comes. -/
def decodeFiles (registry : Registry) (report : Report) (signal : Int) :
    List Text → Session → Session × Except Record.Fault Bool
  | [], session => (session, .ok true)
  | file :: others, session =>
      match session.follow (decodeFile registry report signal session.files file) with
      | (session, .error fault) => (session, .error fault)
      | (session, .ok first) =>
          match decodeFiles registry report signal others session with
          | (session, .error fault) => (session, .error fault)
          | (session, .ok rest) => (session, .ok (first && rest))

/-- Ends a run with a message. -/
def stop (session : Session) (text : Text) : Finish :=
  ⟨session.message .fatal text, 1⟩

def decodeSources (settings : Settings) (registry : Registry) (session : Session) : Finish :=
  let session := session.recordAll
    [.verbose ("(main) " ++ Text.ofNat registry.decoders.length ++ " decoders loaded\n")]
  let report := settings.report
  match session.follow (decodeAll registry report settings.signal settings.telegrams) with
  | (session, .error fault) => stop session fault.message
  | (session, .ok telegrams) =>
      match decodeFiles registry report settings.signal settings.telegramFiles session with
      | (session, .error fault) => stop session fault.message
      | (session, .ok files) =>
          ⟨session.closeLogFile, if telegrams && files then 0 else 1⟩

/-- A run with settings that were read without fault. -/
def withSettings (catalogue : Catalogue) (settings : Settings) (session : Session) : Finish :=
  if settings.needsHelp then ⟨session.print usage, 0⟩
  else
    let session := session.configure settings.log
    if settings.listsDecoders then
      ⟨session.print (catalogue.families.flatMap familyLines), 0⟩
    else if settings.telegrams.isEmpty && settings.telegramFiles.isEmpty then
      stop session "No telegrams to decode.\n"
    else match catalogue.registry with
      | .error broken => stop session broken.message
      | .ok registry => decodeSources settings registry session

/-- A run with these arguments, the program's own name not among them. -/
def ofArguments (files : Directory) (arguments : List Text) : Finish :=
  match (Session.start files).follow (CommandLine.parse files arguments) with
  | (session, .error fault) => stop session fault.message
  | (session, .ok settings) => withSettings Catalogue.builtin settings session

end Run

end MeterTelegram
