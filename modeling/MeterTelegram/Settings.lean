import MeterTelegram.Report
import MeterTelegram.Session
import MeterTelegram.Text.Integer

namespace MeterTelegram

/-! The settings of a run, and the values a setting may be given. A value that
is refused leaves the settings as they were. -/

/-- The `signal` is the strength in dBm given to telegrams no radio has received. Two flags say
how telegrams are printed: `json` and `fields`; with neither of them they are printed plainly. -/
structure Settings where
  needsHelp : Bool := false
  log : LogSettings := {}
  listsDecoders : Bool := false
  configFile : Option Text := none
  json : Bool := false
  fields : Bool := false
  separator : UInt8 := 59
  signal : Int := 0
  selected : List Text := []
  telegrams : List Text := []
  telegramFiles : List Text := []
deriving DecidableEq, Repr

namespace Settings

/-- A value of a setting that is refused. -/
inductive Complaint where
  | level (given : Text)
  | timestamps (given : Text)
  | format (given : Text)
  | separator
  | signal (given : Text)
  | alreadySelected (given : Text)
  | field (given : Text)
  | telegram (given : Text)
  | key (given : Text)
deriving DecidableEq, Repr

def Complaint.message : Complaint → Text
  | .level given => "No such log level: \"" ++ given.shown ++ "\"\n"
  | .timestamps given =>
      "No such timestamp setting \"" ++ given.shown ++
        "\" possible values are: never always important\n"
  | .format given => "Unknown output format: \"" ++ given.shown ++ "\"\n"
  | .separator => "Separator must be a single character.\n"
  | .signal given => "Not a valid signal strength in dBm: \"" ++ given.shown ++ "\"\n"
  | .alreadySelected given =>
      "selectfields already used! Ignoring selectfields " ++ given.shown ++ "\n"
  | .field given => "No such field: \"" ++ given.shown ++ "\"\n"
  | .telegram given => "Not a telegram nor a telegram file: \"" ++ given.shown ++ "\"\n"
  | .key given => "No such key: " ++ given.shown ++ "\n"

def minSignal : Int := -200

def maxSignal : Int := 100

/-- A signal strength is a decimal integer with nothing behind it. What follows
a NUL byte is not looked at, and a text that begins with one counts as zero. -/
def signal? (text : Text) : Option Int :=
  if text.isEmpty then none
  else if text.shown.isEmpty then some 0
  else match Text.leadingLong? text.shown with
    | some (value, []) =>
        if minSignal ≤ value ∧ value ≤ maxSignal then some value else none
    | _ => none

def separator? (text : Text) : Option UInt8 :=
  match text with
  | [byte] => some byte
  | _ => none

/-- Where telegrams come from. -/
inductive Source where
  | telegram (text : Text)
  | file (name : Text)
deriving DecidableEq, Repr

/-- Hexadecimal text is a telegram, all else has to name a file. -/
def Source.ofText? (files : Directory) (text : Text) : Option Source :=
  let trimmed := text.trim
  if Hex.isTelegram trimmed then some (.telegram trimmed)
  else if files.isFile trimmed then some (.file trimmed)
  else none

def setLevel (settings : Settings) (verbosity : Verbosity) : Settings :=
  { settings with log := { settings.log with verbosity } }

def setTimestamps (settings : Settings) (timestamps : Timestamps) : Settings :=
  { settings with log := { settings.log with timestamps } }

def setLogFile (settings : Settings) (name : Text) : Settings :=
  { settings with log := { settings.log with file := some name } }

def addSource (settings : Settings) : Source → Settings
  | .telegram text => { settings with telegrams := settings.telegrams ++ [text] }
  | .file name => { settings with telegramFiles := settings.telegramFiles ++ [name] }

/-- Settings after a value was given, and what was wrong with it. -/
structure Update where
  settings : Settings
  complaints : List Complaint
deriving DecidableEq, Repr

def accept (settings : Settings) : Update :=
  ⟨settings, []⟩

def refuse (settings : Settings) (complaint : Complaint) : Update :=
  ⟨settings, [complaint]⟩

def giveLevel (settings : Settings) (value : Text) : Update :=
  match Verbosity.ofName? value with
  | some verbosity => (settings.setLevel verbosity).accept
  | none => settings.refuse (.level value)

def giveTimestamps (settings : Settings) (value : Text) : Update :=
  match Timestamps.ofName? value with
  | some timestamps => (settings.setTimestamps timestamps).accept
  | none => settings.refuse (.timestamps value)

/-- An empty name is passed over. -/
def giveLogFile (settings : Settings) (value : Text) : Update :=
  if value.isEmpty then settings.accept else (settings.setLogFile value).accept

def giveFormat (settings : Settings) (value : Text) : Update :=
  if value = "hr" then { settings with json := false, fields := false }.accept
  else if value = "json" then { settings with json := true, fields := false }.accept
  else if value = "fields" then { settings with json := false, fields := true }.accept
  else settings.refuse (.format value)

def giveSeparator (settings : Settings) (value : Text) : Update :=
  match separator? value with
  | some separator => { settings with separator }.accept
  | none => settings.refuse .separator

def giveSignal (settings : Settings) (value : Text) : Update :=
  match signal? value with
  | some signal => { settings with signal }.accept
  | none => settings.refuse (.signal value)

/-- Fields are selected once; names that do not exist are kept as empty columns. -/
def giveSelected (settings : Settings) (value : Text) : Update :=
  if settings.selected.isEmpty then
    let selected := Text.pieces 44 value
    ⟨{ settings with selected },
      (selected.filter (fun field => !Report.isSelectable field)).map Complaint.field⟩
  else settings.refuse (.alreadySelected value)

def giveTelegram (files : Directory) (settings : Settings) (value : Text) : Update :=
  match Source.ofText? files value with
  | some source => (settings.addSource source).accept
  | none => settings.refuse (.telegram value)

/-- The keys of a config file. -/
inductive Key where
  | level
  | timestamps
  | logFile
  | format
  | separator
  | signal
  | selected
  | telegram
deriving DecidableEq, Repr

def Key.all : List Key :=
  [level, timestamps, logFile, format, separator, signal, selected, telegram]

def Key.name : Key → Text
  | level => "loglevel"
  | timestamps => "logtimestamps"
  | logFile => "logfile"
  | format => "format"
  | separator => "separator"
  | signal => "rssi"
  | selected => "selectfields"
  | telegram => "telegram"

def Key.ofName? (name : Text) : Option Key :=
  Key.all.find? (fun key => key.name == name)

def give (files : Directory) (settings : Settings) (value : Text) : Key → Update
  | .level => settings.giveLevel value
  | .timestamps => settings.giveTimestamps value
  | .logFile => settings.giveLogFile value
  | .format => settings.giveFormat value
  | .separator => settings.giveSeparator value
  | .signal => settings.giveSignal value
  | .selected => settings.giveSelected value
  | .telegram => settings.giveTelegram files value

def format (settings : Settings) : Format :=
  Format.ofFlags settings.json settings.fields

/-- How the settings say that decoded telegrams are printed. -/
def report (settings : Settings) : Report :=
  { format := settings.format, separator := settings.separator, selected := settings.selected }

end Settings

end MeterTelegram
