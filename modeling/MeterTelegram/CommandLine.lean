import MeterTelegram.ConfigFile

namespace MeterTelegram.CommandLine

/-! The command line: options, then telegrams and telegram files. The last
config file named before `--` is loaded first, then the options override it. -/

inductive Fault where
  | noConfigFile
  | unreadableConfig (name : Text)
  | timestamps (given : Text)
  | format (given : Text)
  | separator
  | field (given : Text)
  | noFields
  | signal (given : Text)
  | noLogFile
  | unknownOption (given : Text)
  | noSource (given : Text)
deriving DecidableEq, Repr

def Fault.message : Fault → Text
  | .noConfigFile => "You must supply a file to --useconfig=file\n"
  | .unreadableConfig name => "Could not load config file \"" ++ name.shown ++ "\"\n"
  | .timestamps given => (Settings.Complaint.timestamps given).message
  | .format given => (Settings.Complaint.format given).message
  | .separator => "You must supply a single character as the field separator.\n"
  | .field given => (Settings.Complaint.field given).message
  | .noFields => "You must supply fields to be selected.\n"
  | .signal given => (Settings.Complaint.signal given).message
  | .noLogFile => "Not a valid log file name.\n"
  | .unknownOption given => "Unknown option \"" ++ given.shown ++ "\"\n"
  | .noSource given => "Not a hex telegram nor a telegram file: \"" ++ given.shown ++ "\"\n"

/-- An argument in the place of an option. -/
inductive Switch where
  | help
  | configFile
  | level (verbosity : Verbosity)
  | timestamps (value : Text)
  | listDecoders
  | format (value : Text)
  | separator (value : Text)
  | selected (value : Text)
  | signal (value : Text)
  | logFile (value : Text)
  | endOfOptions
  | unknown (argument : Text)
deriving DecidableEq, Repr

namespace Switch

/-- Options that stand for themselves. -/
def words : List (Text × Switch) :=
  [ ("-h", help), ("-help", help), ("--help", help),
    ("--silent", level { silent := true }),
    ("--verbose", level { verbose := true }),
    ("--normal", level Verbosity.normal),
    ("--debug", level { debug := true }),
    ("--trace", level { trace := true }),
    ("--listdecoders", listDecoders),
    ("--", endOfOptions) ]

/-- Options with a value behind an equals sign. -/
def valued : List (Text × (Text → Switch)) :=
  [ ("--useconfig=", fun _ => configFile),
    ("--logtimestamps=", timestamps),
    ("--format=", format),
    ("--separator=", separator),
    ("--selectfields=", selected),
    ("--rssi=", signal),
    ("--logfile=", logFile) ]

def ofArgument (argument : Text) : Switch :=
  match words.lookup argument with
  | some switch => switch
  | none =>
      match valued.find? (fun (name, _) => argument.startsWith name) with
      | some (name, make) => make (argument.drop name.length)
      | none => unknown argument

end Switch

def isOption (argument : Text) : Bool :=
  argument.head? = some 45

def configOption : Text := "--useconfig"

/-- The last config file named before the end of the options. -/
def configFile? : List Text → Option Text → Except Fault (Option Text)
  | [], found => .ok found
  | argument :: others, found =>
      if argument = "--" then .ok found
      else if argument.startsWith configOption then
        match argument.drop configOption.length with
        | 61 :: byte :: rest => configFile? others (some (byte :: rest))
        | _ => .error .noConfigFile
      else configFile? others found

/-- Fields selected here replace those of the config file. -/
def select (settings : Settings) (value : Text) : Except Fault Settings :=
  if value.isEmpty then .error .noFields
  else
    let fields := Text.pieces 44 value
    match fields.find? (fun field => !Report.isSelectable field) with
    | some field => .error (.field field)
    | none => .ok { settings with selected := fields }

/-- The settings after a switch; help and the end of the options change nothing. -/
def obey (settings : Settings) : Switch → Except Fault Settings
  | .help => .ok settings
  | .configFile => .ok settings
  | .level verbosity => .ok (settings.setLevel verbosity)
  | .timestamps value =>
      match Timestamps.ofName? value with
      | some timestamps => .ok (settings.setTimestamps timestamps)
      | none => .error (.timestamps value)
  | .listDecoders => .ok { settings with listsDecoders := true }
  | .format value =>
      if value = "json" then .ok { settings with json := true, fields := false }
      else if value = "fields" then .ok { settings with json := false, fields := true }
      else if value = "hr" then .ok { settings with json := false, fields := false }
      else .error (.format value)
  | .separator value =>
      match Settings.separator? value with
      | some separator => .ok { settings with separator }
      | none => .error .separator
  | .selected value => select settings value
  | .signal value =>
      match Settings.signal? value with
      | some signal => .ok { settings with signal }
      | none => .error (.signal value)
  | .logFile value =>
      if value.isEmpty then .error .noLogFile else .ok (settings.setLogFile value)
  | .endOfOptions => .ok settings
  | .unknown argument => .error (.unknownOption argument)

/-- Settings after the options and the arguments behind them. Help ends the reading. -/
def readOptions (settings : Settings) : List Text → Except Fault (Settings × List Text)
  | [] => .ok (settings, [])
  | argument :: others =>
      if !isOption argument then .ok (settings, argument :: others)
      else match Switch.ofArgument argument with
        | .help => .ok ({ settings with needsHelp := true }, [])
        | .endOfOptions => .ok (settings, others)
        | switch =>
            match obey settings switch with
            | .error fault => .error fault
            | .ok settings => readOptions settings others

def readSources (files : Directory) (settings : Settings) : List Text → Except Fault Settings
  | [] => .ok settings
  | argument :: others =>
      match Settings.Source.ofText? files argument with
      | some source => readSources files (settings.addSource source) others
      | none => .error (.noSource argument)

/-- Settings of the config file, if one is named. -/
def loadConfig (files : Directory) : Option Text → Journal Fault Settings
  | none => return {}
  | some name =>
      (ConfigFile.load files name { configFile := some name }).mapFault
        (fun _ => .unreadableConfig name)

/-- Reads the arguments of a run; without any, help is needed. Arguments end at
their first NUL byte. -/
def parse (files : Directory) (arguments : List Text) : Journal Fault Settings :=
  let arguments := arguments.map Text.shown
  if arguments.isEmpty then return { needsHelp := true }
  else do
    let config ← Journal.ofExcept (configFile? arguments none)
    let configured ← loadConfig files config
    let (settings, sources) ← Journal.ofExcept (readOptions configured arguments)
    Journal.ofExcept (readSources files settings sources)

end MeterTelegram.CommandLine
