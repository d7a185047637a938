import MeterTelegram.CommandLine
import MeterTelegram.SelfCheck.Decoders
import MeterTelegram.TelegramFile

namespace MeterTelegram.SelfCheck

/-! Checks of reports, config files, telegram files and the command line. -/

def checkReports : Check PUnit := do
  let decoder ← decoderOf "fhkvdataiii_94"
  let frame ← frameOf allocator94Sample.telegram sampleSignal
  let (status, findings) ← decode decoder frame []
  Check.expect "the sample decodes" (status = .decoded)
  let records := findings.records
  let all : Report := { format := .json, separator := 59, selected := [] }
  Check.expect "JSON"
    (Report.jsonLine frame decoder.name records =
      "\x7b\"_\":\"telegram\",\"media\":\"heat cost allocation\"," ++
        "\"decoder\":\"fhkvdataiii_94\",\"id\":\"11111234\",\"current_volume_hca\":4," ++
        "\"current_reading_date\":\"2021-02-05\",\"past_volume_hca\":45," ++
        "\"past_reading_date\":\"2020-12-31\",\"rssi_dbm\":10,\"room_temperature_c\":22.37," ++
        "\"radiator_temperature_c\":23.6\x7d")
  Check.expect "fields"
    (all.fieldsLine frame decoder.name records =
      "fhkvdataiii_94;11111234;4;2021-02-05;45;2020-12-31;10;22.37;23.6")
  Check.expect "plain text"
    (all.plainLine frame decoder.name records =
      "fhkvdataiii_94\t11111234\t4 hca\t2021-02-05\t45 hca\t2020-12-31\t10 dBm\t22.37 °C\t" ++
        "23.6 °C")
  let chosen : Report :=
    { format := .fields
      separator := 44
      selected := ["id", "room_temperature", "media", "current_volume", "past_volume"] }
  Check.expect "selected fields"
    (chosen.fieldsLine frame decoder.name records = "11111234,22.37,heat cost allocation,4,45")
  let frame ← frameOf otherWarmWaterSample.telegram 0
  let decoder ← decoderOf "mkradio3"
  let (status, findings) ← decode decoder frame records
  Check.expect "the water sample decodes" (status = .decoded)
  Check.expect "a missing record is an empty column"
    (chosen.fieldsLine frame decoder.name findings.records = "34333231,,warm water,4.9,8.9")
  Check.expect "name in JSON"
    (findings.records.head?.map Record.jsonName = some "current_volume_m3")

/-- The name of the file a check works with. -/
def checkFile : Text := "/tmp/techemframes_testXXXXXX"

/-- A directory that holds one file. -/
def withContent (content : Text) : Directory :=
  Directory.empty.place checkFile (some content)

def sampleConfig : Text :=
  "# Decode the telegrams from the basement.\n" ++ "loglevel=verbose\n" ++ "\n" ++
    "format = fields\n" ++ "separator=,\n" ++ "rssi=-71\n" ++
    "selectfields=id,current_volume\n" ++ "telegram=" ++ otherWarmWaterSample.telegram ++ "\n"

def sampleTelegramFile : Text :=
  "# telegrams\n" ++ "telegram=|" ++ allocator94Sample.telegram ++ "|\n" ++ "\n" ++
    "telegram=|2F446850200141029562A2_06702901006017030004000300000000000000000000000" ++
    "000000000000000000000000000|\n"

def checkConfigFiles : Check PUnit := do
  let settings ← Check.follow "a config file loads"
    (ConfigFile.load (withContent sampleConfig) checkFile {})
  Check.expect "settings of a config file"
    (settings.log.verbosity.verbose && !settings.log.verbosity.debug &&
      settings.format = .fields && settings.separator = 44 && settings.signal = -71 &&
      Text.joined "," settings.selected = "id,current_volume" && settings.telegrams.length = 1)
  let files := withContent sampleTelegramFile
  let load := TelegramFile.load files checkFile []
  Check.note load.entries
  Check.expect "telegrams of a file"
    (load.fault.isNone && load.telegrams.length = 2 &&
      load.telegrams.head? = some allocator94Sample.telegram)
  let update := settings.giveTelegram files checkFile
  Check.expect "a telegram file is known by its name"
    (settings.telegramFiles.isEmpty && update.complaints.isEmpty &&
      update.settings.telegramFiles.length = 1)
  let load := TelegramFile.load (withContent "hello\n") checkFile []
  Check.note load.entries
  Check.expect "a file without telegrams is refused"
    (load.fault.isSome && load.telegrams.isEmpty)
  Check.expect "a missing file is no telegram"
    (!(update.settings.giveTelegram Directory.empty "/no/such/telegrams.txt").complaints.isEmpty)

def parsed (files : Directory) (arguments : List Text) : Check Settings :=
  Check.follow "arguments are accepted" (CommandLine.parse files arguments)

/-- Whether arguments are refused; what is logged meanwhile is not kept. -/
def isRefused (arguments : List Text) : Bool :=
  (CommandLine.parse Directory.empty arguments).outcome.toOption.isNone

def checkArguments : Check PUnit := do
  let settings ← parsed Directory.empty []
  Check.expect "help without arguments" settings.needsHelp
  let settings ← parsed Directory.empty
    ["--format=json", "--rssi=-65", "--selectfields=id,rssi", "--listdecoders",
      waterMeter4Sample.telegram]
  Check.expect "options and a telegram"
    (settings.format = .json && settings.signal = -65 && settings.selected.length = 2 &&
      settings.listsDecoders && settings.telegrams = [waterMeter4Sample.telegram])
  let settings ← parsed Directory.empty
    ["--trace", "--format=fields", "--separator=|", allocator94Sample.telegram,
      allocator69Sample.telegram]
  Check.expect "options and two telegrams"
    (settings.log.verbosity.trace && settings.format = .fields && settings.separator = 124 &&
      settings.telegrams.length = 2)
  let files := withContent "format=fields\nrssi=-50\nloglevel=silent\n"
  let settings ← parsed files ["--rssi=-40", "--useconfig=" ++ checkFile]
  Check.expect "options override the config file"
    (settings.format = .fields && settings.signal = -40 && settings.log.verbosity.silent &&
      settings.configFile = some checkFile)

def checkChoices : Check PUnit := do
  Check.expect "fields that can be selected"
    (Report.isSelectable "id" && Report.isSelectable "media" &&
      Report.isSelectable "room_temperature" && !Report.isSelectable "bogus" &&
      !Report.isSelectable "room_temperature_c")
  let update := Settings.giveTimestamps {} "always"
  Check.expect "timestamps are accepted"
    (update.complaints.isEmpty && update.settings.log.timestamps = .always)
  let update := update.settings.giveTimestamps "bogus"
  Check.expect "other timestamps are refused"
    (!update.complaints.isEmpty && update.settings.log.timestamps = .always)
  let telegram := allocator94Sample.telegram
  Check.expect "refused fields" (isRefused ["--selectfields=bogus,id", telegram])
  Check.expect "refused timestamps" (isRefused ["--logtimestamps=bogus", telegram])
  Check.expect "refused format" (isRefused ["--format=bogus", telegram])
  Check.expect "accepted options"
    (!isRefused ["--selectfields=id,current_volume", "--logtimestamps=never", telegram])

def checkCommandLine : Check PUnit := do
  checkArguments
  checkChoices

end MeterTelegram.SelfCheck
