import MeterTelegram.Proofs.Json.Visible
import MeterTelegram.Proofs.Report.Members

namespace MeterTelegram.Report

/-! The JSON line of a decoded telegram: an object with the members of the telegram first and
those of the records behind them, all with different keys. -/

open Json

variable {frame : Frame} {decoder text : Text} {records : List Record} {signal : Int}

/-- The keys that stand before those of the records. -/
def headerKeys : List Text :=
  ["_", "media", "decoder", "id"]

/-- The names of all consumptions differ, and none of them is a key of the header. -/
theorem nodup_keys {unit : MeterUnit} (counts : unit.countsConsumption = true)
    (reportsTemperature : Bool) :
    (headerKeys ++ Layout.jsonNames unit reportsTemperature).Nodup ∧
      ∀ key ∈ headerKeys ++ Layout.jsonNames unit reportsTemperature, isPlain key = true := by
  revert counts reportsTemperature
  cases unit <;> decide +kernel

def jsonMembers (frame : Frame) (decoder : Text) (records : List Record) : List (Text × Text) :=
  ("_", quoted "telegram") :: ("media", quoted frame.address.medium.name) ::
    ("decoder", quoted decoder) :: ("id", quoted frame.address.id) ::
    records.map fun record => (record.jsonName, record.jsonValue)

theorem jsonMember_eq (record : Record) :
    jsonMember record = [44] ++ member record.jsonName record.jsonValue := by
  have opening : (",\"" : Text) = [44, 34] := by decide +kernel
  have middle : ("\":" : Text) = [34, 58] := by decide +kernel
  simp [jsonMember, member, quoted, opening, middle]

theorem jsonLine_eq (frame : Frame) (decoder : Text) (records : List Record) :
    jsonLine frame decoder records = object (jsonMembers frame decoder records) := by
  have first : ("\x7b\"_\":\"telegram\",\"media\":\"" : Text) =
      [123] ++ member "_" (quoted "telegram") ++ [44] ++ quoted "media" ++ [58, 34] := by
    decide +kernel
  have second : ("\",\"decoder\":\"" : Text) = [34, 44] ++ quoted "decoder" ++ [58, 34] := by
    decide +kernel
  have third : ("\",\"id\":\"" : Text) = [34, 44] ++ quoted "id" ++ [58, 34] := by
    decide +kernel
  have mark : ("\"" : Text) = [34] := by decide +kernel
  have last : ("\x7d" : Text) = [125] := by decide +kernel
  have behind : records.flatMap jsonMember =
      (records.map fun record => member record.jsonName record.jsonValue).flatMap ([44] ++ ·) := by
    rw [List.flatMap_map]
    exact congrArg (records.flatMap ·) (funext jsonMember_eq)
  simp only [jsonLine, first, second, third, mark, last, behind]
  simp [jsonMembers, object, joined_cons, member, quoted, Function.comp_def]

/-- What the JSON line of a decoded telegram holds. -/
structure WellFormed (frame : Frame) (decoder : Text) (records : List Record) (line : Text) :
    Prop where
  members : line = object (jsonMembers frame decoder records)
  value : IsValue line
  distinctKeys : ((jsonMembers frame decoder records).map Prod.fst).Nodup
  unescapedKeys : ∀ key ∈ (jsonMembers frame decoder records).map Prod.fst, isPlain key = true
  records : ∀ record ∈ records, record.Reported
  address : frame.address.Numbered

theorem keys_jsonMembers (frame : Frame) (decoder : Text) (records : List Record) :
    (jsonMembers frame decoder records).map Prod.fst =
      headerKeys ++ records.map Record.jsonName := by
  simp [jsonMembers, headerKeys, Function.comp_def]

theorem wellFormed_of_reported (numbered : frame.address.Numbered)
    (named : isPlain decoder = true) (reported : ∀ record ∈ records, record.Reported)
    (distinct : (headerKeys ++ records.map Record.jsonName).Nodup)
    (plain : ∀ key ∈ headerKeys ++ records.map Record.jsonName, isPlain key = true) :
    WellFormed frame decoder records (jsonLine frame decoder records) where
  members := jsonLine_eq frame decoder records
  value := by
    rw [jsonLine_eq]
    refine .object (fun member listed => ?_) (fun member listed => ?_)
    · refine isCharacters_of_isPlain (plain _ ?_)
      rw [← keys_jsonMembers frame decoder]
      exact List.mem_map_of_mem listed
    · have text {characters : Text} (plain : isPlain characters = true) :
          IsValue (quoted characters) := .string (isCharacters_of_isPlain plain)
      simp only [jsonMembers, List.mem_cons, List.mem_map] at listed
      rcases listed with rfl | rfl | rfl | rfl | ⟨record, listed, rfl⟩
      · exact text (by decide +kernel)
      · exact text (Medium.isPlain_name _)
      · exact text named
      · exact text numbered.isPlain
      · exact (reported record listed).isValue
  distinctKeys := by rwa [keys_jsonMembers]
  unescapedKeys := by rwa [keys_jsonMembers]
  records := reported
  address := numbered

variable {registry : Registry} {trace : Registry.Trace} {before : Reading} {dispatch : Dispatch}

/-- Families whose readings can be reported: their names need no escapes, and dividing by their
divisors makes no number greater. -/
structure Presentable (family : Family) : Prop where
  readable : family.layout.Readable
  name : isPlain family.name = true
  divisor : family.layout.divisor.isOneOrMore = true

theorem presentable_builtin : ∀ family ∈ Catalogue.builtin.families, Presentable family := by
  have names : ∀ family ∈ Catalogue.builtin.families, isPlain family.name = true := by
    decide +kernel
  have divisors : ∀ family ∈ Catalogue.builtin.families,
      family.layout.divisor.isOneOrMore = true := by
    decide +kernel
  exact fun family listed =>
    ⟨Catalogue.builtin_readable family listed, names family listed, divisors family listed⟩

theorem Presentable.wellFormed {family : Family} (presentable : Presentable family)
    (numbered : frame.address.Numbered) (valid : family.layout.DatesValid frame) :
    WellFormed frame family.name
      ((family.layout.contents frame).records family.layout frame.signal)
      (jsonLine frame family.name
        ((family.layout.contents frame).records family.layout frame.signal)) := by
  have reportable := Layout.reportable_records presentable.readable presentable.divisor valid
  have keys := nodup_keys presentable.readable.countsConsumption family.layout.reportsTemperature
  rw [← Layout.jsonName_records] at keys
  exact wellFormed_of_reported numbered presentable.name
    (fun record listed => (reportable record listed).reported) keys.1 keys.2

/-- A telegram that a built-in decoder decodes is written as a JSON object. Neither the selected
fields nor the separator change it, and it is printed whole, on a line of its own. -/
theorem jsonLine_wellFormed (received : (Frame.receiveText text signal).outcome = .ok frame)
    (made : Catalogue.builtin.registry = .ok registry)
    (dispatched : (registry.decode trace frame before).outcome = .ok dispatch)
    (decoded : dispatch.status = .decoded) :
    let line := jsonLine frame dispatch.reading.decoder dispatch.reading.records
    WellFormed frame dispatch.reading.decoder dispatch.reading.records line ∧
      IsVisible line ∧
      ∀ report : Report, report.format = .json →
        report.line frame dispatch.reading.decoder dispatch.reading.records = line ∧
        report.print frame dispatch.reading.decoder dispatch.reading.records =
          .output (line ++ "\n") := by
  intro line
  have readers := Catalogue.registry_of_readable Catalogue.builtin_readable
  obtain rfl := Except.ok.inj (readers.symm.trans made)
  obtain ⟨family, listed, valid, left⟩ :=
    Catalogue.family_of_decoded Catalogue.builtin_readable dispatched decoded
  have wellFormed : WellFormed frame dispatch.reading.decoder dispatch.reading.records line := by
    simp only [line, left]
    exact (presentable_builtin family listed).wellFormed
      (Frame.numbered_of_receiveText received) valid
  refine ⟨wellFormed, wellFormed.value.isVisible, fun report json => ?_⟩
  have same : report.line frame dispatch.reading.decoder dispatch.reading.records = line := by
    rw [Report.line, json]
  exact ⟨same, by rw [print, same, wellFormed.value.isVisible.shown]⟩

def roomTelegram : Text :=
  "|31446850226677116980A0119F27020480048300C408F709143C003D341A2B0B2A07070000000000000" ++
    "62D114457563D71A1850000|"

def roomLine : Text :=
  "\x7b\"_\":\"telegram\",\"media\":\"heat cost allocation\",\"decoder\":\"fhkvdataiii_69\"," ++
    "\"id\":\"11776622\",\"current_volume_hca\":131,\"current_reading_date\":\"2020-02-08\"," ++
    "\"past_volume_hca\":1026,\"past_reading_date\":\"2019-12-31\",\"rssi_dbm\":-71," ++
    "\"room_temperature_c\":22.44,\"radiator_temperature_c\":25.51\x7d"

def roomFrame : Frame :=
  { bytes := (Hex.read roomTelegram).bytes
    address :=
      { manufacturer := 0x5068, id := "11776622", version := 0x69, deviceType := 0x80
        bytes := [0x68, 0x50, 0x22, 0x66, 0x77, 0x11, 0x69, 0x80] }
    signal := -71 }

theorem jsonLine_wellFormed_room :
    (Frame.receiveText roomTelegram (-71)).outcome = .ok roomFrame ∧
      Catalogue.builtin.registry = .ok Catalogue.builtin.readers ∧
      ∃ dispatch,
        (Catalogue.builtin.readers.decode Registry.silent roomFrame {}).outcome = .ok dispatch ∧
          dispatch.status = .decoded ∧
          WellFormed roomFrame dispatch.reading.decoder dispatch.reading.records roomLine := by
  have made := Catalogue.registry_of_readable Catalogue.builtin_readable
  have received : (Frame.receiveText roomTelegram (-71)).outcome = .ok roomFrame := by
    decide +kernel
  have ended : (Catalogue.builtin.readers.decode Registry.silent roomFrame {}).outcome.map
      (fun dispatch => (dispatch.status,
        jsonLine roomFrame dispatch.reading.decoder dispatch.reading.records)) =
      .ok (.decoded, roomLine) := by
    decide +kernel
  obtain ⟨dispatch, dispatched, ended⟩ := Results.ok_of_map ended
  obtain ⟨decoded, line⟩ := Prod.mk.inj ended
  refine ⟨received, made, dispatch, dispatched, decoded, ?_⟩
  rw [← line]
  exact (jsonLine_wellFormed received made dispatched decoded).1

end MeterTelegram.Report
