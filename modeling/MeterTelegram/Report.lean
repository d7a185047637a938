import MeterTelegram.Frame
import MeterTelegram.Record

namespace MeterTelegram

/-! Reports: the lines printed for a decoded telegram. Selected fields pick and
order the columns; JSON always holds all records. -/

inductive Format where
  | plain
  | fields
  | json
deriving DecidableEq, Repr

/-- JSON wins where both are asked for. -/
def Format.ofFlags (json fields : Bool) : Format :=
  if json then .json else if fields then .fields else .plain

/-- The name of a record in JSON: its field with the unit, dates without one. -/
def Record.jsonName (record : Record) : Text :=
  match record.measurement with
  | .dateTime _ => record.kind.fieldName
  | _ => record.kind.fieldName ++ "_" ++ record.unit.fieldSuffix

def Record.jsonValue (record : Record) : Text :=
  match record.measurement with
  | .dateTime date => "\"" ++ date.text ++ "\""
  | _ => record.measurement.plainText

structure Report where
  format : Format
  separator : UInt8
  selected : List Text
deriving DecidableEq, Repr

namespace Report

/-- Names that may be selected: three parts of the telegram and the records. -/
def isSelectable (field : Text) : Bool :=
  field == "decoder" || field == "id" || field == "media" ||
    (RecordKind.ofFieldName? field).isSome

/-- A selected column; a record that was not decoded leaves it empty. -/
def column (frame : Frame) (decoder : Text) (records : List Record) (value : Record → Text)
    (field : Text) : Text :=
  if field = "decoder" then decoder
  else if field = "id" then frame.address.id
  else if field = "media" then frame.address.medium.name
  else ((records.find? (fun record => record.kind.fieldName == field)).map value).getD []

def columns (report : Report) (frame : Frame) (decoder : Text) (records : List Record)
    (value : Record → Text) : List Text :=
  if report.selected.isEmpty then decoder :: frame.address.id :: records.map value
  else report.selected.map (column frame decoder records value)

/-- Values with units between tabs. -/
def plainLine (report : Report) (frame : Frame) (decoder : Text) (records : List Record) : Text :=
  Text.joined [9] (report.columns frame decoder records Record.valueText)

/-- Bare values between separators. -/
def fieldsLine (report : Report) (frame : Frame) (decoder : Text) (records : List Record) :
    Text :=
  Text.joined [report.separator]
    (report.columns frame decoder records (fun record => record.measurement.plainText))

def jsonMember (record : Record) : Text :=
  ",\"" ++ record.jsonName ++ "\":" ++ record.jsonValue

def jsonLine (frame : Frame) (decoder : Text) (records : List Record) : Text :=
  "\x7b\"_\":\"telegram\",\"media\":\"" ++ frame.address.medium.name ++ "\",\"decoder\":\"" ++
    decoder ++ "\",\"id\":\"" ++ frame.address.id ++ "\"" ++ records.flatMap jsonMember ++ "\x7d"

def line (report : Report) (frame : Frame) (decoder : Text) (records : List Record) : Text :=
  match report.format with
  | .json => jsonLine frame decoder records
  | .fields => report.fieldsLine frame decoder records
  | .plain => report.plainLine frame decoder records

def print (report : Report) (frame : Frame) (decoder : Text) (records : List Record) : Entry :=
  .output ((report.line frame decoder records).shown ++ "\n")

end Report

end MeterTelegram
