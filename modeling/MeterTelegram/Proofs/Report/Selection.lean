import Mathlib.Data.List.Nodup
import MeterTelegram.Report
import MeterTelegram.Proofs.Json.Visible
import MeterTelegram.Proofs.Numeral
import MeterTelegram.Proofs.Text.Scan

namespace MeterTelegram

/-! Selected columns. Every one of them can be told from the columns that stand there by default,
the medium and the kinds of the records. -/

variable {frame : Frame} {decoder field : Text} {records : List Record} {record : Record}
  {value : Record → Text} {selected : List Text}

namespace RecordKind

theorem mem_all (kind : RecordKind) : kind ∈ all := by
  cases kind <;> decide

theorem fieldName_injective : Function.Injective fieldName := by
  intro kind other same
  have distinct : (all.map fieldName).Nodup := by decide +kernel
  exact List.inj_on_of_nodup_map distinct kind.mem_all other.mem_all same

/-- No record is called like a part of the telegram. -/
theorem fieldName_ne (kind : RecordKind) :
    kind.fieldName ≠ "decoder" ∧ kind.fieldName ≠ "id" ∧ kind.fieldName ≠ "media" := by
  cases kind <;> decide +kernel

theorem ofFieldName?_eq_some {kind : RecordKind} (found : ofFieldName? field = some kind) :
    kind.fieldName = field := by
  rw [ofFieldName?] at found
  have named := List.find?_some found
  exact eq_of_beq named

end RecordKind

open Json

theorem Binary64.isVisible_text (number : Binary64) : IsVisible number.text := by
  rcases number.text_forms with finite | same | ⟨negative, same⟩
  · exact finite.isVisible
  · rw [same]
    decide +kernel
  · rw [same]
    cases negative <;> decide +kernel

theorem Text.isVisible_ofIntPadded (width : Nat) (value : Int) :
    IsVisible (Text.ofIntPadded width value) := by
  have decimal (width : Nat) : IsVisible ((Text.ofNat value.natAbs).leftpad width 48) :=
    isVisible_of_isDecimal ((Text.isDecimal_ofNat value.natAbs).leftpad width)
  unfold Text.ofIntPadded
  split
  · exact isVisible_cons.mpr ⟨by decide, decimal (width - 1)⟩
  · exact decimal width

theorem Date.isVisible_text (date : Date) : IsVisible date.text := by
  have dash : IsVisible "-" := by decide +kernel
  have year := (isNumber_ofInt date.year).isVisible
  exact (((year.append dash).append (Text.isVisible_ofIntPadded 2 date.month)).append dash).append
    (Text.isVisible_ofIntPadded 2 date.day)

namespace Record

/-- No value holds a control character. -/
theorem isVisible_plainText (record : Record) : IsVisible record.measurement.plainText := by
  cases record.measurement with
  | scalar value unit => exact value.isVisible_text
  | quantity value unit => exact value.isVisible_text
  | integer value => exact (isNumber_ofInt value).isVisible
  | dateTime date => exact date.isVisible_text

theorem isVisible_valueText (record : Record) : IsVisible record.valueText := by
  have plain := record.isVisible_plainText
  have space : IsVisible " " := by decide +kernel
  have sign (unit : MeterUnit) : IsVisible unit.sign := by cases unit <;> decide +kernel
  unfold valueText Measurement.text
  split
  · rename_i date measured
    rwa [measured] at plain
  · exact (plain.append space).append (sign _)

theorem plainText_ne_nil (record : Record) : record.measurement.plainText ≠ [] := by
  cases record.measurement with
  | scalar value unit => exact Binary64.text_ne_nil value
  | quantity value unit => exact Binary64.text_ne_nil value
  | integer value => exact (Json.isNumber_ofInt value).ne_nil
  | dateTime date =>
      have year : Text.ofInt date.year ≠ [] := (Json.isNumber_ofInt date.year).ne_nil
      simp [Measurement.plainText, Date.text, year]

theorem valueText_ne_nil (record : Record) : record.valueText ≠ [] := by
  have shown := record.plainText_ne_nil
  unfold valueText Measurement.text
  split
  · rename_i date measured
    rwa [measured] at shown
  · simp [shown]

end Record

namespace Report

def selecting (report : Report) (selected : List Text) : Report :=
  { report with selected }

/-- The fields that stand in a line by default. -/
def fieldNames (kinds : List RecordKind) : List Text :=
  "decoder" :: "id" :: kinds.map RecordKind.fieldName

def defaultColumns (frame : Frame) (decoder : Text) (records : List Record)
    (value : Record → Text) : List Text :=
  decoder :: frame.address.id :: records.map value

/-- The column of a field, looked up in the columns of a default line. -/
def pick (columns : List Text) (medium : Text) (kinds : List RecordKind) (field : Text) : Text :=
  if field = "media" then medium else (((fieldNames kinds).zip columns).lookup field).getD []

/-- What stands in the column of a field. -/
inductive Shown (frame : Frame) (decoder : Text) (records : List Record) (value : Record → Text) :
    Text → Text → Prop where
  | decoder : Shown frame decoder records value "decoder" decoder
  | id : Shown frame decoder records value "id" frame.address.id
  | media : Shown frame decoder records value "media" frame.address.medium.name
  | record {kind : RecordKind} {column : Text}
      (present : ∀ record ∈ records, record.kind = kind → column = value record)
      (empty : column = [] ↔ ∀ record ∈ records, record.kind ≠ kind) :
      Shown frame decoder records value kind.fieldName column

theorem lookup_fields (records : List Record) (value : Record → Text) (field : Text) :
    (((records.map Record.kind).map RecordKind.fieldName).zip (records.map value)).lookup field =
      (records.find? fun record => record.kind.fieldName == field).map value := by
  induction records with
  | nil => rfl
  | cons record records ih =>
      simp only [List.map_cons, List.zip_cons_cons, List.lookup_cons, List.find?_cons]
      by_cases same : record.kind.fieldName = field
      · simp [same]
      · rw [beq_false_of_ne same, beq_false_of_ne (Ne.symm same), ih]

/-- Whether it was selected or stands there by default, a field has the same column. -/
theorem column_eq_pick (frame : Frame) (decoder : Text) (records : List Record)
    (value : Record → Text) (field : Text) :
    column frame decoder records value field =
      pick (defaultColumns frame decoder records value) frame.address.medium.name
        (records.map Record.kind) field := by
  have apart : ("decoder" : Text) ≠ "media" ∧ ("id" : Text) ≠ "media" ∧
      ("id" : Text) ≠ "decoder" := by
    decide +kernel
  simp only [column, pick, fieldNames, defaultColumns, List.zip_cons_cons, List.lookup_cons]
  by_cases decoderColumn : field = "decoder"
  · subst decoderColumn
    rw [if_pos rfl, if_neg apart.1, beq_self_eq_true]
    rfl
  · rw [if_neg decoderColumn, beq_false_of_ne decoderColumn]
    by_cases idColumn : field = "id"
    · subst idColumn
      rw [if_pos rfl, if_neg apart.2.1, beq_self_eq_true]
      rfl
    · rw [if_neg idColumn, beq_false_of_ne idColumn, lookup_fields]

theorem columns_eq_pick (report : Report) (some : selected ≠ []) (frame : Frame) (decoder : Text)
    (records : List Record) (value : Record → Text) :
    (report.selecting selected).columns frame decoder records value =
      selected.map (pick (defaultColumns frame decoder records value)
        frame.address.medium.name (records.map Record.kind)) := by
  have present : selected.isEmpty = false := List.isEmpty_eq_false_iff.mpr some
  rw [columns, selecting, present]
  exact List.map_congr_left fun field _ => column_eq_pick frame decoder records value field

/-- Among records of different kinds the first of a kind is the only one. -/
theorem find?_fieldName (distinct : (records.map Record.kind).Nodup) (listed : record ∈ records) :
    records.find? (fun other => other.kind.fieldName == record.kind.fieldName) = some record := by
  cases found : records.find? fun other => other.kind.fieldName == record.kind.fieldName with
  | none => exact absurd (beq_self_eq_true _) (List.find?_eq_none.mp found record listed)
  | some other =>
      have same : other.kind = record.kind :=
        RecordKind.fieldName_injective (eq_of_beq (List.find?_some found :))
      have member := List.mem_of_find?_eq_some found
      rw [List.inj_on_of_nodup_map distinct member listed same]

theorem column_of_kind (frame : Frame) (decoder : Text) (records : List Record)
    (value : Record → Text) (kind : RecordKind) :
    column frame decoder records value kind.fieldName =
      ((records.find? fun record =>
        record.kind.fieldName == kind.fieldName).map value).getD [] := by
  obtain ⟨decoderColumn, idColumn, mediumColumn⟩ := kind.fieldName_ne
  rw [column, if_neg decoderColumn, if_neg idColumn, if_neg mediumColumn]

theorem column_of_record (distinct : (records.map Record.kind).Nodup) (listed : record ∈ records)
    (value : Record → Text) :
    column frame decoder records value record.kind.fieldName = value record := by
  rw [column_of_kind, find?_fieldName distinct listed]
  rfl

theorem column_decoder : column frame decoder records value "decoder" = decoder :=
  if_pos rfl

theorem column_id : column frame decoder records value "id" = frame.address.id := by
  have apart : ("id" : Text) ≠ "decoder" := by decide +kernel
  rw [column, if_neg apart, if_pos rfl]

theorem column_media :
    column frame decoder records value "media" = frame.address.medium.name := by
  have apart : ("media" : Text) ≠ "decoder" ∧ ("media" : Text) ≠ "id" := by decide +kernel
  rw [column, if_neg apart.1, if_neg apart.2, if_pos rfl]

/-- With all fields of a default line selected, a line has the columns of a default line. -/
theorem columns_fieldNames (report : Report) (distinct : (records.map Record.kind).Nodup)
    (frame : Frame) (decoder : Text) (value : Record → Text) :
    (report.selecting (fieldNames (records.map Record.kind))).columns frame decoder records value =
      defaultColumns frame decoder records value := by
  have each : records.map (fun record =>
      column frame decoder records value record.kind.fieldName) = records.map value :=
    List.map_congr_left fun record listed => column_of_record distinct listed value
  simp only [columns, selecting, fieldNames, List.isEmpty_cons, Bool.false_eq_true, if_false,
    List.map_cons, column_decoder, column_id, List.map_map]
  exact congrArg (decoder :: frame.address.id :: ·) each

theorem shown_of_kind (distinct : (records.map Record.kind).Nodup)
    (visible : ∀ record ∈ records, value record ≠ []) (kind : RecordKind) :
    Shown frame decoder records value kind.fieldName
      (column frame decoder records value kind.fieldName) := by
  refine .record (fun record listed same => ?_)
    ⟨fun empty record listed same => ?_, fun absent => ?_⟩
  · rw [← same, column_of_record distinct listed]
  · rw [← same, column_of_record distinct listed] at empty
    exact visible record listed empty
  · have missing : records.find? (fun record => record.kind.fieldName == kind.fieldName) = none :=
      List.find?_eq_none.mpr fun record listed named =>
        absent record listed (RecordKind.fieldName_injective (eq_of_beq named))
    rw [column_of_kind, missing]
    rfl

theorem shown_column (distinct : (records.map Record.kind).Nodup)
    (visible : ∀ record ∈ records, value record ≠ []) (selectable : isSelectable field = true) :
    Shown frame decoder records value field (column frame decoder records value field) := by
  simp only [isSelectable, Bool.or_eq_true, beq_iff_eq] at selectable
  rcases selectable with ((rfl | rfl) | rfl) | known
  · rw [column_decoder]
    exact .decoder
  · rw [column_id]
    exact .id
  · rw [column_media]
    exact .media
  · obtain ⟨kind, found⟩ := Option.isSome_iff_exists.mp known
    obtain rfl := RecordKind.ofFieldName?_eq_some found
    exact shown_of_kind distinct visible kind

/-- A line with the selected columns, made from a default line. -/
def reselected (separator : UInt8) (medium : Text) (kinds : List RecordKind) (selected : List Text)
    (line : Text) : Text :=
  Text.joined [separator] (selected.map (pick (Text.fields separator line) medium kinds))

/-- How a line of selected fields comes from a default line: there is a column for each field, in
the order of the fields, and the default columns, the medium and the kinds of the records tell
what it is. Where no default column holds the separator, the default line alone tells them; values
never hold a tab or another control character. -/
structure Selects (frame : Frame) (decoder : Text) (records : List Record)
    (value : Record → Text) (separator : UInt8) (selected : List Text) (whole line : Text) :
    Prop where
  default : whole = Text.joined [separator] (defaultColumns frame decoder records value)
  columns : ∃ columns, line = Text.joined [separator] columns ∧
    List.Forall₂ (Shown frame decoder records value) selected columns ∧
    columns = selected.map (pick (defaultColumns frame decoder records value)
      frame.address.medium.name (records.map Record.kind))
  told : separator ∉ decoder → separator ∉ frame.address.id →
    (∀ record ∈ records, separator ∉ value record) →
      line = reselected separator frame.address.medium.name (records.map Record.kind) selected whole
  clear : ∀ control < 32, ∀ record ∈ records, control ∉ value record

theorem selects (report : Report) (distinct : (records.map Record.kind).Nodup)
    (visible : ∀ record, value record ≠ []) (printed : ∀ record, IsVisible (value record))
    (some : selected ≠ []) (selectable : ∀ field ∈ selected, isSelectable field = true)
    (frame : Frame) (decoder : Text) (separator : UInt8) :
    Selects frame decoder records value separator selected
      (Text.joined [separator] ((report.selecting []).columns frame decoder records value))
      (Text.joined [separator] ((report.selecting selected).columns frame decoder records value))
    where
  default := rfl
  columns := by
    refine ⟨_, rfl, ?_, columns_eq_pick report some frame decoder records value⟩
    have present : selected.isEmpty = false := List.isEmpty_eq_false_iff.mpr some
    rw [columns, selecting, present]
    refine List.forall₂_map_right_iff.mpr (List.forall₂_same.mpr fun field listed => ?_)
    exact shown_column distinct (fun record _ => visible record) (selectable field listed)
  told := by
    intro named numbered clear
    have whole : ∀ column ∈ defaultColumns frame decoder records value, separator ∉ column :=
      List.forall_mem_cons.mpr ⟨named,
        List.forall_mem_cons.mpr ⟨numbered, List.forall_mem_map.mpr clear⟩⟩
    have split : Text.fields separator (Text.joined [separator]
        ((report.selecting []).columns frame decoder records value)) =
          defaultColumns frame decoder records value :=
      Text.fields_joined (List.cons_ne_nil _ _) whole
    rw [reselected, split, columns_eq_pick report some]
  clear := fun control low record _ held =>
    absurd (printed record control held) (UInt8.not_le.mpr low)

/-- Selecting the fields of a default line gives that line in every format, and any selection can
be made from a default line. -/
theorem line_of_selection (report : Report) (frame : Frame) (decoder : Text)
    (distinct : (records.map Record.kind).Nodup) :
    let whole := report.selecting []
    let listed := report.selecting (fieldNames (records.map Record.kind))
    (listed.plainLine frame decoder records = whole.plainLine frame decoder records ∧
      listed.fieldsLine frame decoder records = whole.fieldsLine frame decoder records ∧
      listed.line frame decoder records = whole.line frame decoder records) ∧
    ∀ selected, selected ≠ [] → (∀ field ∈ selected, isSelectable field = true) →
      Selects frame decoder records Record.valueText 9 selected
        (whole.plainLine frame decoder records)
        ((report.selecting selected).plainLine frame decoder records) ∧
      Selects frame decoder records (fun record => record.measurement.plainText) report.separator
        selected (whole.fieldsLine frame decoder records)
        ((report.selecting selected).fieldsLine frame decoder records) := by
  intro whole listed
  have plain : listed.plainLine frame decoder records = whole.plainLine frame decoder records :=
    congrArg (Text.joined [9]) (columns_fieldNames report distinct frame decoder _)
  have bare : listed.fieldsLine frame decoder records = whole.fieldsLine frame decoder records :=
    congrArg (Text.joined [report.separator]) (columns_fieldNames report distinct frame decoder _)
  refine ⟨⟨plain, bare, ?_⟩, fun selected some selectable => ⟨?_, ?_⟩⟩
  · have same : listed.format = whole.format := rfl
    rw [line, line, same, plain, bare]
  · exact selects report distinct Record.valueText_ne_nil Record.isVisible_valueText some
      selectable frame decoder 9
  · exact selects report distinct Record.plainText_ne_nil Record.isVisible_plainText some
      selectable frame decoder report.separator

theorem line_of_selection_repeated :
    let address : Address := ⟨0x5068, "34333231", 0x74, 0x62, []⟩
    let records : List Record :=
      [⟨.currentReadingDate, .dateTime ⟨2019, 4, 27⟩⟩, ⟨.signalStrength, .integer (-50)⟩]
    let report : Report := { format := .fields, separator := 59, selected := [] }
    let selected : List Text := ["rssi", "media", "past_volume", "rssi"]
    (report.selecting selected).fieldsLine ⟨[], address, -50⟩ "mkradio3" records =
      "-50;warm water;;-50" := by
  intro address records report selected
  have distinct : (records.map Record.kind).Nodup := by decide
  have selectable : ∀ field ∈ selected, isSelectable field = true := by decide +kernel
  obtain ⟨-, each⟩ := line_of_selection report ⟨[], address, -50⟩ "mkradio3" distinct
  obtain ⟨-, selects⟩ := each selected (List.cons_ne_nil _ _) selectable
  rw [selects.told (by decide +kernel) (by decide +kernel) (by decide +kernel)]
  decide +kernel

end Report

end MeterTelegram
