import MeterTelegram.Proofs.Catalogue.Decoded
import MeterTelegram.Proofs.CommandLine.Reordering
import MeterTelegram.Proofs.Report.Selection

namespace MeterTelegram

/-! Fields selected on the command line, from the text of the option to the printed columns. -/

variable {files : Directory} {settings configured obeyed : Settings}
  {arguments given : List Text} {text : Text} {config : Option Text}

/-- How a report prints a telegram: the selected columns, or the default ones where it has no
selected fields. -/
structure Report.Columns (report : Report) (frame : Frame) (decoder : Text)
    (records : List Record) : Prop where
  plain : report.selected ≠ [] →
    Selects frame decoder records Record.valueText 9 report.selected
      ((report.selecting []).plainLine frame decoder records)
      (report.plainLine frame decoder records)
  fields : report.selected ≠ [] →
    Selects frame decoder records (fun record => record.measurement.plainText) report.separator
      report.selected ((report.selecting []).fieldsLine frame decoder records)
      (report.fieldsLine frame decoder records)
  default : report.selected = [] → ∀ value,
    report.columns frame decoder records value = defaultColumns frame decoder records value

theorem Report.columns_of_nodup (report : Report) {records : List Record}
    (selectable : ∀ field ∈ report.selected, isSelectable field = true)
    (distinct : (records.map Record.kind).Nodup) (frame : Frame) (decoder : Text) :
    report.Columns frame decoder records where
  plain some := selects report distinct Record.valueText_ne_nil Record.isVisible_valueText some
    selectable frame decoder 9
  fields some := selects report distinct Record.plainText_ne_nil Record.isVisible_plainText some
    selectable frame decoder report.separator
  default none value := by rw [columns, none]; rfl

theorem Catalogue.nodup_of_decoded {trace : Registry.Trace} {frame : Frame} {before : Reading}
    {dispatch : Dispatch}
    (dispatched : (builtin.readers.decode trace frame before).outcome = .ok dispatch)
    (decoded : dispatch.status = .decoded) :
    (dispatch.reading.records.map Record.kind).Nodup := by
  obtain ⟨family, -, -, read⟩ := family_of_decoded builtin_readable dispatched decoded
  rw [read]
  exact Layout.Contents.nodup_kinds

namespace CommandLine

def selectOption : Text := "--selectfields="

theorem ofArgument_selected (text : Text) :
    Switch.ofArgument (selectOption ++ text) = .selected text := by
  have member : (selectOption, Switch.selected) ∈ Switch.valued := by
    simp [Switch.valued, selectOption]
  exact Switch.ofArgument_valued member text

theorem switches_divide
    (helpless : ∀ option ∈ optionsOf given, Switch.ofArgument option ≠ .help) :
    (divide given).switches = (optionsOf given).map Switch.ofArgument := by
  induction given with
  | nil => rfl
  | cons argument others ih =>
      cases inPlace : isSwitch argument with
      | false =>
          rw [optionsOf, List.takeWhile_cons_of_neg (Bool.eq_false_iff.mp inPlace)]
          cases option : isOption argument with
          | false =>
              rw [divide_of_source option]
              rfl
          | true =>
              have ends : argument = optionsEnd := by simpa [isSwitch, option] using inPlace
              subst ends
              exact divide_of_end option (by decide +kernel)
      | true =>
          have split : optionsOf (argument :: others) = argument :: optionsOf others :=
            List.takeWhile_cons_of_pos inPlace
          rw [split, List.forall_mem_cons] at helpless
          obtain ⟨option, inside⟩ := option_of_isSwitch inPlace
          have goesOn : (Switch.ofArgument argument).ends = false :=
            Bool.eq_false_iff.mpr fun ends => helpless.1 (help_of_ends inside ends)
          rw [split, divide_of_switch option rfl goesOn, ih helpless.2]
          rfl

/-- The arguments behind the options are not about a setting. -/
theorem Reads.get (reads : Reads files given config configured obeyed settings)
    (setting : Setting) : settings.get setting = obeyed.get setting := by
  obtain ⟨sources, -, rfl⟩ := readSources_ok_iff.mp reads.finished
  rw [Settings.addSources_eq]
  cases (divide given).ending <;> cases setting <;> rfl

theorem isObeyed_selected (obeyed : (Switch.selected text).IsObeyed) :
    text ≠ [] ∧ ∀ field ∈ Text.pieces 44 text, Report.isSelectable field = true := by
  obtain ⟨after, obeyed⟩ := obeyed {}
  cases obeyed with
  | selected present known => exact ⟨present, known⟩

/-- The last selection is among the switches. -/
theorem lastSwitch?_selected {given : List Switch} (member : Switch.selected text ∈ given) :
    ∃ last, lastSwitch? given .selected = some (.selected last) ∧ Switch.selected last ∈ given := by
  cases found : lastSwitch? given .selected with
  | none => exact absurd rfl (lastSwitch?_eq_none.mp found _ member)
  | some switch =>
      have listed : switch ∈ given := List.mem_reverse.mp (List.mem_of_find?_eq_some found)
      have about : switch.setting? = some .selected :=
        of_decide_eq_true (List.find?_some found :)
      cases switch with
      | selected last => exact ⟨last, rfl, listed⟩
      | _ => cases about

/-- On an accepted command line all names of a selection may be selected, and the last selection
is the one that is printed. Only a selection of nothing but commas, which is accepted too, has
no names: then the default columns are printed. -/
theorem parse_selects (parsed : (parse files arguments).outcome = .ok settings)
    (helpless : ∀ option ∈ optionsOf (arguments.map Text.shown),
      Switch.ofArgument option ≠ .help)
    (given : selectOption ++ text ∈ optionsOf (arguments.map Text.shown)) :
    (text ≠ [] ∧ ∀ field ∈ Text.pieces 44 text, Report.isSelectable field = true) ∧
    (∃ last, lastSwitch? ((optionsOf (arguments.map Text.shown)).map Switch.ofArgument) .selected =
        some (.selected last) ∧
      settings.selected = Text.pieces 44 last ∧
      (settings.selected = [] ↔ ∀ byte ∈ last, byte = 44)) ∧
    (∀ field ∈ settings.selected, Report.isSelectable field = true) ∧
    ∀ trace frame before dispatch,
      (Catalogue.builtin.readers.decode trace frame before).outcome = .ok dispatch →
      dispatch.status = .decoded →
        settings.report.Columns frame dispatch.reading.decoder dispatch.reading.records := by
  have present : arguments ≠ [] := by
    rintro rfl
    contradiction
  obtain ⟨config, configured, obeyed, reads⟩ := (parse_ok_iff present).mp parsed
  have obeying := reads.obeying
  rw [switches_divide helpless] at obeying
  have each := isObeyed_of_obeyAll obeying
  have member : Switch.selected text ∈
      (optionsOf (arguments.map Text.shown)).map Switch.ofArgument :=
    List.mem_map.mpr ⟨_, given, ofArgument_selected text⟩
  obtain ⟨last, found, listed⟩ := lastSwitch?_selected member
  have selected : settings.selected = Text.pieces 44 last := by
    have value := get_obeyAll_some obeying found
    exact (reads.get .selected).trans (Option.some.inj value).symm
  have selectable : ∀ field ∈ settings.selected, Report.isSelectable field = true := by
    rw [selected]
    exact (isObeyed_selected (each _ listed)).2
  refine ⟨isObeyed_selected (each _ member), ⟨last, found, selected, ?_⟩, selectable, ?_⟩
  · rw [selected]
    exact Text.pieces_eq_nil
  · intro trace frame before dispatch dispatched decoded
    exact settings.report.columns_of_nodup selectable
      (Catalogue.nodup_of_decoded dispatched decoded) frame _

theorem parse_selects_again :
    let arguments : List Text := ["--selectfields=media", "--selectfields=,rssi,,id,"]
    ∃ settings, (parse ⟨[]⟩ arguments).outcome = .ok settings ∧
      settings.selected = ["rssi", "id"] := by
  intro arguments
  have parsed : (parse ⟨[]⟩ arguments).outcome = .ok { selected := ["rssi", "id"] } := by
    decide +kernel
  have given : selectOption ++ Text.ofString "media" ∈ optionsOf (arguments.map Text.shown) := by
    decide +kernel
  obtain ⟨-, ⟨last, found, selected, -⟩, -⟩ := parse_selects parsed (by decide +kernel) given
  have written : lastSwitch? ((optionsOf (arguments.map Text.shown)).map Switch.ofArgument)
      .selected = some (.selected ",rssi,,id,") := by
    decide +kernel
  obtain rfl : last = ",rssi,,id," := Switch.selected.inj
    (Option.some.inj (found.symm.trans written))
  exact ⟨_, parsed, selected.trans (by decide +kernel)⟩

/-- A comma is accepted as a selection, and every telegram is printed with the default columns. -/
theorem parse_selects_nothing :
    ∃ settings, (parse ⟨[]⟩ ["--selectfields=,"]).outcome = .ok settings ∧
      settings.selected = [] ∧
      ∀ frame decoder records value, settings.report.columns frame decoder records value =
        Report.defaultColumns frame decoder records value := by
  refine ⟨{}, by decide +kernel, rfl, fun frame decoder records value => rfl⟩

end CommandLine

end MeterTelegram
