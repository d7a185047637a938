import MeterTelegram.Proofs.CommandLine.LogOptions
import MeterTelegram.Proofs.Run.Output

namespace MeterTelegram

/-! Runs that differ in log options only. What is logged goes past standard output and past the
files, so both runs print the same, leave the same files and have the same exit status. -/

namespace Session

variable {session one other : Session}

/-- The session logs to standard error, not to a file. -/
structure Aside (session : Session) : Prop where
  toStderr : session.log.toStderr = true
  closed : session.log.file = none

theorem Aside.recordAll (aside : session.Aside) (entries : List Entry) :
    (session.recordAll entries).Aside :=
  ⟨recordAll_toStderr aside.toStderr entries, (recordAll_files aside.closed entries).1⟩

/-- Sessions that log to standard error and differ in nothing but their logs. -/
structure Twins (one other : Session) : Prop where
  stdout : one.stdout = other.stdout
  files : one.files = other.files
  aside : one.Aside
  otherAside : other.Aside

theorem Twins.recordAll (twins : one.Twins other) (entries : List Entry) :
    (one.recordAll entries).Twins (other.recordAll entries) where
  stdout := by
    rw [stdout_recordAll twins.aside.toStderr, stdout_recordAll twins.otherAside.toStderr,
      twins.stdout]
  files := by
    rw [(recordAll_files twins.aside.closed entries).2,
      (recordAll_files twins.otherAside.closed entries).2, twins.files]
  aside := twins.aside.recordAll entries
  otherAside := twins.otherAside.recordAll entries

/-- Without a log file, sessions that are configured in different ways are twins. -/
theorem twins_configure (closed : session.log.file = none) {settings left : LogSettings}
    (unlogged : settings.file = none) (unloggedToo : left.file = none) :
    (session.configure settings).Twins (session.configure left) := by
  have opened {settings : LogSettings} (unlogged : settings.file = none) :
      (session.configure settings).Aside ∧ (session.configure settings).files = session.files := by
    obtain ⟨verbosity, timestamps, file⟩ := settings
    obtain rfl : file = none := unlogged
    exact ⟨⟨configure_toStderr session _, closed⟩, rfl⟩
  have quiet (settings : LogSettings) :
      (session.configure settings).stdout = session.stdout :=
    congrArg (fun pieces : List Text => pieces.reverse.flatten)
      (configure_quiet session settings).stdout
  exact ⟨(quiet settings).trans (quiet left).symm,
    (opened unlogged).2.trans (opened unloggedToo).2.symm, (opened unlogged).1,
    (opened unloggedToo).1⟩

end Session

namespace Run

variable {registry : Registry} {report : Report} {signal : Int} {files : Directory}
  {arguments others : List Text} {settings left : Settings} {session one other : Session}

/-- Runs that print the same, leave the same files and have the same exit status. -/
structure SameResults (first second : Finish) : Prop where
  stdout : first.session.stdout = second.session.stdout
  files : first.session.files = second.session.files
  status : first.status = second.status

theorem sameResults_stop (twins : one.Twins other) (text : Text) :
    SameResults (stop one text) (stop other text) :=
  have warned := twins.recordAll [.message .fatal text]
  ⟨warned.stdout, warned.files, rfl⟩

theorem sameResults_print (twins : one.Twins other) (text : Text) (status : Nat) :
    SameResults ⟨one.print text, status⟩ ⟨other.print text, status⟩ :=
  have printed := twins.recordAll [.output text]
  ⟨printed.stdout, printed.files, rfl⟩

theorem decodeFiles_cons (file : Text) (names : List Text) (session : Session) :
    decodeFiles registry report signal (file :: names) session =
      let decoding := decodeFile registry report signal session.files file
      let followed := session.recordAll decoding.entries
      match decoding.outcome with
      | .error fault => (followed, .error fault)
      | .ok first =>
          ((decodeFiles registry report signal names followed).1,
            (decodeFiles registry report signal names followed).2.map (first && ·)) := by
  rw [decodeFiles, Session.follow]
  dsimp only
  cases (decodeFile registry report signal session.files file).outcome with
  | error fault => rfl
  | ok first =>
      dsimp only
      rcases decodeFiles registry report signal names _ with ⟨after, fault | rest⟩ <;> rfl

/-- Twins read the same files, so they say the same about them and stay twins. -/
theorem decodeFiles_twins (twins : one.Twins other) (names : List Text) :
    (decodeFiles registry report signal names one).1.Twins
        (decodeFiles registry report signal names other).1 ∧
      (decodeFiles registry report signal names one).2 =
        (decodeFiles registry report signal names other).2 := by
  induction names generalizing one other with
  | nil => exact ⟨twins, rfl⟩
  | cons file names ih =>
      have followed := twins.recordAll (decodeFile registry report signal other.files file).entries
      obtain ⟨still, same⟩ := ih followed
      rw [decodeFiles_cons, decodeFiles_cons, twins.files]
      dsimp only
      cases (decodeFile registry report signal other.files file).outcome with
      | error fault => exact ⟨followed, rfl⟩
      | ok first => exact ⟨still, congrArg (Except.map (first && ·)) same⟩

theorem sameResults_decodeSources (twins : one.Twins other) :
    SameResults (decodeSources settings registry one) (decodeSources settings registry other) := by
  have decoded := twins.recordAll (saidFirst settings registry)
  obtain ⟨still, same⟩ := @decodeFiles_twins registry settings.report settings.signal _ _ decoded
    settings.telegramFiles
  simp only [decodeSources, Session.follow, ← Session.recordAll_append]
  rw [← saidFirst]
  cases (decodeAll registry settings.report settings.signal settings.telegrams).outcome with
  | error fault => exact sameResults_stop decoded fault.message
  | ok first =>
      revert still same
      dsimp only
      rcases decodeFiles registry settings.report settings.signal settings.telegramFiles
        (one.recordAll (saidFirst settings registry)) with ⟨after, result⟩
      rcases decodeFiles registry settings.report settings.signal settings.telegramFiles
        (other.recordAll (saidFirst settings registry)) with ⟨afterOther, resultOther⟩
      rintro still rfl
      cases result with
      | error fault => exact sameResults_stop still fault.message
      | ok rest => exact ⟨still.stdout, still.files, rfl⟩

/-- Settings that differ in the log only, without a log file, give the same results. -/
theorem sameResults_withSettings {catalogue : Catalogue} (closed : session.log.file = none)
    (alike : settings.hushed = left.hushed) (unlogged : settings.log.file = none) :
    SameResults (withSettings catalogue settings session) (withSettings catalogue left session) := by
  have unloggedToo : left.log.file = none :=
    (congrArg (fun hushed : Settings => hushed.log.file) alike).symm.trans unlogged
  have twins := Session.twins_configure closed unlogged unloggedToo
  -- Nothing but the log is left to tell the settings apart.
  obtain ⟨needsHelp, log, listsDecoders, configFile, json, fields, separator, signal, selected,
    telegrams, telegramFiles⟩ := settings
  obtain ⟨_, leftLog, _, _, _, _, _, _, _, _, _⟩ := left
  simp only [Settings.hushed, Settings.mk.injEq] at alike
  obtain ⟨rfl, -, rfl, rfl, rfl, rfl, rfl, rfl, rfl, rfl, rfl⟩ := alike
  simp only [withSettings]
  split
  · exact ⟨rfl, rfl, rfl⟩
  · split
    · exact sameResults_print twins _ 0
    · split
      · exact sameResults_stop twins _
      · cases catalogue.registry with
        | error broken => exact sameResults_stop twins broken.message
        | ok registry => exact sameResults_decodeSources twins

/-- A run whose settings name no log file. -/
def Unlogged (files : Directory) (arguments : List Text) : Prop :=
  ∀ settings, (CommandLine.parse files arguments).outcome = .ok settings →
    settings.log.file = none

/-- Log options change nothing but the log: without a log file, runs that differ in such options
only, and have other arguments, print the same, leave the same files and end with the same
exit status. -/
theorem ofArguments_logOptions (unlogged : Unlogged files arguments)
    (same : CommandLine.withoutLogOptions (arguments.map Text.shown) =
      CommandLine.withoutLogOptions (others.map Text.shown))
    (present : CommandLine.withoutLogOptions (arguments.map Text.shown) ≠ []) :
    SameResults (ofArguments files arguments) (ofArguments files others) := by
  obtain ⟨said, read⟩ := @CommandLine.parse_alike files arguments others same present
  simp only [ofArguments, Session.follow, said]
  rcases Results.alike_of_map read with
    ⟨fault, first, second⟩ | ⟨settings, left, first, second, alike⟩
  · rw [first, second]
    exact ⟨rfl, rfl, rfl⟩
  · rw [first, second]
    have closed : ((Session.start files).recordAll
        (CommandLine.parse files others).entries).log.file = none :=
      (Session.recordAll_files rfl _).1
    exact sameResults_withSettings closed alike (unlogged settings first)

theorem ofArguments_logOptions_traced :
    let files := configuredBy "format=fields\nseparator=,\n"
    let arguments : List Text := ["--useconfig=c", "--silent", "t"]
    let others : List Text := ["--trace", "--useconfig=c", "--logtimestamps=always", "t"]
    Unlogged files arguments ∧
      CommandLine.withoutLogOptions (arguments.map Text.shown) = ["--useconfig=c", "t"] ∧
      SameResults (ofArguments files arguments) (ofArguments files others) ∧
      (ofArguments files arguments).session.stderr ≠ (ofArguments files others).session.stderr := by
  intro files arguments others
  have unlogged : Unlogged files arguments := by
    intro settings parsed
    obtain rfl := Except.ok.inj parsed
    rfl
  have left : CommandLine.withoutLogOptions (arguments.map Text.shown) = ["--useconfig=c", "t"] := by
    decide +kernel
  refine ⟨unlogged, left, ofArguments_logOptions unlogged (by decide +kernel) ?_, by decide +kernel⟩
  rw [left]
  exact List.cons_ne_nil _ _

end Run

end MeterTelegram
