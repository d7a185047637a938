import Mathlib.Data.List.Forall2
import MeterTelegram.Proofs.Hex
import MeterTelegram.Proofs.TelegramFile.Pushing
import MeterTelegram.Proofs.TextLines

namespace MeterTelegram.TelegramFile

/-! Telegram files told by their lines. Every line that is neither blank nor a comment has to
name a telegram. The telegrams in front of the first line that does not are kept all the same. -/

variable {files : Directory} {file line text telegram content : Text} {before lines : List Text}

/-- Text of digits for whole bytes, at least one, and of separators; what stands behind a NUL
byte is not looked at. -/
def IsHex (text : Text) : Prop :=
  Hex.Plain text.shown ∧ Hex.digits text.shown ≠ [] ∧ (Hex.digits text.shown).length % 2 = 0

/-- Text with a bar at either end. -/
def Barred (text : Text) : Prop :=
  ∃ inner, text = 124 :: inner ++ [124]

/-- What a line says: a telegram, with bars around it or without. -/
inductive Names : Text → Text → Prop where
  | bare {telegram : Text} (unbarred : ¬ Barred telegram) (hex : IsHex telegram) :
      Names (start ++ telegram) telegram
  | barred {telegram : Text} (hex : IsHex telegram) :
      Names (start ++ (124 :: telegram ++ [124])) telegram

/-- Neither blank nor a comment. -/
def isRelevant (line : Text) : Bool :=
  !line.isEmpty && line.head? != some 35

/-- The lines that have to name a telegram, without blanks at their ends. -/
def relevant (lines : List Text) : List Text :=
  (lines.map Text.trim).filter isRelevant

theorem withoutBars_barred (inner : Text) : withoutBars (124 :: inner ++ [124]) = inner := by
  have last : (124 :: inner ++ [124]).getLast? = some 124 := List.getLast?_concat
  have long : 2 ≤ (124 :: inner ++ [124]).length := by simp
  rw [withoutBars, if_pos ⟨long, rfl, last⟩]
  exact List.dropLast_concat

theorem withoutBars_unbarred (unbarred : ¬ Barred text) : withoutBars text = text := by
  refine if_neg fun ⟨long, first, last⟩ => unbarred ?_
  obtain ⟨rest, rfl⟩ := List.head?_eq_some_iff.mp first
  have present : rest ≠ [] := by
    rintro rfl
    contradiction
  rw [List.getLast?_cons_of_ne_nil present] at last
  obtain ⟨inner, rfl⟩ := List.getLast?_eq_some_iff.mp last
  exact ⟨inner, rfl⟩

theorem names_start_iff :
    Names (start ++ text) telegram ↔ withoutBars text = telegram ∧ IsHex telegram := by
  constructor
  · intro names
    generalize spelled : start ++ text = line at names
    cases names with
    | bare unbarred hex =>
        obtain rfl := List.append_cancel_left spelled
        exact ⟨withoutBars_unbarred unbarred, hex⟩
    | barred hex =>
        obtain rfl := List.append_cancel_left spelled
        exact ⟨withoutBars_barred telegram, hex⟩
  · rintro ⟨rfl, hex⟩
    by_cases barred : Barred text
    · obtain ⟨inner, rfl⟩ := barred
      rw [withoutBars_barred] at hex ⊢
      exact .barred hex
    · rw [withoutBars_unbarred barred] at hex ⊢
      exact .bare barred hex

theorem Names.starts (names : Names line telegram) : ∃ text, line = start ++ text := by
  cases names with
  | bare => exact ⟨_, rfl⟩
  | barred => exact ⟨_, rfl⟩

theorem telegram?_of_irrelevant (passed : isRelevant line = false) :
    telegram? file line = .ok none := by
  cases line with
  | nil => rfl
  | cons first rest =>
      have comment : first = 35 := by simpa [isRelevant] using passed
      simp only [telegram?, comment, if_true]

theorem telegram?_of_start (file text : Text) :
    telegram? file (start ++ text) =
      if Hex.isTelegram (withoutBars text) then .ok (some (withoutBars text))
      else .error (.notHex file (start ++ text)) := by
  have begins : (start ++ text).startsWith start = true :=
    List.isPrefixOf_iff_prefix.mpr (List.prefix_append start text)
  have behind : (start ++ text).drop start.length = text := List.drop_left
  have first : start ++ text = 116 :: (start.tail ++ text) := rfl
  rw [first] at begins behind ⊢
  simp only [telegram?, begins, behind]
  rfl

theorem telegram?_of_other (looked : isRelevant line = true) (other : ∀ text, line ≠ start ++ text)
    (file : Text) : telegram? file line = .error (.unexpected file line) := by
  have begins : line.startsWith start = false := by
    refine Bool.of_not_eq_true fun begins => ?_
    obtain ⟨text, spelled⟩ := List.isPrefixOf_iff_prefix.mp begins
    exact other text spelled.symm
  cases line with
  | nil => contradiction
  | cons first rest =>
      have silent : first ≠ 35 := by simpa [isRelevant] using looked
      simp only [telegram?, silent, begins, if_false]
      rfl

/-- A line that is no telegram, and the fault that says so. -/
inductive Refused (file line : Text) : Fault → Prop where
  | unexpected (other : ∀ text, line ≠ start ++ text) : Refused file line (.unexpected file line)
  | notHex (text : Text) (spelled : line = start ++ text) (unread : ¬ IsHex (withoutBars text)) :
      Refused file line (.notHex file line)

theorem Refused.nameless {fault : Fault} (refused : Refused file line fault) (telegram : Text) :
    ¬ Names line telegram := by
  intro names
  cases refused with
  | unexpected other =>
      obtain ⟨text, spelled⟩ := names.starts
      exact other text spelled
  | notHex text spelled unread =>
      rw [spelled, names_start_iff] at names
      obtain ⟨rfl, hex⟩ := names
      exact unread hex

/-- A line that has to name a telegram does, or is refused. -/
theorem telegram?_of_relevant (file : Text) (looked : isRelevant line = true) :
    (∃ telegram, Names line telegram ∧ telegram? file line = .ok (some telegram)) ∨
      ∃ fault, Refused file line fault ∧ telegram? file line = .error fault := by
  by_cases starts : ∃ text, line = start ++ text
  · obtain ⟨text, rfl⟩ := starts
    rw [telegram?_of_start]
    by_cases accepted : Hex.isTelegram (withoutBars text) = true
    · have names := names_start_iff.mpr ⟨rfl, Hex.isTelegram_iff.mp accepted⟩
      exact .inl ⟨withoutBars text, names, if_pos accepted⟩
    · have unread : ¬ IsHex (withoutBars text) := fun hex => accepted (Hex.isTelegram_iff.mpr hex)
      exact .inr ⟨_, .notHex text rfl unread, if_neg accepted⟩
  · have other : ∀ text, line ≠ start ++ text := fun text spelled => starts ⟨text, spelled⟩
    exact .inr ⟨_, .unexpected other, telegram?_of_other looked other file⟩

/-- How far lines were collected: to their end, or to the first that is refused. -/
inductive Collected (file : Text) (before lines : List Text) : List Text × Option Fault → Prop where
  | all {added : List Text} (named : List.Forall₂ Names lines added) :
      Collected file before lines (before ++ added, none)
  | part {front rest added : List Text} {line : Text} {fault : Fault}
      (parts : lines = front ++ line :: rest) (named : List.Forall₂ Names front added)
      (refused : Refused file line fault) :
      Collected file before lines (before ++ added, some fault)

theorem Collected.cons {result : List Text × Option Fault} (names : Names line telegram)
    (collected : Collected file (before ++ [telegram]) lines result) :
    Collected file before (line :: lines) result := by
  cases collected with
  | all named =>
      rw [List.append_assoc]
      exact .all (.cons names named)
  | part parts named refused =>
      rw [List.append_assoc]
      exact .part (by rw [parts]; rfl) (.cons names named) refused

theorem Collected.refuse {fault : Fault} (refused : Refused file line fault)
    (before lines : List Text) :
    Collected file before (line :: lines) (before, some fault) := by
  have nothing : Collected file before (line :: lines) (before ++ [], some fault) :=
    .part rfl .nil refused
  rwa [List.append_nil] at nothing

theorem relevant_cons (line : Text) (others : List Text) :
    relevant (line :: others) =
      if isRelevant (Text.trim line) then Text.trim line :: relevant others
      else relevant others := by
  rw [relevant, List.map_cons, List.filter_cons]
  rfl

theorem collect_collected (file : Text) (before lines : List Text) :
    Collected file before (relevant lines) (collect file before lines) := by
  induction lines generalizing before with
  | nil =>
      have nothing : Collected file before [] (before ++ [], none) := .all .nil
      rwa [List.append_nil] at nothing
  | cons line others ih =>
      rw [relevant_cons, collect]
      cases looked : isRelevant (Text.trim line) with
      | false =>
          rw [telegram?_of_irrelevant looked]
          exact ih before
      | true =>
          obtain ⟨telegram, names, found⟩ | ⟨fault, refused, found⟩ :=
            telegram?_of_relevant file looked
          · rw [found]
            exact (ih (before ++ [telegram])).cons names
          · rw [found]
            exact .refuse refused before (relevant others)

/-- The lines of a file that have to name a telegram, as far as the lines are read. -/
def entries (content : Text) : List Text :=
  relevant ((TextLines.clipped content).map TextLines.withoutReturn)

theorem relevant_of_tidied (lines : List Text) :
    relevant (TextLines.tidied lines) = relevant (lines.map TextLines.withoutReturn) := by
  have passed (lines : List Text) :
      relevant (lines.filter fun line => !line.isEmpty) = relevant lines := by
    induction lines with
    | nil => rfl
    | cons line others ih =>
        cases line with
        | nil => exact ih
        | cons first rest =>
            rw [List.filter_cons_of_pos rfl, relevant_cons, relevant_cons, ih]
  exact passed _

theorem Fault.message_ne_nil (fault : Fault) : fault.message ≠ [] := by
  cases fault with
  | unreadable => exact List.append_ne_nil_of_left_ne_nil (by decide +kernel) _
  | unexpected | notHex =>
      simp only [message, List.append_assoc]
      exact List.append_ne_nil_of_left_ne_nil (by decide +kernel) _

/-- What becomes of a load: nothing is added, or what could be collected. -/
inductive Loaded (files : Directory) (file : Text) (before : List Text) (loaded : Load) : Prop where
  | unread (unread : ∀ content, files.read file = .ok content → ¬ TextLines.IsRead content)
      (telegrams : loaded.telegrams = before) (fault : loaded.fault = some (.unreadable file))
  | collected {content : Text} (found : files.read file = .ok content)
      (readable : TextLines.IsRead content)
      (collected : Collected file before (entries content) (loaded.telegrams, loaded.fault))

theorem load_loaded (files : Directory) (file : Text) (before : List Text) :
    Loaded files file before (load files file before) := by
  cases found : files.read file with
  | error cause =>
      have unread : ∀ content, files.read file = .ok content → ¬ TextLines.IsRead content := by
        intro content other
        rw [found] at other
        contradiction
      exact .unread unread (by simp only [load, TextLines.load, found])
        (by simp only [load, TextLines.load, found])
  | ok content =>
      by_cases readable : TextLines.IsRead content
      · have collected := collect_collected file before
          (TextLines.tidied (TextLines.clipped content))
        rw [relevant_of_tidied] at collected
        refine .collected found readable ?_
        simp only [load, TextLines.load_of_read found readable]
        split
        · rename_i telegrams fault same
          rwa [same] at collected
        · rename_i telegrams same
          rwa [same] at collected
      · have unread : ∀ other, files.read file = .ok other → ¬ TextLines.IsRead other := by
          intro other same
          obtain rfl := Except.ok.inj (found.symm.trans same)
          exact readable
        exact .unread unread (by simp only [load, TextLines.load_of_unread found readable])
          (by simp only [load, TextLines.load_of_unread found readable])

theorem named_of_forall₂ {added : List Text} (named : List.Forall₂ Names lines added) :
    ∀ line ∈ lines, ∃ telegram, Names line telegram := by
  induction named with
  | nil => nofun
  | cons names _ ih => exact List.forall_mem_cons.mpr ⟨⟨_, names⟩, ih⟩

namespace Loaded

variable {loaded : Load}

theorem fault_none_iff (outcome : Loaded files file before loaded) :
    loaded.fault = none ↔
      ∃ content, files.read file = .ok content ∧ TextLines.IsRead content ∧
        ∀ line ∈ entries content, ∃ telegram, Names line telegram := by
  cases outcome with
  | unread unread telegrams fault =>
      refine ⟨fun fine => ?_, fun ⟨content, found, readable, _⟩ => ?_⟩
      · rw [fault] at fine
        contradiction
      · exact absurd readable (unread content found)
  | @collected content found readable collected =>
      generalize paired : (loaded.telegrams, loaded.fault) = result at collected
      cases collected with
      | all named =>
          obtain ⟨-, fine⟩ := Prod.mk.inj paired
          exact ⟨fun _ => ⟨content, found, readable, named_of_forall₂ named⟩, fun _ => fine⟩
      | @part front rest added line fault parts named refused =>
          obtain ⟨-, failed⟩ := Prod.mk.inj paired
          refine ⟨fun fine => ?_, fun ⟨other, same, _, named⟩ => ?_⟩
          · rw [failed] at fine
            contradiction
          · obtain rfl := Except.ok.inj (found.symm.trans same)
            obtain ⟨telegram, names⟩ := named line (by simp [parts])
            exact absurd names (refused.nameless telegram)

theorem added_of_none (outcome : Loaded files file before loaded) (fine : loaded.fault = none) :
    ∃ content added, files.read file = .ok content ∧
      List.Forall₂ Names (entries content) added ∧ loaded.telegrams = before ++ added := by
  cases outcome with
  | unread unread telegrams fault =>
      rw [fault] at fine
      contradiction
  | @collected content found readable collected =>
      rw [fine] at collected
      generalize paired : (loaded.telegrams, none) = result at collected
      cases collected with
      | all named =>
          obtain ⟨telegrams, -⟩ := Prod.mk.inj paired
          exact ⟨content, _, found, named, telegrams⟩
      | part parts named refused =>
          obtain ⟨-, failed⟩ := Prod.mk.inj paired
          contradiction

theorem added_of_some {fault : Fault} (outcome : Loaded files file before loaded)
    (failed : loaded.fault = some fault) :
    (fault = .unreadable file ∧ loaded.telegrams = before) ∨
      ∃ content front line rest added, files.read file = .ok content ∧
        entries content = front ++ line :: rest ∧ List.Forall₂ Names front added ∧
        Refused file line fault ∧ loaded.telegrams = before ++ added ∧
        (loaded.telegrams = before ↔ front = []) := by
  cases outcome with
  | unread unread telegrams unreadable =>
      obtain rfl := Option.some.inj (failed.symm.trans unreadable)
      exact .inl ⟨rfl, telegrams⟩
  | @collected content found readable collected =>
      rw [failed] at collected
      generalize paired : (loaded.telegrams, some fault) = result at collected
      cases collected with
      | all named =>
          obtain ⟨-, fine⟩ := Prod.mk.inj paired
          contradiction
      | @part front rest added line other parts named refused =>
          obtain ⟨telegrams, same⟩ := Prod.mk.inj paired
          obtain rfl := Option.some.inj same
          have nothing : loaded.telegrams = before ↔ front = [] := by
            rw [telegrams, List.append_right_eq_self, ← List.length_eq_zero_iff,
              ← List.length_eq_zero_iff, named.length_eq]
          exact .inr ⟨content, front, line, rest, added, found, parts, named, refused, telegrams,
            nothing⟩

end Loaded

/-- A telegram file loads if its lines are read and each of them that is neither blank nor a
comment names a telegram; these are then added in the order of their lines. A file that does not
load says why. It adds nothing if its lines are not read; else it has added what stands in front
of the first line that is refused, so that nothing was added only if that line is the first. -/
theorem load_exact (files : Directory) (file : Text) (held : Held) :
    let loaded := load files file held.telegrams
    let after := (loadInto files file held).2
    after.telegrams = loaded.telegrams ∧
      ((loadInto files file held).1 = true ↔
        ∃ content, files.read file = .ok content ∧ TextLines.IsRead content ∧
          ∀ line ∈ entries content, ∃ telegram, Names line telegram) ∧
      ((loadInto files file held).1 = true →
        loaded.fault = none ∧ after.error = held.error ∧
          ∃ content added, files.read file = .ok content ∧
            List.Forall₂ Names (entries content) added ∧
            after.telegrams = held.telegrams ++ added) ∧
      ((loadInto files file held).1 = false →
        ∃ fault, loaded.fault = some fault ∧ after.error = fault.message ∧ after.error ≠ [] ∧
          ((fault = .unreadable file ∧ after.telegrams = held.telegrams) ∨
            ∃ content front line rest added, files.read file = .ok content ∧
              entries content = front ++ line :: rest ∧ List.Forall₂ Names front added ∧
              Refused file line fault ∧ after.telegrams = held.telegrams ++ added ∧
              (after.telegrams = held.telegrams ↔ front = []))) := by
  intro loaded after
  have outcome : Loaded files file held.telegrams loaded := load_loaded files file held.telegrams
  have same : loadInto files file held = held.after loaded := loadInto_eq files file held
  cases ended : loaded.fault with
  | none =>
      have told : loadInto files file held =
          (true, ⟨loaded.telegrams, held.error, held.log ++ loaded.entries⟩) := by
        rw [same, Held.after, ended]
      have holds : after = ⟨loaded.telegrams, held.error, held.log ++ loaded.entries⟩ :=
        congrArg Prod.snd told
      have added := outcome.added_of_none ended
      rw [told, holds]
      refine ⟨rfl, iff_of_true rfl (outcome.fault_none_iff.mp ended), fun _ => ⟨rfl, rfl, added⟩,
        fun refused => ?_⟩
      exact absurd refused.symm Bool.false_ne_true
  | some fault =>
      have told : loadInto files file held =
          (false, ⟨loaded.telegrams, fault.message, held.log ++ loaded.entries⟩) := by
        rw [same, Held.after, ended]
      have holds : after = ⟨loaded.telegrams, fault.message, held.log ++ loaded.entries⟩ :=
        congrArg Prod.snd told
      have added := outcome.added_of_some ended
      have unloaded : ¬ loaded.fault = none := by
        rw [ended]
        exact Option.some_ne_none fault
      rw [told, holds]
      refine ⟨rfl, iff_of_false Bool.false_ne_true (mt outcome.fault_none_iff.mpr unloaded),
        fun done => absurd done Bool.false_ne_true, fun _ => ?_⟩
      exact ⟨fault, rfl, rfl, fault.message_ne_nil, added⟩

/-- A telegram, and a line that names none. -/
theorem refused_keeps :
    (TextLines.alone "telegram=|00|\nbad\n").read "f" = .ok "telegram=|00|\nbad\n" ∧
      loadInto (TextLines.alone "telegram=|00|\nbad\n") "f" ⟨[], "", []⟩ =
        (false, ⟨["00"], "expected telegram=|hex| in f but got: bad", []⟩) := by
  decide +kernel

end MeterTelegram.TelegramFile
