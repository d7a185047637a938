import MeterTelegram.Proofs.ConfigFile.Overreach

namespace MeterTelegram.ConfigFile

/-! The pairs a config file is written as. Where no line is too long, a file is its pairs one
after another, up to the first that cannot be read; a key may go over several lines. -/

variable {files : Directory} {settings : Settings} {line key value name content : Text}
  {later written : List Text} {pair : Pair}

/-- Pairs as they are written, with the lines of an unfinished key in front. A key that is not
finished at the end of the file is no pair. -/
def writtenPairs : Option Text → List Text → List Pair
  | _, [] => []
  | some key, line :: later =>
      if isBare line then writtenPairs (some (key ++ 10 :: line)) later
      else ⟨key ++ 10 :: beforeEquals line, behindEquals line⟩ :: writtenPairs none later
  | none, line :: later =>
      match Line.ofText line with
      | .blank | .comment _ => writtenPairs none later
      | .bare text => writtenPairs (some text) later
      | .pair key value => ⟨key, value⟩ :: writtenPairs none later

namespace Pair

/-- A pair as it is applied. -/
def tidied (pair : Pair) : Pair :=
  ⟨Text.trim pair.key, withoutReturn (Text.trim pair.value)⟩

def IsRead (pair : Pair) : Prop :=
  pair.key ≠ [] ∧ Fits pair.key pair.value

instance : DecidablePred IsRead :=
  fun _ => inferInstanceAs (Decidable (_ ∧ _))

end Pair

/-- The settings after written pairs; the first that cannot be read ends the file. -/
def afterPairs (files : Directory) : Settings → List Pair → Settings
  | settings, [] => settings
  | settings, pair :: others =>
      if pair.IsRead then afterPairs files (applied files settings pair.tidied) others
      else settings

theorem writtenPairs_pending (key : Text) (later : List Text) :
    writtenPairs (some key) later =
      match later.dropWhile isBare with
      | [] => []
      | other :: behind =>
          ⟨bareKey key later other, behindEquals other⟩ :: writtenPairs none behind := by
  induction later generalizing key with
  | nil => rfl
  | cons line later ih =>
      cases bare : isBare line with
      | false =>
          simp [writtenPairs, bare, bareKey, unlines]
      | true =>
          rw [writtenPairs, if_pos bare, ih, List.dropWhile_cons_of_pos bare]
          cases later.dropWhile isBare with
          | nil => rfl
          | cons other behind =>
              simp [bareKey, List.takeWhile_cons_of_pos bare, unlines_cons]

theorem Line.Form.value_suffix (formed : Line.Form line (.pair key value)) : value <:+ line := by
  have shown : line.dropWhile isBetweenLines <:+ line := List.dropWhile_suffix isBetweenLines
  cases formed with
  | keyless text =>
      rw [text] at shown
      exact (List.suffix_cons 61 value).trans shown
  | @pair first tail _ text visible silent unequal =>
      rw [text] at shown
      exact (List.suffix_cons 61 value).trans ((List.suffix_append (first :: tail) _).trans shown)

/-- A value stands on one line. -/
theorem value_of_written {pending : Option Text} (member : pair ∈ writtenPairs pending written) :
    ∃ text ∈ written, pair.value <:+ text := by
  induction written generalizing pending with
  | nil => cases pending <;> contradiction
  | cons line later ih =>
      have behind {pending : Option Text} (member : pair ∈ writtenPairs pending later) :
          ∃ text ∈ line :: later, pair.value <:+ text := by
        obtain ⟨text, listed, suffix⟩ := ih member
        exact ⟨text, List.mem_cons_of_mem _ listed, suffix⟩
      cases pending with
      | some key =>
          rw [writtenPairs] at member
          split at member
          · exact behind member
          · rcases List.mem_cons.mp member with rfl | member
            · exact ⟨line, List.mem_cons_self,
                (List.tail_suffix _).trans (List.dropWhile_suffix _)⟩
            · exact behind member
      | none =>
          have form := Line.form line
          rw [writtenPairs] at member
          revert form member
          cases Line.ofText line with
          | blank | comment | bare => exact fun member _ => behind member
          | pair key value =>
              intro member form
              rcases List.mem_cons.mp member with rfl | member
              · exact ⟨line, List.mem_cons_self, form.value_suffix⟩
              · exact behind member

/-- A key over several lines is not known, so that its value changes nothing. -/
theorem applied_of_broken_key (broken : 10 ∈ pair.key) :
    applied files settings pair.tidied = settings :=
  applied_of_unknown (ofName?_of_newline (Text.mem_trim broken rfl))

theorem isSound_iff_isRead : (Line.pair key value).isSound = true ↔ Pair.IsRead ⟨key, value⟩ := by
  simp [Line.isSound, Pair.IsRead, Fits, and_assoc]

theorem afterLine_of_pair (formed : Line.ofText line = .pair key value) :
    afterLine files settings line = applied files settings (Pair.tidied ⟨key, value⟩) := by
  rw [afterLine, formed]
  cases keyed : (Text.trim key).isEmpty with
  | true =>
      simp only [Line.setting?, keyed, if_true]
      exact (applied_of_no_key keyed).symm
  | false =>
      simp only [Line.setting?, keyed]
      rfl

theorem afterUnsound_bare (text : Text)
    (behind : ∀ {behind}, behind <:+ later →
      after files settings (unlines behind) =
        afterPairs files settings (writtenPairs none behind)) :
    afterUnsound files settings later (.bare text) =
      afterPairs files settings (writtenPairs (some text) later) := by
  rw [writtenPairs_pending, afterUnsound]
  cases found : later.dropWhile isBare with
  | nil => rfl
  | cons other rest =>
      have broken : 10 ∈ bareKey text later other := List.mem_append_right _ List.mem_cons_self
      have suffix : rest <:+ later :=
        (List.suffix_cons other rest).trans (found ▸ List.dropWhile_suffix isBare)
      have unknown : applied files settings
          (Pair.tidied ⟨bareKey text later other, behindEquals other⟩) = settings :=
        applied_of_broken_key broken
      have read : Pair.IsRead ⟨bareKey text later other, behindEquals other⟩ ↔
          Fits (bareKey text later other) (behindEquals other) :=
        and_iff_right (List.ne_nil_of_mem broken)
      simp only [afterPairs, read, unknown, behind suffix]

/-- A file without overlong lines is read as its written pairs. -/
theorem after_eq_afterPairs (unbroken : ∀ line ∈ written, 10 ∉ line)
    (short : ∀ line ∈ written, line.length ≤ maxLength) (settings : Settings) :
    after files settings (unlines written) =
      afterPairs files settings (writtenPairs none written) := by
  -- An unfinished key takes whole lines at once, so the induction is on their number.
  induction count : written.length using Nat.strong_induction_on generalizing written settings with
  | _ count ih =>
    cases written with
    | nil => exact after_of_end rfl
    | cons line later =>
      obtain ⟨unbrokenHere, unbroken⟩ := List.forall_mem_cons.mp unbroken
      obtain ⟨shortHere, short⟩ := List.forall_mem_cons.mp short
      have behind {behind : List Text} (suffix : behind <:+ later) (settings : Settings) :
          after files settings (unlines behind) =
            afterPairs files settings (writtenPairs none behind) :=
        ih behind.length (by have := suffix.length_le; rw [List.length_cons] at count; omega)
          (fun line member => unbroken line (suffix.subset member))
          (fun line member => short line (suffix.subset member)) settings rfl
      have form := Line.form line
      rw [unlines_cons, writtenPairs]
      cases formed : Line.ofText line with
      | blank =>
          rw [after_of_sound (by rw [formed]; rfl) unbrokenHere, afterLine, formed]
          exact behind (List.suffix_refl later) settings
      | comment text =>
          have sound := (isSound_of_short shortHere).resolve_right (by simp [formed])
          rw [after_of_sound sound unbrokenHere, afterLine, formed]
          exact behind (List.suffix_refl later) settings
      | bare text =>
          rw [formed] at form
          cases form with
          | bare text visible silent unequal =>
              rw [after_of_bare text visible silent unequal unbroken]
              exact afterUnsound_bare _ fun suffix => behind suffix settings
      | pair key value =>
          rw [formed] at form
          by_cases read : Pair.IsRead ⟨key, value⟩
          · rw [after_of_sound (by rw [formed]; exact isSound_iff_isRead.mpr read) unbrokenHere,
              behind (List.suffix_refl later), afterPairs, if_pos read, afterLine_of_pair formed]
          · have unsound := Bool.eq_false_iff.mpr (isSound_iff_isRead.not.mpr read)
            rw [after_of_unsound_pair form unsound unbrokenHere, afterPairs, if_neg read]

theorem load_of_short (read : files.read name = .ok content)
    (short : ∀ line ∈ lines content, line.length ≤ maxLength) (settings : Settings) :
    (load files name settings).outcome =
      .ok (afterPairs files settings (writtenPairs none (lines content))) := by
  rw [load_outcome read, ← unlines_lines, after_eq_afterPairs (unbroken_lines content) short]

end MeterTelegram.ConfigFile
