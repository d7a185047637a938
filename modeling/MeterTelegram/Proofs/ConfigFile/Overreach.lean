import MeterTelegram.Proofs.ConfigFile.LineByLine

namespace MeterTelegram.ConfigFile

/-! Lines that reach beyond their end. A line without an equals sign becomes part of a key that
goes on to the next equals sign, a comment that is too long leaves its end as a line of its own,
and a pair without a key, or too long, ends the file. -/

variable {files : Directory} {settings : Settings}
  {line text value rest tail name content : Text} {later : List Text} {first : UInt8}

/-- Keys and values that can be read. -/
def Fits (key value : Text) : Prop :=
  key.length ≤ maxLength ∧ (Text.skipBlank value).length ≤ maxLength

instance {key value : Text} : Decidable (Fits key value) :=
  inferInstanceAs (Decidable (_ ∧ _))

/-- Lines without an equals sign go on to the end of the next line that has one. -/
def isBare (line : Text) : Bool :=
  !line.contains 61

def bareKey (text : Text) (later : List Text) (other : Text) : Text :=
  text ++ 10 :: (unlines (later.takeWhile isBare) ++ beforeEquals other)

/-- The settings after an unsound line and the lines behind it. -/
def afterUnsound (files : Directory) (settings : Settings) (later : List Text) :
    Line → Settings
  | .blank => after files settings (unlines later)
  | .comment text => after files settings (unlines (text.drop (maxLength + 1) :: later))
  | .bare text =>
      match later.dropWhile isBare with
      | [] => settings
      | other :: behind =>
          if Fits (bareKey text later other) (behindEquals other) then
            after files settings (unlines behind)
          else settings
  | .pair _ _ => settings

theorem after_of_no_pair (found : (keyAndValue rest).1 = Pair.none)
    (same : next text = keyAndValue rest) : after files settings text = settings := by
  refine after_of_end ?_
  rw [same, found]
  rfl

theorem keyAndValue_of_not_fits {key : Text} (unequal : 61 ∉ key) (unbroken : 10 ∉ value)
    (visible : Text.skipBlank key = key) (tooLong : ¬ Fits key value) (rest : Text) :
    (keyAndValue (key ++ 61 :: (value ++ 10 :: rest))).1 = Pair.none := by
  rcases Nat.lt_or_ge maxLength key.length with long | short
  · exact keyAndValue_of_long_key unequal (by rwa [visible]) _
  · exact keyAndValue_of_long_value unequal unbroken
      (Nat.lt_of_not_le fun shortValue => tooLong ⟨short, shortValue⟩) rest

theorem after_of_unsound_pair {key : Text} (form : Line.Form line (.pair key value))
    (unsound : (Line.pair key value).isSound = false) (unbroken : 10 ∉ line) (rest : Text) :
    after files settings (line ++ 10 :: rest) = settings := by
  cases form with
  | keyless text =>
      have found := next_of_visible text (by decide) rest
      exact after_of_end (by rw [found]; exact keyAndValue_of_keyless _)
  | @pair first tail _ text visible silent unequal =>
      have tooLong : ¬ Fits (first :: tail) value := by
        rintro ⟨short, shortValue⟩
        have sound : (Line.pair (first :: tail) value).isSound = true := by
          simp only [Line.isSound, Bool.and_eq_true, decide_eq_true_eq]
          exact ⟨⟨rfl, short⟩, shortValue⟩
        rw [sound] at unsound
        contradiction
      have found := next_of_visible text silent rest
      refine after_of_no_pair ?_ found
      rw [List.append_eq, ← List.cons_append, line_of_pair]
      exact keyAndValue_of_not_fits unequal (not_mem_value text unbroken)
        (skipBlank_of_visible visible) tooLong rest

theorem ofName?_of_newline (broken : 10 ∈ name) : Settings.Key.ofName? name = none := by
  have unbroken : ∀ key ∈ Settings.Key.all, 10 ∉ key.name := by decide +kernel
  refine List.find?_eq_none.mpr fun key listed same => unbroken key listed ?_
  rwa [beq_iff_eq.mp same]

theorem equals_of_not_bare {other : Text} {behind : List Text}
    (found : later.dropWhile isBare = other :: behind) : 61 ∈ other := by
  have stopped := List.head_dropWhile_not isBare (l := later) (by simp [found])
  simpa [found, isBare] using stopped

theorem unequal_of_bare (bare : ∀ line ∈ later, isBare line = true) : 61 ∉ unlines later := by
  intro member
  obtain ⟨line, listed, member⟩ := List.mem_flatMap.mp member
  have unequal := bare line listed
  simp_all [isBare]

theorem bareKey_split {other : Text} {behind : List Text}
    (found : later.dropWhile isBare = other :: behind) (text : Text) :
    text ++ 10 :: unlines later =
      bareKey text later other ++ 61 :: (behindEquals other ++ 10 :: unlines behind) := by
  have split : unlines later =
      unlines (later.takeWhile isBare) ++ unlines (later.dropWhile isBare) := by
    rw [← unlines_append, List.takeWhile_append_dropWhile]
  have parts := (split_at_equals (equals_of_not_bare found)).1
  calc text ++ 10 :: unlines later
      = text ++ 10 :: (unlines (later.takeWhile isBare) ++ (other ++ 10 :: unlines behind)) := by
        rw [split, found, unlines_cons]
    _ = text ++ 10 :: (unlines (later.takeWhile isBare) ++
          (beforeEquals other ++ 61 :: behindEquals other ++ 10 :: unlines behind)) := by
        rw [← parts]
    _ = _ := by simp only [bareKey, List.append_assoc, List.cons_append]

theorem unequal_bareKey {other : Text} {behind : List Text}
    (found : later.dropWhile isBare = other :: behind) (unequal : 61 ∉ text) :
    61 ∉ bareKey text later other := by
  have hidden : 61 ∉ unlines (later.takeWhile isBare) :=
    unequal_of_bare fun line member => List.mem_takeWhile_imp member
  have before : 61 ∉ beforeEquals other := (split_at_equals (equals_of_not_bare found)).2
  simp only [bareKey, List.mem_append, List.mem_cons]
  rintro (member | other | member | member)
  · exact unequal member
  · contradiction
  · exact hidden member
  · exact before member

theorem after_of_bare_to_end (text : line.dropWhile isBetweenLines = first :: tail)
    (silent : first ≠ 35) (unequal : 61 ∉ first :: tail) (unequalLater : 61 ∉ unlines later) :
    after files settings (line ++ 10 :: unlines later) = settings := by
  have absent : 61 ∉ first :: tail ++ 10 :: unlines later := by
    intro member
    rcases List.mem_append.mp member with here | behind
    · exact unequal here
    · exact unequalLater ((List.mem_cons.mp behind).resolve_left (by decide))
  exact after_of_no_pair
    (keyAndValue_of_missing (Text.scanTrimmed_missing (Text.free_of_not_mem absent)))
    (next_of_visible text silent (unlines later))

/-- A key that reaches across lines is no setting's, so that its value is passed over. -/
theorem after_of_broken_key {key : Text}
    (found : next text = keyAndValue (key ++ 61 :: (value ++ 10 :: rest))) (unequal : 61 ∉ key)
    (broken : 10 ∈ key) (visible : Text.skipBlank key = key) (unbroken : 10 ∉ value) :
    after files settings text = if Fits key value then after files settings rest else settings := by
  split
  · rename_i fits
    rw [keyAndValue_of_short unequal (by rw [visible]; exact fits.1) unbroken fits.2] at found
    have kept : 10 ∈ Text.trim key := Text.mem_trim broken rfl
    have keyed : (Text.trim key).isEmpty = false := by
      rw [List.isEmpty_eq_false_iff]
      exact List.ne_nil_of_mem kept
    rw [after_of_next found keyed, applied_of_unknown (ofName?_of_newline kept)]
  · rename_i tooLong
    exact after_of_no_pair (keyAndValue_of_not_fits unequal unbroken visible tooLong _) found

/-- A line without an equals sign takes the lines behind it into its key. -/
theorem after_of_bare (text : line.dropWhile isBetweenLines = first :: tail)
    (visible : isBetweenLines first = false) (silent : first ≠ 35) (unequal : 61 ∉ first :: tail)
    (unbroken : ∀ line ∈ later, 10 ∉ line) :
    after files settings (line ++ 10 :: unlines later) =
      afterUnsound files settings later (.bare (first :: tail)) := by
  simp only [afterUnsound]
  -- The key goes on to the next line with an equals sign; without one the file ends here.
  cases found : later.dropWhile isBare with
  | nil =>
      exact after_of_bare_to_end text silent unequal
        (unequal_of_bare (List.dropWhile_eq_nil_iff.mp found))
  | cons other behind =>
      have listed : other ∈ later := (List.dropWhile_suffix isBare).subset (by simp [found])
      have unbrokenValue : 10 ∉ behindEquals other := fun member => unbroken other listed
        ((List.dropWhile_suffix _).subset (List.mem_of_mem_tail member))
      have broken : 10 ∈ bareKey (first :: tail) later other :=
        List.mem_append_right _ List.mem_cons_self
      have read := next_of_visible text silent (unlines later)
      rw [bareKey_split found (first :: tail)] at read
      exact after_of_broken_key read (unequal_bareKey found unequal) broken
        (skipBlank_of_visible visible) unbrokenValue

theorem after_of_unsound (unsound : (Line.ofText line).isSound = false) (unbroken : 10 ∉ line)
    (unbrokenLater : ∀ line ∈ later, 10 ∉ line) (settings : Settings) :
    after files settings (line ++ 10 :: unlines later) =
      afterUnsound files settings later (Line.ofText line) := by
  have form := Line.form line
  revert unsound form
  cases Line.ofText line with
  | blank =>
      intro unsound
      contradiction
  | comment comment =>
      intro unsound form
      have long : maxLength < comment.length := Nat.lt_of_not_le (of_decide_eq_false unsound)
      cases form with
      | comment text =>
          rw [after_of_long_comment text long unbroken, afterUnsound, unlines_cons]
  | bare bare =>
      intro _ form
      cases form with
      | bare text visible silent unequal =>
          exact after_of_bare text visible silent unequal unbrokenLater
  | pair key value =>
      intro unsound form
      exact after_of_unsound_pair form unsound unbroken (unlines later)

theorem unbroken_lines (content : Text) : ∀ line ∈ lines content, 10 ∉ line :=
  fun _ member => Text.not_mem_fields member

/-- Of the lines that are not too long, only those without an equals sign or without a key
are not sound. -/
theorem isSound_of_short (short : line.length ≤ maxLength) :
    (Line.ofText line).isSound = true ∨ (∃ text, Line.ofText line = .bare text) ∨
      ∃ value, Line.ofText line = .pair [] value := by
  have within : (line.dropWhile isBetweenLines).length ≤ maxLength :=
    Nat.le_trans (List.dropWhile_suffix isBetweenLines).length_le short
  have form := Line.form line
  revert form
  cases Line.ofText line with
  | blank => exact fun _ => .inl rfl
  | comment comment =>
      intro form
      cases form with
      | comment text =>
          rw [text] at within
          exact .inl (decide_eq_true within)
  | bare bare => exact fun _ => .inr (.inl ⟨bare, rfl⟩)
  | pair key value =>
      intro form
      cases form with
      | keyless text => exact .inr (.inr ⟨value, rfl⟩)
      | pair text visible silent unequal =>
          have trimmed := (Text.skipBlank_suffix value).length_le
          simp only [text, List.length_append, List.length_cons] at within
          refine .inl ?_
          simp only [Line.isSound, Bool.and_eq_true, decide_eq_true_eq, List.length_cons]
          exact ⟨⟨rfl, by omega⟩, by omega⟩

/-- A config file applies its lines one after another, each by itself, as long as they are
sound. From the first unsound line on it does not: that line reaches into those behind it or
ends the file. -/
theorem load_lineByLine (read : files.read name = .ok content) (settings : Settings) :
    ((∀ line ∈ lines content, (Line.ofText line).isSound = true) →
      (load files name settings).outcome = .ok (afterLines files settings (lines content))) ∧
    (∀ line ∈ lines content, line.length ≤ maxLength →
      (Line.ofText line).isSound = true ∨ (∃ text, Line.ofText line = .bare text) ∨
        ∃ value, Line.ofText line = .pair [] value) ∧
    ∀ earlier line later, lines content = earlier ++ line :: later →
      (∀ line ∈ earlier, (Line.ofText line).isSound = true) →
      (Line.ofText line).isSound = false →
        (load files name settings).outcome =
          .ok (afterUnsound files (afterLines files settings earlier) later
            (Line.ofText line)) := by
  have loaded := load_outcome read settings
  have unbroken := unbroken_lines content
  rw [← unlines_lines] at loaded
  refine ⟨fun sound => ?_, fun _ _ short => isSound_of_short short, ?_⟩
  · have applied : after files settings (unlines (lines content) ++ []) = _ :=
      after_of_sounds sound unbroken settings []
    rw [List.append_nil] at applied
    rw [loaded, applied]
    rfl
  · intro earlier line later split sound unsound
    rw [split, List.forall_mem_append, List.forall_mem_cons] at unbroken
    obtain ⟨unbrokenEarlier, unbrokenHere, unbrokenLater⟩ := unbroken
    rw [loaded, split, unlines_append, after_of_sounds sound unbrokenEarlier, unlines_cons,
      after_of_unsound unsound unbrokenHere unbrokenLater]

def settingsFile : Text := "settings"

def holding (content : Text) : Directory :=
  { nodes := [([settingsFile], .file content)] }

theorem load_lineByLine_commented :
    let content : Text := "# how to print\n\n format = json \nseparator=,"
    (∀ line ∈ lines content, (Line.ofText line).isSound = true) ∧
      (load (holding content) settingsFile {}).outcome =
        .ok { json := true, separator := 44 } := by
  intro content
  have sound : ∀ line ∈ lines content, (Line.ofText line).isSound = true := by decide +kernel
  have read : (holding content).read settingsFile = .ok content := rfl
  have applied : afterLines (holding content) {} (lines content) =
      { json := true, separator := 44 } := by
    decide +kernel
  exact ⟨sound, ((load_lineByLine read {}).1 sound).trans (congrArg Except.ok applied)⟩

/-- A comment that goes on to a setting. -/
def commented (padding : Text) : Text :=
  35 :: (padding ++ Text.ofString "format=json")

theorem unbroken_commented {padding : Text} (unbroken : 10 ∉ padding) :
    10 ∉ commented padding := by
  have unbrokenSetting : 10 ∉ Text.ofString "format=json" := by decide +kernel
  intro member
  rcases List.mem_cons.mp member with marker | member
  · contradiction
  · rcases List.mem_append.mp member with member | member
    · exact unbroken member
    · exact unbrokenSetting member

/-- Where the comment has the longest length that is read, the setting takes effect. -/
theorem after_commented {padding : Text} (unbroken : 10 ∉ padding)
    (full : padding.length = maxLength) (settings : Settings) :
    after files settings (commented padding ++ [10]) =
      after files settings (Text.ofString "format=json" ++ [10]) := by
  have long : maxLength < (commented padding).length := by
    simp only [commented, List.length_cons, List.length_append]
    omega
  have left : (commented padding).drop (maxLength + 1) = Text.ofString "format=json" :=
    List.drop_left' full
  rw [after_of_long_comment rfl long (unbroken_commented unbroken)]
  exact congrArg (fun rest => after files settings (rest ++ [10])) left

theorem afterLine_commented (padding : Text) (settings : Settings) :
    afterLine files settings (commented padding) = settings :=
  rfl

/-- A line without an equals sign hides the next one, a line without a key all that follow,
and a comment that is too long turns into a setting. -/
theorem load_overreaches :
    let bare : Text := "colour\nformat=json\n"
    let keyless : Text := "=red\nformat=json\n"
    let overlong : Text := commented (List.replicate maxLength 120)
    (∃ final, (load (holding bare) settingsFile {}).outcome = .ok final ∧
      final.format = .plain ∧ (afterLines (holding bare) {} (lines bare)).format = .json) ∧
    (∃ final, (load (holding keyless) settingsFile {}).outcome = .ok final ∧
      final.format = .plain ∧ (afterLines (holding keyless) {} (lines keyless)).format = .json) ∧
    ∃ final, (load (holding overlong) settingsFile {}).outcome = .ok final ∧
      final.format = .json ∧
        (afterLines (holding overlong) {} (lines overlong)).format = .plain := by
  intro bare keyless overlong
  have loadedBare : (load (holding bare) settingsFile {}).outcome = _ := load_outcome rfl {}
  have loadedKeyless : (load (holding keyless) settingsFile {}).outcome = _ := load_outcome rfl {}
  have loadedOverlong : (load (holding overlong) settingsFile {}).outcome = _ :=
    load_outcome rfl {}
  have unbroken : 10 ∉ List.replicate maxLength (120 : UInt8) := fun member =>
    absurd (List.eq_of_mem_replicate member) (by decide)
  have single : lines overlong = [overlong] :=
    Text.fields_of_not_mem (unbroken_commented unbroken)
  rw [after_commented unbroken List.length_replicate] at loadedOverlong
  refine ⟨⟨_, loadedBare, by decide +kernel, by decide +kernel⟩,
    ⟨_, loadedKeyless, by decide +kernel, by decide +kernel⟩, _, loadedOverlong, ?_, ?_⟩
  · decide +kernel
  · rw [single, afterLines, List.foldl_cons, List.foldl_nil, afterLine_commented]
    rfl

end MeterTelegram.ConfigFile
