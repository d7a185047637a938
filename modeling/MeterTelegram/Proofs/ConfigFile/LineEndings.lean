import MeterTelegram.Proofs.ConfigFile.WrittenPairs
import MeterTelegram.Proofs.Settings

namespace MeterTelegram.ConfigFile

/-! Line endings. A carriage return in front of every newline stays in the keys that go over
lines and at the end of every value but that of the last line. -/

variable {files : Directory} {settings : Settings} {line text key value content name : Text}
  {path : List Text} {written later : List Text} {pair other : Pair} {pairs others : List Pair}
  {byte : UInt8}

def withReturns (content : Text) : Text :=
  content.flatMap fun byte => if byte = 10 then [13, 10] else [byte]

/-- The lines of a file when newlines become carriage return and newline. -/
def returned : List Text → List Text
  | [] => []
  | line :: later => (if later.isEmpty then line else line ++ [13]) :: returned later

def Line.returned : Line → Line
  | .blank => .blank
  | .comment text => .comment (text ++ [13])
  | .bare text => .bare (text ++ [13])
  | .pair key value => .pair key (value ++ [13])

/-- What a pair becomes: its value ends in a carriage return if its line had a newline. -/
inductive Pair.Returned (pair : Pair) : Pair → Prop where
  | last : Returned pair ⟨withReturns pair.key, pair.value⟩
  | ended : Returned pair ⟨withReturns pair.key, pair.value ++ [13]⟩

theorem withReturns_append (front back : Text) :
    withReturns (front ++ back) = withReturns front ++ withReturns back :=
  List.flatMap_append

theorem withReturns_newline (rest : Text) :
    withReturns (10 :: rest) = 13 :: 10 :: withReturns rest := rfl

theorem withReturns_of_not_mem (unbroken : 10 ∉ text) : withReturns text = text := by
  induction text with
  | nil => rfl
  | cons byte text ih =>
      have here : byte ≠ 10 := Ne.symm (List.ne_of_not_mem_cons unbroken)
      have behind := ih (List.not_mem_of_not_mem_cons unbroken)
      rw [withReturns, List.flatMap_cons, if_neg here, ← withReturns, behind]
      rfl

theorem lines_withReturns (content : Text) :
    lines (withReturns content) = returned (lines content) := by
  induction content with
  | nil => rfl
  | cons byte rest ih =>
      unfold lines at ih ⊢
      cases found : Text.fields 10 rest with
      | nil => exact absurd found (Text.fields_ne_nil 10 rest)
      | cons first others =>
          rw [found] at ih
          by_cases newline : byte = 10
          · subst newline
            rw [withReturns_newline]
            simp [Text.fields, ih, found, returned]
          · have kept : withReturns (byte :: rest) = byte :: withReturns rest := by
              simp [withReturns, newline]
            rw [kept]
            simp only [Text.fields, ih, found, returned, newline, if_false]
            split <;> rfl

theorem mem_returned (member : line ∈ returned written) :
    ∃ plain ∈ written, line = plain ∨ line = plain ++ [13] := by
  induction written with
  | nil => contradiction
  | cons plain later ih =>
      rcases List.mem_cons.mp member with rfl | member
      · refine ⟨plain, List.mem_cons_self, ?_⟩
        split
        · exact .inl rfl
        · exact .inr rfl
      · obtain ⟨plain, listed, same⟩ := ih member
        exact ⟨plain, List.mem_cons_of_mem _ listed, same⟩

/-- A carriage return more does not make lines too long that have room for it. -/
theorem returned_short (short : ∀ line ∈ written, line.length < 4095) :
    ∀ line ∈ returned written, line.length ≤ maxLength := by
  intro line listed
  obtain ⟨plain, member, rfl | rfl⟩ := mem_returned listed
  · exact Nat.le_trans (Nat.le_of_lt (short line member)) (by decide)
  · rw [List.length_append, List.length_singleton]
    exact Nat.le_trans (short plain member) (by decide)

/-! A line with a carriage return behind it -/

theorem isBare_return (line : Text) : isBare (line ++ [13]) = isBare line := by
  simp [isBare]

theorem parts_of_pair (unequal : 61 ∉ key) (value : Text) :
    beforeEquals (key ++ 61 :: value) = key ∧ behindEquals (key ++ 61 :: value) = value := by
  have kept : ∀ byte ∈ key, (byte != 61) = true := fun byte member =>
    bne_iff_ne.mpr (ne_of_mem_of_not_mem member unequal)
  constructor
  · rw [beforeEquals, List.takeWhile_append_of_pos kept]
    exact List.append_nil key
  · rw [behindEquals, List.dropWhile_append_of_pos kept]
    rfl

theorem parts_return (present : 61 ∈ line) :
    beforeEquals (line ++ [13]) = beforeEquals line ∧
      behindEquals (line ++ [13]) = behindEquals line ++ [13] := by
  obtain ⟨split, unequal⟩ := split_at_equals present
  have whole : line ++ [13] = beforeEquals line ++ 61 :: (behindEquals line ++ [13]) := by
    rw [← List.cons_append, ← List.append_assoc, ← split]
  rw [whole]
  exact parts_of_pair unequal _

theorem dropWhile_return (line : Text) :
    (line ++ [13]).dropWhile isBetweenLines =
      if (line.dropWhile isBetweenLines).isEmpty then []
      else line.dropWhile isBetweenLines ++ [13] := by
  rw [List.dropWhile_append]
  rfl

theorem ofText_return (line : Text) : Line.ofText (line ++ [13]) = (Line.ofText line).returned := by
  unfold Line.ofText
  simp only [dropWhile_return]
  cases text : line.dropWhile isBetweenLines with
  | nil => rfl
  | cons first tail =>
      simp only [List.isEmpty_cons, Bool.false_eq_true, if_false, List.cons_append]
      by_cases comment : first = 35
      · rw [if_pos comment, if_pos comment]
        rfl
      · rw [if_neg comment, if_neg comment, ← List.cons_append]
        by_cases present : 61 ∈ first :: tail
        · have still : 61 ∈ first :: tail ++ [13] := List.mem_append_left _ present
          obtain ⟨before, behind⟩ := parts_return present
          rw [if_pos (List.contains_iff_mem.mpr present), if_pos (List.contains_iff_mem.mpr still),
            before, behind]
          rfl
        · have still : 61 ∉ first :: tail ++ [13] := by simpa using present
          rw [if_neg (mt List.contains_iff_mem.mp present),
            if_neg (mt List.contains_iff_mem.mp still)]
          rfl

/-- Blanks in front of the carriage return stay. -/
theorem withoutReturn_trim_return (value : Text) :
    withoutReturn (Text.trim (value ++ [13])) = Text.skipBlank value := by
  have front : (value ++ [13]).dropWhile Text.isBlank = Text.skipBlank value ++ [13] :=
    Text.skipBlank_append_of_not_blank rfl value
  have trimmed : Text.trim (value ++ [13]) = Text.skipBlank value ++ [13] := by
    rw [Text.trim, front, List.reverse_concat, List.dropWhile_cons_of_neg (by decide),
      List.reverse_cons, List.reverse_reverse]
  rw [trimmed, withoutReturn, if_pos List.getLast?_concat, List.dropLast_concat]

theorem withoutReturn_of_not_mem (free : 13 ∉ value) : withoutReturn value = value :=
  if_neg fun last => free (List.mem_of_getLast? last)

/-! Pairs of a file and of the same file with carriage returns -/

theorem withReturns_key (key : Text) (unbroken : 10 ∉ text) :
    withReturns (key ++ 10 :: text) = withReturns key ++ [13] ++ 10 :: text := by
  rw [withReturns_append, withReturns_newline, withReturns_of_not_mem unbroken, List.append_assoc]
  rfl

theorem not_mem_beforeEquals (unbroken : 10 ∉ line) : 10 ∉ beforeEquals line :=
  fun member => unbroken ((List.takeWhile_prefix _).subset member)

/-- Keys and texts of a line hold no newline. -/
theorem Line.Form.unbroken {form : Line} (formed : Line.Form line form) (unbroken : 10 ∉ line) :
    match form with
    | .bare text => 10 ∉ text
    | .pair key _ => 10 ∉ key
    | _ => True := by
  cases formed with
  | blank | comment => trivial
  | bare text => exact not_mem_text text unbroken
  | keyless => exact List.not_mem_nil
  | pair text => exact fun member => not_mem_text text unbroken (List.mem_append_left _ member)

/-- The last line has no newline behind it, so it stays as it is. -/
theorem writtenPairs_last (unbroken : 10 ∉ line) :
    List.Forall₂ Pair.Returned (writtenPairs none [line]) (writtenPairs none [line]) ∧
      ∀ key, List.Forall₂ Pair.Returned (writtenPairs (some key) [line])
        (writtenPairs (some (withReturns key ++ [13])) [line]) := by
  have kept := (Line.form line).unbroken unbroken
  refine ⟨?_, fun key => ?_⟩
  · unfold writtenPairs
    revert kept
    cases Line.ofText line with
    | blank | comment | bare => exact fun _ => .nil
    | pair key value =>
        intro kept
        have here : Pair.Returned ⟨key, value⟩ _ := .last
        rw [withReturns_of_not_mem kept] at here
        exact .cons here .nil
  · unfold writtenPairs
    split
    · exact .nil
    · have here : Pair.Returned ⟨key ++ 10 :: beforeEquals line, behindEquals line⟩ _ := .last
      rw [withReturns_key key (not_mem_beforeEquals unbroken)] at here
      exact .cons here .nil

theorem writtenPairs_returned (unbroken : ∀ line ∈ written, 10 ∉ line) :
    List.Forall₂ Pair.Returned (writtenPairs none written) (writtenPairs none (returned written)) ∧
      ∀ key, List.Forall₂ Pair.Returned (writtenPairs (some key) written)
        (writtenPairs (some (withReturns key ++ [13])) (returned written)) := by
  induction written with
  | nil => exact ⟨.nil, fun _ => .nil⟩
  | cons line later ih =>
      obtain ⟨unbrokenHere, unbroken⟩ := List.forall_mem_cons.mp unbroken
      obtain ⟨plain, pending⟩ := ih unbroken
      cases more : later.isEmpty with
      | true =>
          obtain rfl := List.isEmpty_iff.mp more
          exact writtenPairs_last unbrokenHere
      | false =>
          have kept := (Line.form line).unbroken unbrokenHere
          simp only [returned, more, Bool.false_eq_true, if_false, writtenPairs, ofText_return,
            isBare_return]
          refine ⟨?_, fun key => ?_⟩
          · revert kept
            cases Line.ofText line with
            | blank | comment => exact fun _ => plain
            | bare text =>
                intro kept
                have behind := pending text
                rwa [withReturns_of_not_mem kept] at behind
            | pair key value =>
                intro kept
                have here : Pair.Returned ⟨key, value⟩ _ := .ended
                rw [withReturns_of_not_mem kept] at here
                exact .cons here plain
          · cases bare : isBare line with
            | true =>
                have behind := pending (key ++ 10 :: line)
                rwa [withReturns_key key unbrokenHere, List.append_assoc] at behind
            | false =>
                have present : 61 ∈ line := by simpa [isBare] using bare
                have here :
                    Pair.Returned ⟨key ++ 10 :: beforeEquals line, behindEquals line⟩ _ := .ended
                rw [withReturns_key key (not_mem_beforeEquals unbrokenHere)] at here
                rw [(parts_return present).1, (parts_return present).2]
                exact .cons here plain

/-! What the pairs do -/

/-- Pairs that are applied alike: the key is not too long with its carriage returns either, and
the value of a setting has no blanks at its end that a carriage return keeps. -/
structure Pair.Steady (pair other : Pair) : Prop where
  key : pair.key.length ≤ maxLength → other.key.length ≤ maxLength
  value : (Settings.Key.ofName? (Text.trim pair.key)).isSome →
    other.value = pair.value ∨ Text.trim pair.value = Text.skipBlank pair.value

theorem applied_put {old : Text} (known : files.node? path = some (.file old)) (content : Text) :
    applied (files.put path (.file content)) = applied files := by
  have same : Settings.Source.ofText? (files.put path (.file content)) =
      Settings.Source.ofText? files :=
    funext fun text => Settings.Source.ofText?_put known text content
  funext settings pair
  unfold applied apply Settings.give Settings.giveTelegram
  rw [same]

theorem afterPairs_put {old : Text} (known : files.node? path = some (.file old))
    (content : Text) (settings : Settings) (pairs : List Pair) :
    afterPairs (files.put path (.file content)) settings pairs =
      afterPairs files settings pairs := by
  induction pairs generalizing settings with
  | nil => rfl
  | cons pair others ih => simp only [afterPairs, applied_put known, ih]

theorem le_length_withReturns (text : Text) : text.length ≤ (withReturns text).length := by
  induction text with
  | nil => exact Nat.le_refl 0
  | cons byte text ih =>
      have split : withReturns (byte :: text) = withReturns [byte] ++ withReturns text :=
        withReturns_append [byte] text
      have here : 1 ≤ (withReturns [byte]).length := by
        by_cases newline : byte = 10 <;> simp [withReturns, newline]
      rw [split, List.length_append, List.length_cons]
      omega

theorem Pair.Returned.value_length (made : Pair.Returned pair other)
    (short : pair.value.length < maxLength) :
    (Text.skipBlank pair.value).length ≤ maxLength ∧
      (Text.skipBlank other.value).length ≤ maxLength := by
  have here := (Text.skipBlank_suffix pair.value).length_le
  have there := (Text.skipBlank_suffix other.value).length_le
  cases made with
  | last => exact ⟨by omega, Nat.le_trans here (Nat.le_of_lt short)⟩
  | ended =>
      rw [List.length_append, List.length_singleton] at there
      exact ⟨by omega, by omega⟩

theorem Pair.Returned.key_eq (made : Pair.Returned pair other) :
    other.key = withReturns pair.key := by
  cases made <;> rfl

theorem Pair.Steady.isRead_iff (made : Pair.Returned pair other) (steady : Pair.Steady pair other)
    (short : pair.value.length < maxLength) : pair.IsRead ↔ other.IsRead := by
  obtain ⟨here, there⟩ := made.value_length short
  have longer := le_length_withReturns pair.key
  rw [← made.key_eq] at longer
  constructor
  · rintro ⟨present, fits, -⟩
    have kept := List.length_pos_iff.mpr present
    exact ⟨List.length_pos_iff.mp (Nat.lt_of_lt_of_le kept longer), steady.key fits, there⟩
  · rintro ⟨present, fits, -⟩
    refine ⟨fun absent => present ?_, Nat.le_trans longer fits, here⟩
    rw [made.key_eq, absent]
    rfl

theorem Pair.Steady.tidied_value (made : Pair.Returned pair other) (steady : Pair.Steady pair other)
    (free : 13 ∉ pair.value) (known : (Settings.Key.ofName? (Text.trim pair.key)).isSome) :
    pair.tidied.value = other.tidied.value := by
  have same := steady.value known
  cases made with
  | last => rfl
  | ended =>
      have kept : Text.trim pair.value = Text.skipBlank pair.value :=
        same.resolve_left (by simp)
      have trimmed : 13 ∉ Text.skipBlank pair.value := fun member =>
        free ((Text.skipBlank_suffix pair.value).subset member)
      calc withoutReturn (Text.trim pair.value)
          = withoutReturn (Text.skipBlank pair.value) := by rw [kept]
        _ = Text.skipBlank pair.value := withoutReturn_of_not_mem trimmed
        _ = withoutReturn (Text.trim (pair.value ++ [13])) :=
            (withoutReturn_trim_return pair.value).symm

theorem applied_of_steady (made : Pair.Returned pair other) (steady : Pair.Steady pair other)
    (free : 13 ∉ pair.value) (settings : Settings) :
    applied files settings pair.tidied = applied files settings other.tidied := by
  by_cases broken : 10 ∈ pair.key
  · have still : 10 ∈ other.key := by
      rw [made.key_eq]
      exact List.mem_flatMap.mpr ⟨10, broken, by decide⟩
    rw [applied_of_broken_key broken, applied_of_broken_key still]
  · have same : other.tidied.key = pair.tidied.key := by
      rw [Pair.tidied, made.key_eq, withReturns_of_not_mem broken]
      rfl
    cases known : Settings.Key.ofName? (Text.trim pair.key) with
    | none =>
        have unknown : Settings.Key.ofName? other.tidied.key = none := same ▸ known
        rw [applied_of_unknown known, applied_of_unknown unknown]
    | some key =>
        have value := steady.tidied_value made free (by rw [known]; rfl)
        have whole : pair.tidied = other.tidied := congrArg₂ Pair.mk same.symm value
        rw [whole]

theorem afterPairs_of_steady (made : List.Forall₂ Pair.Returned pairs others)
    (steady : List.Forall₂ Pair.Steady pairs others)
    (plain : ∀ pair ∈ pairs, 13 ∉ pair.value ∧ pair.value.length < maxLength)
    (settings : Settings) :
    afterPairs files settings pairs = afterPairs files settings others := by
  induction made generalizing settings with
  | nil => rfl
  | @cons pair other pairs others made _ ih =>
      obtain ⟨⟨free, short⟩, plain⟩ := List.forall_mem_cons.mp plain
      obtain ⟨here, steady⟩ := List.forall₂_cons.mp steady
      have read := here.isRead_iff made short
      simp only [afterPairs, read, applied_of_steady made here free, ih steady plain]

theorem not_mem_line (free : byte ∉ content) (listed : line ∈ lines content)
    (different : byte ≠ 10) : byte ∉ line := by
  intro member
  have whole : byte ∈ content ++ [10] := by
    rw [← unlines_lines]
    exact List.mem_flatMap.mpr ⟨line, listed, List.mem_append_left _ member⟩
  rcases List.mem_append.mp whole with inside | newline
  · exact free inside
  · exact different (List.mem_singleton.mp newline)

theorem values_of_short (free : 13 ∉ content) (short : ∀ line ∈ lines content, line.length < 4095) :
    ∀ pair ∈ writtenPairs none (lines content),
      13 ∉ pair.value ∧ pair.value.length < maxLength := by
  intro pair listed
  obtain ⟨line, member, suffix⟩ := value_of_written listed
  have room : line.length < maxLength := Nat.lt_trans (short line member) (by decide)
  exact ⟨fun inside => not_mem_line free member (by decide) (suffix.subset inside),
    Nat.lt_of_le_of_lt suffix.length_le room⟩

/-- With carriage returns in front of its newlines a file holds the same pairs, but blanks in
front of a newline stay in the value and a key over several lines becomes longer. Where no
value ends in blanks and no key becomes too long, the settings are the same. -/
theorem load_withReturns (resolved : files.resolve name = .ok (path, .file content))
    (free : 13 ∉ content) (short : ∀ line ∈ lines content, line.length < 4095)
    (settings : Settings) :
    let plain := writtenPairs none (lines content)
    let ended := writtenPairs none (lines (withReturns content))
    let rewritten := files.put path (.file (withReturns content))
    (load files name settings).outcome = .ok (afterPairs files settings plain) ∧
    (load rewritten name settings).outcome = .ok (afterPairs files settings ended) ∧
    List.Forall₂ Pair.Returned plain ended ∧
    (∀ value, withoutReturn (Text.trim (value ++ [13])) = Text.skipBlank value) ∧
    (List.Forall₂ Pair.Steady plain ended →
      (load rewritten name settings).outcome = (load files name settings).outcome) := by
  intro plain ended rewritten
  have known := (Directory.resolve_ok resolved).2
  have read : files.read name = .ok content := by
    rw [Directory.read, resolved]
  have reread : rewritten.read name = .ok (withReturns content) :=
    Directory.read_put resolved (withReturns content)
  have shortPlain : ∀ line ∈ lines content, line.length ≤ maxLength := fun line listed =>
    Nat.le_trans (Nat.le_of_lt (short line listed)) (by decide)
  have shortEnded := returned_short short
  have made := (writtenPairs_returned (unbroken_lines content)).1
  rw [← lines_withReturns] at shortEnded made
  have loaded := load_of_short read shortPlain settings
  have reloaded := load_of_short reread shortEnded settings
  rw [afterPairs_put known] at reloaded
  refine ⟨loaded, reloaded, made, withoutReturn_trim_return, fun steady => ?_⟩
  rw [loaded, reloaded, afterPairs_of_steady made steady (values_of_short free short)]

theorem load_withReturns_steady :
    let content : Text := "# radio\nrssi = -50\nformat=json\n"
    let rewritten := (holding content).put [settingsFile] (.file (withReturns content))
    (load (holding content) settingsFile {}).outcome = .ok { signal := -50, json := true } ∧
      (load rewritten settingsFile {}).outcome = .ok { signal := -50, json := true } := by
  intro content rewritten
  have resolved : (holding content).resolve settingsFile = .ok ([settingsFile], .file content) := by
    decide +kernel
  obtain ⟨loaded, -, -, -, same⟩ :=
    load_withReturns resolved (by decide +kernel) (by decide +kernel) {}
  have plain : writtenPairs none (lines content) = [⟨"rssi ", " -50"⟩, ⟨"format", "json"⟩] := by
    decide +kernel
  have ended : writtenPairs none (lines (withReturns content)) =
      [⟨"rssi ", " -50\r"⟩, ⟨"format", "json\r"⟩] := by
    decide +kernel
  have signal : Pair.Steady ⟨"rssi ", " -50"⟩ ⟨"rssi ", " -50\r"⟩ :=
    ⟨fun _ => by decide +kernel, fun _ => .inr (by decide +kernel)⟩
  have format : Pair.Steady ⟨"format", "json"⟩ ⟨"format", "json\r"⟩ :=
    ⟨fun _ => by decide +kernel, fun _ => .inr (by decide +kernel)⟩
  rw [plain, ended] at same
  have alike := same (.cons signal (.cons format .nil))
  have applied : afterPairs (holding content) {} (writtenPairs none (lines content)) =
      { signal := -50, json := true } := by
    decide +kernel
  rw [applied] at loaded
  exact ⟨loaded, alike.trans loaded⟩

/-- Blanks in front of a newline are trimmed, in front of a carriage return they are not. -/
theorem load_withReturns_differs :
    let content : Text := "format=json \n"
    let rewritten := (holding content).put [settingsFile] (.file (withReturns content))
    13 ∉ content ∧ (∀ line ∈ lines content, line.length < 4095) ∧
      (load (holding content) settingsFile {}).outcome = .ok { json := true } ∧
      (load rewritten settingsFile {}).outcome = .ok {} := by
  intro content rewritten
  have read : (holding content).read settingsFile = .ok content := rfl
  have reread : rewritten.read settingsFile = .ok (withReturns content) := by decide +kernel
  have plain : after (holding content) {} (content ++ [10]) = { json := true } := by
    decide +kernel
  have ended : after rewritten {} (withReturns content ++ [10]) = {} := by
    decide +kernel
  exact ⟨by decide +kernel, by decide +kernel, (load_outcome read {}).trans (congrArg _ plain),
    (load_outcome reread {}).trans (congrArg _ ended)⟩

end MeterTelegram.ConfigFile
