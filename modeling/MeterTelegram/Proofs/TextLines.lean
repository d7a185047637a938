import MeterTelegram.TextLines
import MeterTelegram.Proofs.Text.Scan

namespace MeterTelegram.TextLines

/-! Files told by their lines. All lines are read unless one is too long, with one exception: of
a last line without newline that is too long by a single byte, all but that byte is read. -/

variable {files : Directory} {name content line rest text : Text} {before earlier : List Text}
  {steps : Nat}

/-- The lines of a text: what stands in front of a newline, and what stands behind the last. -/
def lines (content : Text) : List Text :=
  Text.fields newline content

def terminated (content : Text) : List Text :=
  (lines content).dropLast

def lastLine (content : Text) : Text :=
  (lines content).getLastD []

/-- What is kept of lines: no carriage return at their end, and none that is empty then. -/
def tidied (lines : List Text) : List Text :=
  (lines.map withoutReturn).filter (fun line => !line.isEmpty)

/-- Short enough for a step of the reading. -/
def isShort (line : Text) : Bool :=
  line.length ≤ maxLength

def unlines (lines : List Text) : Text :=
  lines.flatMap (· ++ [newline])

theorem lines_eq (content : Text) : lines content = terminated content ++ [lastLine content] := by
  have present : lines content ≠ [] := Text.fields_ne_nil newline content
  rw [terminated, lastLine, List.getLastD_eq_getLast?, List.getLast?_eq_some_getLast present]
  exact (List.dropLast_append_getLast present).symm

theorem unlines_terminated (content : Text) :
    unlines (terminated content) ++ lastLine content = content := by
  have whole : unlines (lines content) = content ++ [newline] :=
    Text.flatMap_fields newline content
  rw [lines_eq, unlines, List.flatMap_append, List.flatMap_singleton, ← List.append_assoc] at whole
  exact List.append_cancel_right whole

theorem newline_not_mem (member : line ∈ lines content) : newline ∉ line :=
  Text.not_mem_fields member

theorem tidied_append (first second : List Text) :
    tidied (first ++ second) = tidied first ++ tidied second := by
  rw [tidied, List.map_append, List.filter_append, tidied, tidied]

theorem tidied_singleton (line : Text) :
    tidied [line] = if (withoutReturn line).isEmpty then [] else [withoutReturn line] := by
  cases empty : (withoutReturn line).isEmpty <;> simp [tidied, empty]

/-- The reading of the first line and of what stands behind it. -/
def step (text : Text) : Text.Scan :=
  Text.scanTo (some newline.toNat) maxLength text

theorem within_succ (steps : Nat) (present : text ≠ []) :
    within (steps + 1) text =
      if (step text).missing && !(step text).atEnd then ⟨[], false⟩
      else if (step text).atEnd then ⟨tidied [(step text).taken], true⟩
      else ⟨tidied [(step text).taken] ++ (within steps (step text).rest).lines,
        (within steps (step text).rest).complete⟩ := by
  cases text with
  | nil => contradiction
  | cons byte rest => simp only [within, tidied_singleton, step]

/-- Steps beyond the length of the text change nothing. -/
theorem within_congr {others : Nat} (enough : text.length ≤ steps)
    (alsoEnough : text.length ≤ others) : within steps text = within others text := by
  induction steps generalizing text others with
  | zero =>
      obtain rfl := List.length_eq_zero_iff.mp (Nat.le_zero.mp enough)
      cases others <;> rfl
  | succ steps ih =>
      by_cases present : text = []
      · subst present
        cases others <;> rfl
      · obtain ⟨others, rfl⟩ : ∃ fewer, others = fewer + 1 :=
          ⟨others - 1, by have := List.length_pos_iff.mpr present; omega⟩
        have shorter : (step text).rest.length < text.length := Text.scanTo_shorter present
        have behind := @ih (step text).rest others (by omega) (by omega)
        rw [within_succ steps present, within_succ others present, behind]

theorem ofText_eq (present : text ≠ []) :
    ofText text =
      if (step text).missing && !(step text).atEnd then ⟨[], false⟩
      else if (step text).atEnd then ⟨tidied [(step text).taken], true⟩
      else ⟨tidied [(step text).taken] ++ (ofText (step text).rest).lines,
        (ofText (step text).rest).complete⟩ := by
  have shorter : (step text).rest.length < text.length := Text.scanTo_shorter present
  have more := within_congr (Nat.le_refl text.length) (Nat.le_succ text.length)
  have fewer := within_congr (Nat.le_of_lt shorter) (Nat.le_refl (step text).rest.length)
  rw [ofText, more, within_succ text.length present, fewer]
  rfl

theorem free_of_unbroken (unbroken : newline ∉ line) :
    ∀ byte ∈ line, Text.stopsAt (some newline.toNat) byte = false :=
  Text.free_of_not_mem unbroken

theorem ofText_of_short (unbroken : newline ∉ line) (short : line.length ≤ maxLength)
    (rest : Text) :
    ofText (line ++ newline :: rest) =
      ⟨tidied [line] ++ (ofText rest).lines, (ofText rest).complete⟩ := by
  have present : line ++ newline :: rest ≠ [] :=
    List.append_ne_nil_of_right_ne_nil _ (List.cons_ne_nil newline rest)
  have scanned : step (line ++ newline :: rest) =
      { taken := line, rest, missing := false, atEnd := rest.isEmpty } :=
    Text.scanTo_of_stop (free_of_unbroken unbroken) short (by decide)
  rw [ofText_eq present, scanned]
  cases rest with
  | nil => simp [ofText, within]
  | cons byte rest => simp

theorem step_of_long (unbroken : newline ∉ line) (long : maxLength < line.length) (rest : Text) :
    (step (line ++ rest)).taken = line.take maxLength ∧ (step (line ++ rest)).missing = true ∧
      (step (line ++ rest)).atEnd = (line.drop (maxLength + 1) ++ rest).isEmpty := by
  obtain ⟨taken, left, missing⟩ := Text.scanTo_of_long (free_of_unbroken unbroken) long rest
  exact ⟨taken, missing, congrArg List.isEmpty left⟩

/-- A line that is too long ends the reading, unless a single byte of the text is left by it. -/
theorem ofText_of_long (unbroken : newline ∉ line) (long : maxLength < line.length)
    (more : line.drop (maxLength + 1) ++ rest ≠ []) : ofText (line ++ rest) = ⟨[], false⟩ := by
  have present : line ++ rest ≠ [] :=
    List.append_ne_nil_of_left_ne_nil (List.ne_nil_of_length_pos (Nat.zero_lt_of_lt long)) rest
  obtain ⟨-, missing, atEnd⟩ := step_of_long unbroken long rest
  have further : (step (line ++ rest)).atEnd = false := by
    rw [atEnd, List.isEmpty_eq_false_iff]
    exact more
  rw [ofText_eq present, missing, further]
  rfl

theorem ofText_of_last (unbroken : newline ∉ line) (short : line.length ≤ maxLength + 1) :
    ofText line = ⟨tidied [line.take maxLength], true⟩ := by
  by_cases empty : line = []
  · subst empty
    rfl
  · rcases Nat.lt_or_ge maxLength line.length with long | fits
    · obtain ⟨taken, missing, atEnd⟩ := step_of_long unbroken long []
      have nothing : line.drop (maxLength + 1) = [] := List.drop_eq_nil_iff.mpr short
      rw [nothing] at atEnd
      rw [List.append_nil] at taken missing atEnd
      rw [ofText_eq empty, taken, missing, atEnd]
      rfl
    · have scanned : step line = { taken := line, rest := [], missing := true, atEnd := true } :=
        Text.scanTo_of_free (free_of_unbroken unbroken) fits
      rw [ofText_eq empty, scanned, List.take_of_length_le fits]
      rfl

/-- The lines that end at a newline are read one by one, up to the first that is too long. -/
theorem ofText_unlines (unbroken : ∀ line ∈ earlier, newline ∉ line) (rest : Text) :
    ofText (unlines earlier ++ rest) =
      if earlier.all isShort then
        ⟨tidied earlier ++ (ofText rest).lines, (ofText rest).complete⟩
      else ⟨tidied (earlier.takeWhile isShort), false⟩ := by
  induction earlier with
  | nil => rfl
  | cons line earlier ih =>
      obtain ⟨here, unbroken⟩ := List.forall_mem_cons.mp unbroken
      have split : unlines (line :: earlier) ++ rest =
          line ++ newline :: (unlines earlier ++ rest) := by
        simp [unlines]
      rw [split]
      cases short : isShort line with
      | false =>
          have long : maxLength < line.length := by simpa [isShort] using short
          have more : line.drop (maxLength + 1) ++ newline :: (unlines earlier ++ rest) ≠ [] :=
            List.append_ne_nil_of_right_ne_nil _ (List.cons_ne_nil newline _)
          rw [ofText_of_long here long more]
          simp [short, tidied]
      | true =>
          have front : tidied (line :: earlier) = tidied [line] ++ tidied earlier :=
            tidied_append [line] earlier
          rw [ofText_of_short here (of_decide_eq_true short), ih unbroken]
          cases others : earlier.all isShort with
          | false =>
              have kept : tidied (line :: earlier.takeWhile isShort) =
                  tidied [line] ++ tidied (earlier.takeWhile isShort) :=
                tidied_append [line] (earlier.takeWhile isShort)
              simp [short, others, kept]
          | true => simp [short, others, front]

/-- No line is too long, or only the last one is, and by a single byte. -/
def IsRead (content : Text) : Prop :=
  (∀ line ∈ terminated content, line.length ≤ maxLength) ∧
    (lastLine content).length ≤ maxLength + 1

/-- The last line is too long by a single byte, and no other is too long. -/
def IsClipped (content : Text) : Prop :=
  (∀ line ∈ terminated content, line.length ≤ maxLength) ∧
    (lastLine content).length = maxLength + 1

/-- The lines as far as they are read. -/
def clipped (content : Text) : List Text :=
  terminated content ++ [(lastLine content).take maxLength]

theorem all_isShort_iff :
    earlier.all isShort = true ↔ ∀ line ∈ earlier, line.length ≤ maxLength := by
  simp [isShort]

theorem mem_lines_of_terminated (member : line ∈ terminated content) : line ∈ lines content := by
  rw [lines_eq]
  exact List.mem_append_left _ member

theorem lastLine_mem (content : Text) : lastLine content ∈ lines content := by
  rw [lines_eq]
  exact List.mem_append_right _ List.mem_cons_self

theorem forall_lines_iff :
    (∀ line ∈ lines content, line.length ≤ maxLength) ↔
      (∀ line ∈ terminated content, line.length ≤ maxLength) ∧
        (lastLine content).length ≤ maxLength := by
  rw [lines_eq, List.forall_mem_append]
  simp

theorem isRead_iff :
    IsRead content ↔ (∀ line ∈ lines content, line.length ≤ maxLength) ∨ IsClipped content := by
  rw [forall_lines_iff, IsRead, IsClipped, ← and_or_left, Nat.le_succ_iff]

theorem clipped_eq (short : ∀ line ∈ lines content, line.length ≤ maxLength) :
    clipped content = lines content := by
  rw [clipped, List.take_of_length_le (short _ (lastLine_mem content)), ← lines_eq]

theorem ofText_split (content : Text) :
    ofText content =
      if (terminated content).all isShort then
        ⟨tidied (terminated content) ++ (ofText (lastLine content)).lines,
          (ofText (lastLine content)).complete⟩
      else ⟨tidied ((terminated content).takeWhile isShort), false⟩ := by
  have unbroken : ∀ line ∈ terminated content, newline ∉ line :=
    fun _ member => newline_not_mem (mem_lines_of_terminated member)
  have read := ofText_unlines unbroken (lastLine content)
  rwa [unlines_terminated] at read

theorem ofText_of_read (readable : IsRead content) :
    ofText content = ⟨tidied (clipped content), true⟩ := by
  obtain ⟨short, last⟩ := readable
  rw [ofText_split, if_pos (all_isShort_iff.mpr short),
    ofText_of_last (newline_not_mem (lastLine_mem content)) last, clipped, tidied_append]

/-- Up to the first line that is too long, lines are read all the same. -/
theorem ofText_of_unread (unreadable : ¬ IsRead content) :
    ofText content = ⟨tidied ((lines content).takeWhile isShort), false⟩ := by
  rw [ofText_split, lines_eq, List.takeWhile_append]
  by_cases short : (terminated content).all isShort = true
  · have whole : (terminated content).takeWhile isShort = terminated content :=
      List.takeWhile_eq_self_iff.mpr (List.all_eq_true.mp short)
    have long : maxLength + 1 < (lastLine content).length :=
      Nat.lt_of_not_le fun last => unreadable ⟨all_isShort_iff.mp short, last⟩
    have more : (lastLine content).drop (maxLength + 1) ++ [] ≠ [] := by
      simpa using long
    have last := ofText_of_long (newline_not_mem (lastLine_mem content))
      (Nat.lt_of_succ_lt long) more
    have refused : isShort (lastLine content) = false :=
      decide_eq_false (Nat.not_le_of_lt (Nat.lt_of_succ_lt long))
    rw [List.append_nil] at last
    rw [if_pos short, whole, if_pos rfl, last]
    simp [refused]
  · have partly : ((terminated content).takeWhile isShort).length ≠
        (terminated content).length := fun same =>
      short (List.all_eq_true.mpr (List.takeWhile_eq_self_iff.mp
        ((List.takeWhile_prefix isShort).eq_of_length same)))
    rw [if_neg short, if_neg partly]

/-- Reads lines behind those that are there, each as it is found. -/
def pushWithin (pushed : List Text) : Nat → Text → Lines
  | 0, _ => ⟨pushed, true⟩
  | _ + 1, [] => ⟨pushed, true⟩
  | steps + 1, byte :: rest =>
      let scan := step (byte :: rest)
      if scan.missing && !scan.atEnd then ⟨pushed, false⟩
      else
        let line := withoutReturn scan.taken
        let pushed := if line.isEmpty then pushed else pushed ++ [line]
        if scan.atEnd then ⟨pushed, true⟩ else pushWithin pushed steps scan.rest

theorem pushWithin_eq (pushed : List Text) (steps : Nat) (text : Text) :
    pushWithin pushed steps text =
      ⟨pushed ++ (within steps text).lines, (within steps text).complete⟩ := by
  induction steps generalizing pushed text with
  | zero => simp [pushWithin, within]
  | succ steps ih =>
      cases text with
      | nil => simp [pushWithin, within]
      | cons byte rest =>
          have kept (line : Text) :
              (if line.isEmpty then pushed else pushed ++ [line]) =
                pushed ++ if line.isEmpty then [] else [line] := by
            split <;> simp
          rw [within_succ steps (List.cons_ne_nil byte rest), tidied_singleton]
          simp only [pushWithin, kept, ih]
          split
          · simp
          · split <;> simp

/-- Loads the lines of a file behind those that are there. -/
def loadOnto (files : Directory) (name : Text) (before : List Text) : Load :=
  match files.read name with
  | .error cause => ⟨before, some (.unreadable cause)⟩
  | .ok content =>
      let read := pushWithin before content.length content
      ⟨read.lines, if read.complete then none else some (.tooLong name)⟩

theorem loadOnto_eq (files : Directory) (name : Text) (before : List Text) :
    loadOnto files name before =
      ⟨before ++ (load files name).lines, (load files name).fault⟩ := by
  unfold loadOnto load
  cases files.read name with
  | error cause => simp
  | ok content => simp only [pushWithin_eq, ofText]; rfl

theorem load_of_read (found : files.read name = .ok content) (readable : IsRead content) :
    load files name = ⟨tidied (clipped content), none⟩ := by
  simp only [load, found, ofText_of_read readable]
  rfl

theorem load_of_unread (found : files.read name = .ok content) (unreadable : ¬ IsRead content) :
    load files name =
      ⟨tidied ((lines content).takeWhile isShort), some (.tooLong name)⟩ := by
  simp only [load, found, ofText_of_unread unreadable]
  rfl

/-- A file is loaded if none of its lines is too long, and then all of them are added, each
without a carriage return at its end, but for those that are empty. It is loaded as well, and
its last byte is lost, if the last line only is too long and by that byte. Of any other file the
lines in front of the first that is too long are added. -/
theorem loadOnto_exact (found : files.read name = .ok content) (before : List Text) :
    ((loadOnto files name before).fault = none ↔
        (∀ line ∈ lines content, line.length ≤ maxLength) ∨ IsClipped content) ∧
      ((∀ line ∈ lines content, line.length ≤ maxLength) →
        (loadOnto files name before).lines = before ++ tidied (lines content)) ∧
      (IsClipped content →
        (loadOnto files name before).lines =
          before ++ tidied (terminated content ++ [(lastLine content).take maxLength])) ∧
      ((loadOnto files name before).fault ≠ none →
        (loadOnto files name before).fault = some (.tooLong name) ∧
          (loadOnto files name before).lines =
            before ++ tidied ((lines content).takeWhile isShort)) := by
  rw [loadOnto_eq, ← isRead_iff]
  refine ⟨?_, fun short => ?_, fun cut => ?_, fun failed => ?_⟩
  · by_cases readable : IsRead content
    · simp [load_of_read found readable, readable]
    · simp [load_of_unread found readable, readable]
  · rw [load_of_read found (isRead_iff.mpr (.inl short)), clipped_eq short]
  · rw [load_of_read found (isRead_iff.mpr (.inr cut)), clipped]
  · have unreadable : ¬ IsRead content := fun readable => by
      rw [load_of_read found readable] at failed
      exact failed rfl
    rw [load_of_unread found unreadable]
    exact ⟨rfl, rfl⟩

/-- A directory of a single file. -/
def alone (content : Text) : Directory :=
  ⟨[(["f"], .file content)]⟩

theorem read_alone (content : Text) : (alone content).read "f" = .ok content := rfl

/-- The lines "a" and "b", the first of them with a carriage return, and an empty one between. -/
theorem loadOnto_exact_returns :
    (alone [97, 13, 10, 13, 10, 98]).read "f" = .ok [97, 13, 10, 13, 10, 98] ∧
      (loadOnto (alone [97, 13, 10, 13, 10, 98]) "f" [[99]]).fault = none ∧
      (loadOnto (alone [97, 13, 10, 13, 10, 98]) "f" [[99]]).lines = [[99], [97], [98]] := by
  have found := read_alone [97, 13, 10, 13, 10, 98]
  obtain ⟨loaded, added, -, -⟩ := loadOnto_exact found [[99]]
  have short : ∀ line ∈ lines [97, 13, 10, 13, 10, 98], line.length ≤ maxLength := by decide
  exact ⟨found, loaded.mpr (.inl short), (added short).trans (by decide)⟩

/-- A file of one line that is too long by a byte. -/
theorem overlong_clipped :
    let content : Text := List.replicate (maxLength + 1) 120
    (alone content).read "f" = .ok content ∧ lines content = [content] ∧
      maxLength < content.length ∧
      load (alone content) "f" = ⟨[List.replicate maxLength 120], none⟩ := by
  intro content
  have unbroken : newline ∉ content := fun member =>
    absurd (List.eq_of_mem_replicate member) (by decide)
  have whole : lines content = [content] := Text.fields_of_not_mem unbroken
  have length : content.length = maxLength + 1 := List.length_replicate
  have terminated : terminated content = [] := by rw [TextLines.terminated, whole]; rfl
  have last : lastLine content = content := by rw [lastLine, whole]; rfl
  have readable : IsRead content := by
    rw [IsRead, terminated, last, length]
    exact ⟨nofun, Nat.le_refl _⟩
  have cut : content.take maxLength = List.replicate maxLength 120 := by
    rw [List.take_replicate, Nat.min_eq_left (Nat.le_succ maxLength)]
  have bare : withoutReturn (List.replicate maxLength 120) = List.replicate maxLength 120 := by
    rw [withoutReturn, List.getLast?_replicate]
    exact if_neg (by decide)
  refine ⟨read_alone content, whole, by omega, ?_⟩
  rw [load_of_read (read_alone content) readable, clipped, terminated, last, cut]
  simp only [tidied, List.nil_append, List.map_cons, List.map_nil, bare]
  rfl

end MeterTelegram.TextLines
