import MeterTelegram.Proofs.ConfigFile.LineByLine

namespace MeterTelegram.ConfigFile

/-! Config files that are written from a list of pairs, with blanks around keys and values and
with blank lines and comments in between. Reading them gives the pairs back and comes to the end
of the file. -/

variable {files : Directory} {settings : Settings} {name content input rest left : Text}
  {pair : Pair} {read : List Pair} {rows : List Row}

/-- A reading of a text, pair by pair. It ends where there is no key; what is left there begins
with no blank line. -/
inductive Reading : Text → List Pair → Text → Prop where
  | ended {input : Text} (keyless : (next input).1.key.isEmpty = true) :
      Reading input [] (input.dropWhile isBetweenLines)
  | step {input rest left : Text} {pair : Pair} {read : List Pair}
      (found : next input = (pair, rest)) (keyed : pair.key.isEmpty = false)
      (later : Reading rest read left) : Reading input (pair :: read) left

namespace Pair

/-- Pairs that are handed on; comments and pairs without key are not. -/
def isDelivered (pair : Pair) : Bool :=
  !(pair.key.isEmpty || pair.isComment)

/-- A key and a value that neither blanks nor line ends nor equals signs can be taken from. -/
structure IsPlain (pair : Pair) : Prop where
  keyed : pair.key ≠ []
  unequal : 61 ∉ pair.key
  unbroken : 10 ∉ pair.key
  silent : pair.key.head? ≠ some 35
  begins : ∀ byte ∈ pair.key.head?, isBetweenLines byte = false
  ends : ∀ byte ∈ pair.key.getLast?, Text.isBlank byte = false
  unbrokenValue : 10 ∉ pair.value
  unreturned : pair.value.getLast? ≠ some 13
  beginsValue : ∀ byte ∈ pair.value.head?, Text.isBlank byte = false
  endsValue : ∀ byte ∈ pair.value.getLast?, Text.isBlank byte = false

end Pair

/-- Any number of spaces and tabs. -/
structure Blanks where
  text : Text
  isBlank : ∀ byte ∈ text, Text.isBlank byte = true

/-- A line of a file, with the blanks that stand on it. -/
inductive Row where
  | blank (blanks : Blanks)
  | comment (front : Blanks) (text : Text) (unbroken : 10 ∉ text)
  | pair (pair : Pair) (plain : pair.IsPlain) (front beforeEquals behindEquals back : Blanks)

namespace Row

def text : Row → Text
  | .blank blanks => blanks.text
  | .comment front text _ => front.text ++ 35 :: text
  | .pair pair _ front beforeEquals behindEquals back =>
      front.text ++ (pair.key ++ beforeEquals.text ++
        61 :: (behindEquals.text ++ pair.value ++ back.text))

def pair? : Row → Option Pair
  | .pair pair _ _ _ _ _ => some pair
  | _ => none

end Row

def rendered (rows : List Row) : Text :=
  Text.joined [10] (rows.map Row.text)

theorem Reading.congr {other : Text} (reading : Reading input read left)
    (same : other.dropWhile isBetweenLines = input.dropWhile isBetweenLines) :
    Reading other read left := by
  have sameNext : next other = next input := by
    rw [next, next, same]
  cases reading with
  | ended keyless =>
      rw [← sameNext] at keyless
      exact same ▸ .ended keyless
  | step found keyed later => exact .step (sameNext.trans found) keyed later

theorem Reading.reads_eq (reading : Reading input read left) (ended : left = []) :
    reads input = read ++ [Pair.none] := by
  induction reading with
  | @ended input keyless =>
      have last : (next input).1 = Pair.none := by
        rw [next, ended]
      rw [ConfigFile.reads_eq, if_pos keyless, last]
      rfl
  | step found keyed later ih =>
      rw [ConfigFile.reads_eq, found, keyed, if_neg Bool.false_ne_true, ih ended]
      rfl

theorem Blanks.isBetweenLines (blanks : Blanks) :
    ∀ byte ∈ blanks.text, isBetweenLines byte = true := by
  intro byte member
  have blank := blanks.isBlank byte member
  simp only [Text.isBlank, Bool.or_eq_true] at blank
  simp only [ConfigFile.isBetweenLines, Bool.or_eq_true]
  tauto

theorem Blanks.unbroken (blanks : Blanks) : 10 ∉ blanks.text := fun member =>
  absurd (blanks.isBlank 10 member) (by decide)

theorem Row.unbroken (row : Row) : 10 ∉ row.text := by
  cases row with
  | blank blanks => exact blanks.unbroken
  | comment front text unbroken =>
      have before := front.unbroken
      simp [Row.text, before, unbroken]
  | pair pair plain front beforeEquals behindEquals back =>
      simp [Row.text, front.unbroken, beforeEquals.unbroken, behindEquals.unbroken, back.unbroken,
        plain.unbroken, plain.unbrokenValue]

theorem Blanks.dropWhile_append (blanks : Blanks) (text : Text) :
    (blanks.text ++ text).dropWhile ConfigFile.isBetweenLines =
      text.dropWhile ConfigFile.isBetweenLines :=
  List.dropWhile_append_of_pos blanks.isBetweenLines

theorem next_of_pair_row {plain : pair.IsPlain} {front beforeEquals behindEquals back : Blanks}
    (short : (Row.pair pair plain front beforeEquals behindEquals back).text.length ≤ maxLength)
    (rest : Text) :
    next ((Row.pair pair plain front beforeEquals behindEquals back).text ++ 10 :: rest) =
      (pair, rest) := by
  have unbroken := (Row.pair pair plain front beforeEquals behindEquals back).unbroken
  obtain ⟨key, value⟩ := pair
  obtain ⟨first, tail, rfl⟩ := List.exists_cons_of_ne_nil plain.keyed
  have visible : isBetweenLines first = false := plain.begins first rfl
  have silent : first ≠ 35 := fun same => plain.silent (congrArg some same)
  have shown : (Row.pair ⟨first :: tail, value⟩ plain front beforeEquals behindEquals
      back).text.dropWhile isBetweenLines = first :: (tail ++ beforeEquals.text) ++
        61 :: (behindEquals.text ++ value ++ back.text) := by
    rw [Row.text, front.dropWhile_append]
    exact List.dropWhile_cons_of_neg (Bool.eq_false_iff.mp visible)
  have unequal : 61 ∉ first :: (tail ++ beforeEquals.text) := by
    have blank : 61 ∉ beforeEquals.text := fun member =>
      absurd (beforeEquals.isBlank 61 member) (by decide)
    exact List.not_mem_append plain.unequal blank
  have room : (first :: (tail ++ beforeEquals.text)).length ≤ maxLength ∧
      (behindEquals.text ++ value ++ back.text).length ≤ maxLength := by
    simp only [Row.text, List.length_append, List.length_cons] at short ⊢
    omega
  have shortValue : (Text.skipBlank (behindEquals.text ++ value ++ back.text)).length ≤ maxLength :=
    Nat.le_trans (Text.skipBlank_suffix _).length_le room.2
  have trimmed : Text.trim ([] ++ first :: tail ++ beforeEquals.text) = first :: tail :=
    Text.trim_of_blanks nofun beforeEquals.isBlank
      (fun byte member => isBlank_of_visible (plain.begins byte member)) plain.ends
  have trimmedValue : Text.trim (behindEquals.text ++ value ++ back.text) = value :=
    Text.trim_of_blanks behindEquals.isBlank back.isBlank plain.beginsValue plain.endsValue
  rw [next_of_short_pair shown visible silent unequal room.1 shortValue unbroken, trimmedValue,
    withoutReturn, if_neg plain.unreturned]
  exact congrArg (fun key => (Pair.mk key value, rest)) trimmed

/-- A reading goes on in front of a line, and what it hands on is the pair of that line. -/
theorem Reading.row (reading : Reading rest read left) (row : Row)
    (short : row.text.length ≤ maxLength) :
    ∃ others, Reading (row.text ++ 10 :: rest) others left ∧
      others.filter Pair.isDelivered = row.pair?.toList ++ read.filter Pair.isDelivered := by
  have unbroken := row.unbroken
  cases row with
  | blank blanks => exact ⟨read, reading.congr (blanks.dropWhile_append _), rfl⟩
  | comment front text _ =>
      have shown : (front.text ++ 35 :: text).dropWhile isBetweenLines = 35 :: text :=
        front.dropWhile_append _
      have room : (35 :: text : Text).length ≤ maxLength := by
        rw [Row.text, List.length_append] at short
        omega
      have comment := trim_comment text
      obtain ⟨others, begins⟩ := List.head?_eq_some_iff.mp comment
      have keyed : (Text.trim (35 :: text)).isEmpty = false := by
        rw [begins]
        rfl
      refine ⟨_, .step (next_of_short_comment shown room unbroken rest) keyed reading, ?_⟩
      have hidden : ¬ Pair.isDelivered ⟨Text.trim (35 :: text), []⟩ = true := by
        simp [Pair.isDelivered, Pair.isComment, comment]
      exact List.filter_cons_of_neg hidden
  | pair pair plain front beforeEquals behindEquals back =>
      have keyed : pair.key.isEmpty = false := List.isEmpty_eq_false_iff.mpr plain.keyed
      have delivered : pair.isDelivered = true := by
        simp [Pair.isDelivered, Pair.isComment, keyed, plain.silent]
      exact ⟨pair :: read, .step (next_of_pair_row short rest) keyed reading,
        List.filter_cons_of_pos delivered⟩

theorem exists_reading (short : ∀ row ∈ rows, row.text.length ≤ maxLength) :
    ∃ read, Reading (unlines (rows.map Row.text)) read [] ∧
      read.filter Pair.isDelivered = rows.filterMap Row.pair? := by
  induction rows with
  | nil => exact ⟨[], .ended rfl, rfl⟩
  | cons row rows ih =>
      obtain ⟨here, short⟩ := List.forall_mem_cons.mp short
      obtain ⟨read, reading, delivered⟩ := ih short
      obtain ⟨others, readingHere, deliveredHere⟩ := reading.row row here
      refine ⟨others, ?_, ?_⟩
      · rw [List.map_cons, unlines_cons]
        exact readingHere
      · rw [deliveredHere, delivered]
        cases found : row.pair? with
        | none => simp [found]
        | some pair => simp [found]

def Row.empty : Row :=
  .blank ⟨[], nofun⟩

theorem unlines_of_rendered (rows : List Row) :
    ∃ count, rendered rows ++ [10] =
      unlines ((rows ++ List.replicate count Row.empty).map Row.text) := by
  cases rows with
  | nil => exact ⟨1, rfl⟩
  | cons row rows =>
      have unbroken : ∀ text ∈ (row :: rows).map Row.text, 10 ∉ text :=
        List.forall_mem_map.mpr fun row _ => row.unbroken
      have split : lines (rendered (row :: rows)) = (row :: rows).map Row.text :=
        Text.fields_joined (List.cons_ne_nil _ _) unbroken
      exact ⟨0, by rw [← unlines_lines, split, List.replicate_zero, List.append_nil]⟩

/-- With or without a newline at its end a file is read as lines. -/
theorem unlines_of_content (ends : content = rendered rows ∨ content = rendered rows ++ [10]) :
    ∃ count, content ++ [10] =
      unlines ((rows ++ List.replicate count Row.empty).map Row.text) := by
  obtain ⟨count, whole⟩ := unlines_of_rendered rows
  rcases ends with rfl | rfl
  · exact ⟨count, whole⟩
  · refine ⟨count + 1, ?_⟩
    simp only [List.replicate_succ', List.map_append, unlines_append] at whole ⊢
    rw [whole, List.append_assoc]
    rfl

theorem applied_of_undelivered (undelivered : pair.isDelivered = false) :
    applied files settings pair = settings := by
  rw [Pair.isDelivered, Bool.not_eq_false', Bool.or_eq_true] at undelivered
  rcases undelivered with keyless | comment
  · exact applied_of_no_key keyless
  · exact applied_of_comment comment

theorem foldl_applied_delivered (settings : Settings) (read : List Pair) :
    (read.filter Pair.isDelivered).foldl (applied files) settings =
      read.foldl (applied files) settings := by
  induction read generalizing settings with
  | nil => rfl
  | cons pair others ih =>
      cases delivered : pair.isDelivered with
      | true =>
          rw [List.filter_cons_of_pos delivered]
          exact ih (applied files settings pair)
      | false =>
          rw [List.filter_cons_of_neg (Bool.eq_false_iff.mp delivered), List.foldl_cons,
            applied_of_undelivered delivered]
          exact ih settings

/-- A file of plain pairs is read as these pairs in their order, whatever blanks, blank lines
and comments there are, and the reading comes to its end. -/
theorem pairs_rendered (short : ∀ row ∈ rows, row.text.length < 4096)
    (ends : content = rendered rows ∨ content = rendered rows ++ [10]) :
    ∃ read, Reading (content ++ [10]) read [] ∧ pairs content = read ++ [Pair.none] ∧
      read.filter Pair.isDelivered = rows.filterMap Row.pair? ∧
      ∀ (files : Directory) (name : Text) (settings : Settings), files.read name = .ok content →
        (load files name settings).outcome =
          .ok ((rows.filterMap Row.pair?).foldl (applied files) settings) := by
  obtain ⟨count, whole⟩ := unlines_of_content ends
  have short : ∀ row ∈ rows ++ List.replicate count Row.empty, row.text.length ≤ maxLength := by
    intro row member
    rcases List.mem_append.mp member with listed | added
    · exact Nat.le_of_lt (short row listed)
    · rw [List.eq_of_mem_replicate added]
      exact Nat.zero_le maxLength
  obtain ⟨read, reading, delivered⟩ := exists_reading short
  have nothing : (List.replicate count Row.empty).filterMap Row.pair? = [] := by
    simp [Row.empty, Row.pair?]
  rw [List.filterMap_append, nothing, List.append_nil] at delivered
  rw [← whole] at reading
  have paired : pairs content = read ++ [Pair.none] := by
    rw [pairs_eq_reads, reading.reads_eq rfl]
  refine ⟨read, reading, paired, delivered, fun files name settings found => ?_⟩
  have last : applied files (read.foldl (applied files) settings) Pair.none = _ :=
    applied_of_no_key rfl
  rw [load_outcome found, after, reading.reads_eq rfl, List.foldl_append, List.foldl_cons, last,
    List.foldl_nil, ← foldl_applied_delivered, delivered]

theorem pairs_rendered_spaced :
    let content : Text := "# how to print\n\tformat = json\n \nseparator=,"
    (pairs content).filter Pair.isDelivered = [⟨"format", "json"⟩, ⟨"separator", ","⟩] := by
  intro content
  have ends : content = rendered
      [.comment ⟨"", nofun⟩ " how to print" (by decide +kernel),
        .pair ⟨"format", "json"⟩ (by constructor <;> decide +kernel) ⟨"\t", by decide +kernel⟩
          ⟨" ", by decide +kernel⟩ ⟨" ", by decide +kernel⟩ ⟨"", nofun⟩,
        .blank ⟨" ", by decide +kernel⟩,
        .pair ⟨"separator", ","⟩ (by constructor <;> decide +kernel) ⟨"", nofun⟩ ⟨"", nofun⟩
          ⟨"", nofun⟩ ⟨"", nofun⟩] := by
    decide +kernel
  obtain ⟨read, -, all, delivered, -⟩ := pairs_rendered (by decide +kernel) (.inl ends)
  rw [all, List.filter_append, delivered]
  rfl

end MeterTelegram.ConfigFile
