import MeterTelegram.Proofs.ConfigFile.Reading

namespace MeterTelegram.ConfigFile

/-! Config files line by line. Blank lines, comments and pairs that are not too long are read
by themselves, each in its turn. Any other line reaches beyond its end: it ends the file, or
what stands behind it is read as part of it. -/

variable {line text key value rest tail : Text} {byte first : UInt8}

def beforeEquals (text : Text) : Text :=
  text.takeWhile (· != 61)

def behindEquals (text : Text) : Text :=
  (text.dropWhile (· != 61)).tail

inductive Line where
  | blank
  | comment (text : Text)
  | bare (text : Text)
  | pair (key value : Text)
deriving DecidableEq, Repr

namespace Line

def ofText (line : Text) : Line :=
  match line.dropWhile isBetweenLines with
  | [] => blank
  | byte :: rest =>
      if byte = 35 then comment (byte :: rest)
      else if (byte :: rest).contains 61 then
        pair (beforeEquals (byte :: rest)) (behindEquals (byte :: rest))
      else bare (byte :: rest)

/-- What a line sets by itself: a trimmed value under a trimmed key, if there is a key. -/
def setting? : Line → Option Pair
  | pair key value =>
      if (Text.trim key).isEmpty then none
      else some ⟨Text.trim key, withoutReturn (Text.trim value)⟩
  | _ => none

/-- Comments, and pairs with a key, that are not too long to be read. -/
def isSound : Line → Bool
  | blank => true
  | comment text => text.length ≤ maxLength
  | bare _ => false
  | pair key value =>
      !key.isEmpty && key.length ≤ maxLength && (Text.skipBlank value).length ≤ maxLength

/-- How the text of a line is made up. -/
inductive Form (line : Text) : Line → Prop where
  | blank (text : line.dropWhile isBetweenLines = []) : Form line .blank
  | comment {tail : Text} (text : line.dropWhile isBetweenLines = 35 :: tail) :
      Form line (.comment (35 :: tail))
  | bare {first : UInt8} {tail : Text} (text : line.dropWhile isBetweenLines = first :: tail)
      (visible : isBetweenLines first = false) (silent : first ≠ 35)
      (unequal : 61 ∉ first :: tail) : Form line (.bare (first :: tail))
  | keyless {value : Text} (text : line.dropWhile isBetweenLines = 61 :: value) :
      Form line (.pair [] value)
  | pair {first : UInt8} {tail value : Text}
      (text : line.dropWhile isBetweenLines = first :: tail ++ 61 :: value)
      (visible : isBetweenLines first = false) (silent : first ≠ 35)
      (unequal : 61 ∉ first :: tail) : Form line (.pair (first :: tail) value)

end Line

theorem split_at_equals (present : 61 ∈ text) :
    text = beforeEquals text ++ 61 :: behindEquals text ∧ 61 ∉ beforeEquals text := by
  induction text with
  | nil => contradiction
  | cons first tail ih =>
      by_cases equals : first = 61
      · subst equals
        exact ⟨rfl, List.not_mem_nil⟩
      · obtain ⟨split, unequal⟩ := ih ((List.mem_cons.mp present).resolve_left (Ne.symm equals))
        have before : beforeEquals (first :: tail) = first :: beforeEquals tail := by
          simp [beforeEquals, equals]
        have behind : behindEquals (first :: tail) = behindEquals tail := by
          simp [behindEquals, equals]
        rw [before, behind, List.cons_append, ← split]
        exact ⟨rfl, List.not_mem_cons_of_ne_of_not_mem (Ne.symm equals) unequal⟩

theorem Line.form (line : Text) : Line.Form line (Line.ofText line) := by
  unfold Line.ofText
  split
  · exact .blank ‹_›
  · rename_i first tail text
    have visible : isBetweenLines first = false := by
      have found := List.head_dropWhile_not isBetweenLines (l := line) (by simp [text])
      simpa [text] using found
    split
    · rename_i comment
      subst comment
      exact .comment text
    · rename_i silent
      split
      · rename_i present
        obtain ⟨split, unequal⟩ := split_at_equals (List.contains_iff_mem.mp present)
        cases key : beforeEquals (first :: tail) with
        | nil =>
            rw [key, List.nil_append] at split
            exact .keyless (text.trans split)
        | cons start keyTail =>
            rw [key] at split unequal
            obtain ⟨rfl, -⟩ := List.cons.inj split
            exact .pair (text.trans split) visible silent unequal
      · rename_i absent
        exact .bare text visible silent fun member => absent (List.contains_iff_mem.mpr member)

theorem isBlank_of_visible (visible : isBetweenLines byte = false) :
    Text.isBlank byte = false := by
  simp only [isBetweenLines, Bool.or_eq_false_iff] at visible
  rw [Text.isBlank, visible.1.2, visible.2, Bool.or_self]

theorem next_of_blank (blank : line.dropWhile isBetweenLines = []) (rest : Text) :
    next (line ++ 10 :: rest) = next rest := by
  unfold next
  rw [List.dropWhile_append_of_pos (List.dropWhile_eq_nil_iff.mp blank)]
  rfl

theorem dropWhile_line (text : line.dropWhile isBetweenLines = first :: tail) (rest : Text) :
    (line ++ 10 :: rest).dropWhile isBetweenLines = first :: (tail ++ 10 :: rest) := by
  rw [List.dropWhile_append, text]
  rfl

theorem next_of_comment (text : line.dropWhile isBetweenLines = 35 :: tail) (rest : Text) :
    next (line ++ 10 :: rest) =
      (⟨(Text.scanTrimmed (some 10) maxLength (35 :: tail ++ 10 :: rest)).taken, []⟩,
        (Text.scanTrimmed (some 10) maxLength (35 :: tail ++ 10 :: rest)).rest) := by
  simp only [next, dropWhile_line text, if_true]
  rfl

theorem next_of_visible (text : line.dropWhile isBetweenLines = first :: tail)
    (silent : first ≠ 35) (rest : Text) :
    next (line ++ 10 :: rest) = keyAndValue (first :: tail ++ 10 :: rest) := by
  simp only [next, dropWhile_line text, silent, if_false]
  rfl

theorem line_of_pair (key value rest : Text) :
    key ++ 61 :: value ++ 10 :: rest = key ++ 61 :: (value ++ 10 :: rest) := by
  rw [List.append_assoc, List.cons_append]

theorem keyAndValue_of_missing
    (missing : (Text.scanTrimmed (some 61) maxLength text).missing = true) :
    (keyAndValue text).1 = Pair.none := by
  simp only [keyAndValue, missing, Bool.or_true, if_true]

theorem scanTrimmed_key (unequal : 61 ∉ key) (short : (Text.skipBlank key).length ≤ maxLength)
    (rest : Text) : Text.scanTrimmed (some 61) maxLength (key ++ 61 :: rest) =
      { taken := Text.trim key, rest, missing := false, atEnd := rest.isEmpty } :=
  Text.scanTrimmed_of_stop (Text.free_of_not_mem unequal) short rfl (by decide)

/-- A key and a value that are short enough are read to the end of the line. -/
theorem keyAndValue_of_short (unequal : 61 ∉ key) (short : (Text.skipBlank key).length ≤ maxLength)
    (unbroken : 10 ∉ value) (shortValue : (Text.skipBlank value).length ≤ maxLength)
    (rest : Text) : keyAndValue (key ++ 61 :: (value ++ 10 :: rest)) =
      (⟨Text.trim key, withoutReturn (Text.trim value)⟩, rest) := by
  have scanned : Text.scanTrimmed (some 10) maxLength (value ++ 10 :: rest) =
      { taken := Text.trim value, rest, missing := false, atEnd := rest.isEmpty } :=
    Text.scanTrimmed_of_stop (Text.free_of_not_mem unbroken) shortValue rfl (by decide)
  have more : (value ++ 10 :: rest).isEmpty = false := by simp
  simp only [keyAndValue, scanTrimmed_key unequal short, more, Bool.or_self, Bool.false_eq_true,
    if_false, scanned]

theorem keyAndValue_of_keyless (rest : Text) : (keyAndValue (61 :: rest)).1.key.isEmpty = true := by
  have scanned := scanTrimmed_key List.not_mem_nil (Nat.zero_le maxLength) rest
  rw [List.nil_append] at scanned
  simp only [keyAndValue, scanned]
  split
  · rfl
  · split <;> rfl

theorem scanTrimmed_missing_of_long {given : UInt8} (absent : given ∉ text)
    (long : maxLength < (Text.skipBlank text).length) (visible : Text.isBlank given = false)
    (rest : Text) :
    (Text.scanTrimmed (some given.toInt8.toInt) maxLength (text ++ given :: rest)).missing =
      true := by
  rw [Text.scanTrimmed_append visible]
  exact (Text.scanTo_of_long (Text.free_skipBlank (Text.free_of_not_mem absent)) long
    (given :: rest)).2.2

theorem keyAndValue_of_long_key (unequal : 61 ∉ key)
    (long : maxLength < (Text.skipBlank key).length) (rest : Text) :
    (keyAndValue (key ++ 61 :: rest)).1 = Pair.none :=
  keyAndValue_of_missing (scanTrimmed_missing_of_long unequal long rfl rest)

theorem keyAndValue_of_long_value (unequal : 61 ∉ key) (unbroken : 10 ∉ value)
    (long : maxLength < (Text.skipBlank value).length) (rest : Text) :
    (keyAndValue (key ++ 61 :: (value ++ 10 :: rest))).1 = Pair.none := by
  rcases Nat.lt_or_ge maxLength (Text.skipBlank key).length with longKey | short
  · exact keyAndValue_of_long_key unequal longKey _
  · have missing : (Text.scanTrimmed (some 10) maxLength (value ++ 10 :: rest)).missing = true :=
      scanTrimmed_missing_of_long unbroken long rfl rest
    simp only [keyAndValue, scanTrimmed_key unequal short, missing, if_true]
    split <;> rfl

end MeterTelegram.ConfigFile
