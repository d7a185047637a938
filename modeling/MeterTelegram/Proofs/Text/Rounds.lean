import MeterTelegram.Proofs.ConfigFile.Rendering
import MeterTelegram.Proofs.Text.Reach
import MeterTelegram.Proofs.TextLines

namespace MeterTelegram

/-! Files are read in rounds, each of which scans on from where the one before left off. Every
scan of a text that is not used up takes a byte of it, so that there are never more rounds than
bytes, whatever the file holds. -/

namespace TextLines

variable {text : Text} {read other : Lines} {rounds others : Nat}

/-- The rounds of a reading of lines, without a limit to their number, and what is read. -/
inductive Rounds : Nat → Text → Lines → Prop where
  | done : Rounds 0 [] ⟨[], true⟩
  | overlong {text : Text} (present : text ≠ []) (missing : (step text).missing = true)
      (more : (step text).atEnd = false) : Rounds 1 text ⟨[], false⟩
  | last {text : Text} (present : text ≠ []) (atEnd : (step text).atEnd = true) :
      Rounds 1 text ⟨tidied [(step text).taken], true⟩
  | further {text : Text} {rounds : Nat} {read : Lines} (present : text ≠ [])
      (found : (step text).missing = false) (more : (step text).atEnd = false)
      (later : Rounds rounds (step text).rest read) :
      Rounds (rounds + 1) text ⟨tidied [(step text).taken] ++ read.lines, read.complete⟩

theorem step_shorter (present : text ≠ []) : (step text).rest.length < text.length :=
  Text.scanTo_shorter present

theorem exists_rounds (text : Text) : ∃ rounds ≤ text.length, Rounds rounds text (ofText text) := by
  -- The induction is on the bytes that are left.
  induction size : text.length using Nat.strong_induction_on generalizing text with
  | _ size ih =>
      subst size
      by_cases present : text = []
      · subst present
        exact ⟨0, Nat.le_refl 0, .done⟩
      · have shorter := step_shorter present
        rw [ofText_eq present]
        cases atEnd : (step text).atEnd with
        | true => exact ⟨1, by omega, by simpa [atEnd] using .last present atEnd⟩
        | false =>
            cases missing : (step text).missing with
            | true => exact ⟨1, by omega, by simpa using .overlong present missing atEnd⟩
            | false =>
                obtain ⟨rounds, few, later⟩ := ih _ shorter (step text).rest rfl
                exact ⟨rounds + 1, by omega, by simpa using .further present missing atEnd later⟩

theorem Rounds.unique (reading : Rounds rounds text read) (again : Rounds others text other) :
    rounds = others ∧ read = other := by
  induction reading generalizing others other with
  | done =>
      cases again with
      | done => exact ⟨rfl, rfl⟩
      | overlong present | last present | further present => contradiction
  | overlong present missing more =>
      cases again with
      | done => contradiction
      | overlong => exact ⟨rfl, rfl⟩
      | last present atEnd => simp [more] at atEnd
      | further present found => simp [missing] at found
  | last present atEnd =>
      cases again with
      | done => contradiction
      | overlong present missing more => simp [atEnd] at more
      | last => exact ⟨rfl, rfl⟩
      | further present found more => simp [atEnd] at more
  | further present found more later ih =>
      cases again with
      | done => contradiction
      | overlong present missing => simp [found] at missing
      | last present atEnd => simp [more] at atEnd
      | further present found more again =>
          obtain ⟨count, same⟩ := ih again
          exact ⟨congrArg Nat.succ count, by rw [same]⟩

end TextLines

namespace ConfigFile

variable {input left other : Text} {read again : List Pair}

theorem exists_rounds (input : Text) :
    ∃ read left last, Reading input read left ∧ read.length ≤ input.length ∧
      reads input = read ++ [last] ∧ last.key = [] := by
  induction size : input.length using Nat.strong_induction_on generalizing input with
  | _ size ih =>
      subst size
      rw [reads_eq]
      cases keyless : (next input).1.key.isEmpty with
      | true =>
          exact ⟨[], _, (next input).1, .ended keyless, Nat.zero_le _, rfl,
            List.isEmpty_iff.mp keyless⟩
      | false =>
          have shorter := next_shorter (ne_nil_of_keyed keyless)
          obtain ⟨read, left, last, later, few, whole, ended⟩ := ih _ shorter (next input).2 rfl
          refine ⟨(next input).1 :: read, left, last, .step rfl keyless later, ?_, ?_, ended⟩
          · rw [List.length_cons]
            omega
          · rw [whole]
            rfl

theorem Reading.unique (reading : Reading input read left) (others : Reading input again other) :
    read = again ∧ left = other := by
  induction reading generalizing again other with
  | ended keyless =>
      cases others with
      | ended => exact ⟨rfl, rfl⟩
      | step found keyed => simp [found, keyed] at keyless
  | step found keyed later ih =>
      cases others with
      | ended keyless => simp [found, keyed] at keyless
      | step foundAgain keyedAgain laterAgain =>
          rw [found] at foundAgain
          obtain ⟨rfl, rfl⟩ := Prod.mk.inj foundAgain
          obtain ⟨same, ends⟩ := ih laterAgain
          exact ⟨congrArg _ same, ends⟩

end ConfigFile

namespace Text

/-- A scan takes the longest piece of a buffer from its position on that is within the limit and
free of the stop, and steps over one byte more; what it says of the stop and of the end is exact.
So a stop that is found stands behind what is taken and nothing else is passed over, a scan that
does not begin at the end goes on, and both loops that are made of scans come to an end after as
many rounds as there are bytes at most. -/
theorem scanTo_exact :
    (∀ stop limit buffer position, position ≤ buffer.length →
      (∀ scan, scanTo stop limit (buffer.drop position) = scan ↔
        Reaches stop limit buffer position scan) ∧
      (stop ≠ none → (scanTo stop limit (buffer.drop position)).missing = false →
        ∃ byte, stopsAt stop byte = true ∧
          buffer.drop position = (scanTo stop limit (buffer.drop position)).taken ++
            byte :: (scanTo stop limit (buffer.drop position)).rest) ∧
      (position < buffer.length →
        position < (scanTo stop limit (buffer.drop position)).next buffer position)) ∧
    (∀ content, ∃ rounds ≤ content.length,
      TextLines.Rounds rounds content (TextLines.ofText content) ∧
        ∀ others read, TextLines.Rounds others content read →
          others = rounds ∧ read = TextLines.ofText content) ∧
    ∀ content, ∃ read left last, ConfigFile.Reading (content ++ [10]) read left ∧
      read.length ≤ content.length + 1 ∧
      ConfigFile.pairs content = read ++ [last] ∧ last.key = [] ∧
      ∀ again other, ConfigFile.Reading (content ++ [10]) again other →
        again = read ∧ other = left := by
  refine ⟨?_, ?_, ?_⟩
  · intro stop limit buffer position inside
    have reaches := scanTo_reaches stop limit buffer position inside
    exact ⟨fun scan => scanTo_eq_iff inside, reaches.split, lt_next _⟩
  · intro content
    obtain ⟨rounds, few, reading⟩ := TextLines.exists_rounds content
    exact ⟨rounds, few, reading, fun others read again => again.unique reading⟩
  · intro content
    obtain ⟨read, left, last, reading, few, whole, ended⟩ :=
      ConfigFile.exists_rounds (content ++ [10])
    rw [List.length_append] at few
    refine ⟨read, left, last, reading, few, ?_, ended, fun again other others => ?_⟩
    · rw [ConfigFile.pairs_eq_reads, whole]
    · exact others.unique reading

end Text

end MeterTelegram
