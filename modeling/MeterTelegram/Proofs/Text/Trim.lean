import MeterTelegram.Proofs.Text.Scan

namespace MeterTelegram.Text

/-! Trimming a text at its end only: the blanks in front of it stay, unless it is all blank. -/

variable {text : Text} {byte : UInt8}

def trimEnd (text : Text) : Text :=
  (text.reverse.dropWhile isBlank).reverse

/-- The blanks that a text begins with. -/
def margin (text : Text) : Text :=
  text.takeWhile isBlank

theorem margin_append_skipBlank (text : Text) : margin text ++ skipBlank text = text :=
  List.takeWhile_append_dropWhile

theorem margin_blank : ∀ byte ∈ margin text, isBlank byte = true := by
  intro byte member
  exact List.mem_takeWhile_imp member

theorem mem_of_mem_trimEnd (member : byte ∈ trimEnd text) : byte ∈ text := by
  have turned : byte ∈ text.reverse :=
    (List.dropWhile_suffix isBlank).subset (List.mem_reverse.mp member)
  exact List.mem_reverse.mp turned

theorem trimEnd_skipBlank (text : Text) : trimEnd (skipBlank text) = trim text := rfl

theorem mem_of_mem_trim (member : byte ∈ trim text) : byte ∈ text :=
  (skipBlank_suffix text).subset (mem_of_mem_trimEnd member)

/-- What stands up to a byte that is no blank is kept. -/
theorem trimEnd_append (visible : isBlank byte = false) (front rest : Text) :
    trimEnd (front ++ byte :: rest) = front ++ byte :: trimEnd rest := by
  have turned : (front ++ byte :: rest).reverse = rest.reverse ++ byte :: front.reverse := by simp
  rw [trimEnd, turned, ← skipBlank, skipBlank_append_of_not_blank visible]
  simp [trimEnd, skipBlank]

theorem trimEnd_of_visible (visible : isBlank byte = false) (rest : Text) :
    trimEnd (byte :: rest) = byte :: trimEnd rest :=
  trimEnd_append visible [] rest

theorem trim_of_visible (visible : isBlank byte = false) (rest : Text) :
    trim (byte :: rest) = byte :: trimEnd rest := by
  rw [← trimEnd_skipBlank, skipBlank_of_not_blank visible, trimEnd_of_visible visible]

theorem trimEnd_trimEnd (text : Text) : trimEnd (trimEnd text) = trimEnd text := by
  rw [trimEnd, trimEnd, List.reverse_reverse, List.dropWhile_idempotent]

/-- A text is all blank, or its blanks stand in front of a byte that is none. -/
theorem blank_or_visible (text : Text) :
    (trim text = [] ∧ trimEnd text = []) ∨
      ∃ first rest, isBlank first = false ∧ text = margin text ++ first :: rest ∧
        trim text = first :: trimEnd rest := by
  cases skipped : text.dropWhile isBlank with
  | nil =>
      have blank : ∀ byte ∈ text, isBlank byte = true := List.dropWhile_eq_nil_iff.mp skipped
      have turned : text.reverse.dropWhile isBlank = [] := by
        rw [List.dropWhile_eq_nil_iff]
        intro byte member
        exact blank byte (List.mem_reverse.mp member)
      refine .inl ⟨trim_of_blank blank, ?_⟩
      rw [trimEnd, turned, List.reverse_nil]
  | cons first rest =>
      have visible : isBlank first = false := by
        have found := List.head_dropWhile_not isBlank (l := text) (by simp [skipped])
        simpa [skipped] using found
      refine .inr ⟨first, rest, visible, ?_, ?_⟩
      · rw [← skipped]
        exact (margin_append_skipBlank text).symm
      · rw [← trimEnd_skipBlank, skipBlank, skipped, trimEnd_of_visible visible]

/-- Of a text that is not all blank, only the margin tells its two trimmings apart. -/
theorem trimEnd_eq (present : trim text ≠ []) : trimEnd text = margin text ++ trim text := by
  obtain ⟨empty, -⟩ | ⟨first, rest, visible, split, trimmed⟩ := blank_or_visible text
  · contradiction
  · rw [trimmed, ← trimEnd_append visible, ← split]

theorem trimEnd_of_trim (empty : trim text = []) : trimEnd text = [] := by
  obtain ⟨-, nothing⟩ | ⟨first, rest, -, -, trimmed⟩ := blank_or_visible text
  · exact nothing
  · rw [trimmed] at empty
    contradiction

theorem trim_trim (text : Text) : trim (trim text) = trim text := by
  obtain ⟨empty, -⟩ | ⟨first, rest, visible, -, trimmed⟩ := blank_or_visible text
  · rw [empty]
    rfl
  · rw [trimmed, trim_of_visible visible, trimEnd_trimEnd]

end MeterTelegram.Text
