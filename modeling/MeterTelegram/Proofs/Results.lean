namespace MeterTelegram.Results

/-! What a successful result says of the computations it was put together from. -/

variable {ε ε' α β : Type} {first : Except ε α}

theorem mapError_ok (translate : ε → ε') (value : α) :
    (Except.ok value).mapError translate = .ok value := rfl

theorem mapError_error (translate : ε → ε') (fault : ε) :
    (Except.error fault : Except ε α).mapError translate = .error (translate fault) := rfl

theorem ok_of_bind {next : α → Except ε β} {result : β} (ok : first >>= next = .ok result) :
    ∃ value, first = .ok value ∧ next value = .ok result := by
  cases first with
  | error fault => contradiction
  | ok value => exact ⟨value, rfl, ok⟩

theorem ok_of_map {convert : α → β} {result : β} (ok : first.map convert = .ok result) :
    ∃ value, first = .ok value ∧ convert value = result := by
  cases first with
  | error fault => contradiction
  | ok value => exact ⟨value, rfl, Except.ok.inj ok⟩

theorem ok_of_mapError {translate : ε → ε'} {result : α}
    (ok : first.mapError translate = .ok result) : first = .ok result := by
  cases first with
  | error fault => contradiction
  | ok value => exact congrArg Except.ok (Except.ok.inj ok)

/-- Results that are converted to the same are both faults, or both successful. -/
theorem alike_of_map {other : Except ε α} {convert : α → β}
    (same : first.map convert = other.map convert) :
    (∃ fault, first = .error fault ∧ other = .error fault) ∨
      ∃ value left, first = .ok value ∧ other = .ok left ∧ convert value = convert left := by
  cases first with
  | error fault =>
      cases other with
      | error reason => exact .inl ⟨fault, rfl, congrArg _ (Except.error.inj same).symm⟩
      | ok left => contradiction
  | ok value =>
      cases other with
      | error reason => contradiction
      | ok left => exact .inr ⟨value, left, rfl, rfl, Except.ok.inj same⟩

end MeterTelegram.Results
