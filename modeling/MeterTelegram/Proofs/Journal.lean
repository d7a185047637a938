import MeterTelegram.Journal

namespace MeterTelegram

/-! Journals put together from others: what they result in and what they print. -/

def Entry.output? : Entry → Option Text
  | .output text => some text
  | .message _ _ => none

namespace Journal

variable {ε α β : Type} {first : Journal ε α} {next : α → Journal ε β} {value : α}

def outputs (journal : Journal ε α) : List Text :=
  journal.entries.filterMap Entry.output?

@[simp] theorem outcome_pure : (Pure.pure value : Journal ε α).outcome = .ok value := rfl

@[simp] theorem entries_pure : (Pure.pure value : Journal ε α).entries = [] := rfl

theorem outputs_attempt {ε' : Type} :
    (first.attempt : Journal ε' (Except ε α)).outputs = first.outputs := rfl

theorem bind_of_ok (ok : first.outcome = .ok value) :
    first >>= next = ⟨first.entries ++ (next value).entries, (next value).outcome⟩ := by
  change Journal.bind first next = _
  rw [Journal.bind, ok]

theorem bind_of_error {fault : ε} (failed : first.outcome = .error fault) :
    first >>= next = ⟨first.entries, .error fault⟩ := by
  change Journal.bind first next = _
  rw [Journal.bind, failed]

theorem note_bind {entries : List Entry} {next : PUnit → Journal ε β} :
    Journal.note entries >>= next = ⟨entries ++ (next ⟨⟩).entries, (next ⟨⟩).outcome⟩ := rfl

theorem outcome_bind (ok : first.outcome = .ok value) :
    (first >>= next).outcome = (next value).outcome := by
  rw [bind_of_ok ok]

theorem ok_of_bind {result : β} (ok : (first >>= next).outcome = .ok result) :
    ∃ value, first.outcome = .ok value ∧ (next value).outcome = .ok result := by
  cases done : first.outcome with
  | error fault =>
      rw [bind_of_error done] at ok
      contradiction
  | ok value => exact ⟨value, rfl, by rwa [outcome_bind done] at ok⟩

theorem entries_bind_of_silent (silent : ∀ value, (next value).entries = []) :
    (first >>= next).entries = first.entries := by
  cases done : first.outcome with
  | error fault => rw [bind_of_error done]
  | ok value => rw [bind_of_ok done, silent value, List.append_nil]

theorem outputs_bind (ok : first.outcome = .ok value) :
    (first >>= next).outputs = first.outputs ++ (next value).outputs := by
  rw [bind_of_ok ok]
  exact List.filterMap_append ..

/-- Continuations that say the same and convert to the same result do so behind any beginning. -/
theorem bind_alike {γ : Type} {convert : β → γ} {other : α → Journal ε β}
    (alike : ∀ value, (next value).entries = (other value).entries ∧
      (next value).outcome.map convert = (other value).outcome.map convert) :
    (first >>= next).entries = (first >>= other).entries ∧
      (first >>= next).outcome.map convert = (first >>= other).outcome.map convert := by
  cases done : first.outcome with
  | error fault =>
      rw [bind_of_error done, bind_of_error done]
      exact ⟨rfl, rfl⟩
  | ok value =>
      rw [bind_of_ok done, bind_of_ok done]
      exact ⟨congrArg (first.entries ++ ·) (alike value).1, (alike value).2⟩

/-- A computation that ends with a result and prints nothing. -/
structure Calm (journal : Journal ε α) : Prop where
  ends : ∃ value, journal.outcome = .ok value
  silent : journal.outputs = []

theorem Calm.pure (value : α) : (Pure.pure value : Journal ε α).Calm :=
  ⟨⟨value, rfl⟩, rfl⟩

theorem Calm.note {entries : List Entry} (silent : entries.filterMap Entry.output? = []) :
    (Journal.note entries : Journal ε PUnit).Calm :=
  ⟨⟨⟨⟩, rfl⟩, silent⟩

theorem Calm.ofExcept {result : Except ε α} (ok : result = .ok value) :
    (Journal.ofExcept result).Calm :=
  ⟨⟨value, ok⟩, rfl⟩

/-- A computation that ends with a result and prints these texts. -/
structure Prints (journal : Journal ε α) (texts : List Text) : Prop where
  ends : ∃ value, journal.outcome = .ok value
  outputs : journal.outputs = texts

theorem Prints.pure (value : α) : (Pure.pure value : Journal ε α).Prints [] :=
  ⟨⟨value, rfl⟩, rfl⟩

theorem Prints.bind {texts others : List Text} (prints : first.Prints texts)
    (nextPrints : ∀ value, (next value).Prints others) :
    (first >>= next).Prints (texts ++ others) := by
  obtain ⟨⟨value, ok⟩, outputs⟩ := prints
  obtain ⟨⟨result, done⟩, nextOutputs⟩ := nextPrints value
  exact ⟨⟨result, by rw [outcome_bind ok, done]⟩, by rw [outputs_bind ok, outputs, nextOutputs]⟩

theorem Calm.prints (calm : first.Calm) : first.Prints [] :=
  ⟨calm.ends, calm.silent⟩

theorem Calm.bind (calm : first.Calm) (nextCalm : ∀ value, (next value).Calm) :
    (first >>= next).Calm := by
  have prints := calm.prints.bind fun value => (nextCalm value).prints
  exact ⟨prints.ends, prints.outputs⟩

end Journal

end MeterTelegram
