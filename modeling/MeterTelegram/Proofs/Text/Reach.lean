import MeterTelegram.Proofs.Buffer
import MeterTelegram.Proofs.Text.Scan

namespace MeterTelegram.Text

/-! How far a scan reaches into a buffer. From its position on it takes the longest piece that is
within the limit and free of the stop, and then steps over one byte more, whatever that byte is. -/

open Buffer

variable {buffer text : Text} {position limit count : Nat} {stop : Option Int} {byte : UInt8}
  {scan other : Scan}

/-- Why no more is collected: the limit is reached, the text is used up, or a stop follows. -/
inductive Halts (stop : Option Int) (limit : Nat) (taken : Text) : Text → Prop where
  | full {rest : Text} (full : taken.length = limit) : Halts stop limit taken rest
  | used : Halts stop limit taken []
  | stopped {byte : UInt8} {rest : Text} (stops : stopsAt stop byte = true) :
      Halts stop limit taken (byte :: rest)

theorem length_collect_le (stop : Option Int) (limit : Nat) (text : Text) :
    (collect stop limit text).1.length ≤ limit := by
  fun_induction collect stop limit text with
  | case1 | case2 | case3 => simp
  | case4 limit byte rest goesOn found ih => simpa using ih

theorem collect_free (stop : Option Int) (limit : Nat) (text : Text) :
    ∀ byte ∈ (collect stop limit text).1, stopsAt stop byte = false := by
  fun_induction collect stop limit text with
  | case1 | case2 | case3 => simp
  | case4 limit byte rest goesOn found ih => simpa [goesOn] using ih

theorem collect_halts (stop : Option Int) (limit : Nat) (text : Text) :
    Halts stop limit (collect stop limit text).1 (collect stop limit text).2 := by
  fun_induction collect stop limit text with
  | case1 => exact .full rfl
  | case2 => exact .used
  | case3 limit byte rest stops => exact .stopped stops
  | case4 limit byte rest goesOn found ih =>
      generalize left : found.2 = left at ih
      cases ih with
      | full full => exact .full (congrArg Nat.succ full)
      | used => exact .used
      | stopped stops => exact .stopped stops

/-- No longer piece of the text is within the limit and free of the stop. -/
theorem le_length_collect (within : count ≤ limit) (room : count ≤ text.length)
    (free : ∀ byte ∈ text.take count, stopsAt stop byte = false) :
    count ≤ (collect stop limit text).1.length := by
  have whole := collect_append stop limit text
  have halts := collect_halts stop limit text
  generalize (collect stop limit text).1 = taken at whole halts
  generalize (collect stop limit text).2 = left at whole halts
  subst whole
  cases halts with
  | full full => omega
  | used => simpa using room
  | @stopped byte rest stops =>
      refine Nat.le_of_not_lt fun longer => ?_
      have member : byte ∈ (taken ++ byte :: rest).take count := by
        rw [List.take_append]
        apply List.mem_append_right
        obtain ⟨more, counted⟩ : ∃ more, count - taken.length = more + 1 :=
          ⟨count - taken.length - 1, by omega⟩
        simp [counted]
      rw [free byte member] at stops
      contradiction

/-- Where a scan of a buffer goes on. -/
def Scan.next (buffer : Text) (position : Nat) (scan : Scan) : Nat :=
  min (position + scan.taken.length + 1) buffer.length

/-- What is asked of a scan of a buffer. -/
structure Reaches (stop : Option Int) (limit : Nat) (buffer : Text) (position : Nat)
    (scan : Scan) : Prop where
  taken : scan.taken = excerpt buffer position scan.taken.length
  bounded : scan.taken.length ≤ limit
  free : ∀ byte ∈ scan.taken, stopsAt stop byte = false
  longest : ∀ count ≤ limit, position + count ≤ buffer.length →
    (∀ byte ∈ excerpt buffer position count, stopsAt stop byte = false) →
      count ≤ scan.taken.length
  missing : scan.missing = true ↔ stop ≠ none ∧
    ∀ byte, buffer[position + scan.taken.length]? = some byte → stopsAt stop byte = false
  rest : scan.rest = buffer.drop (scan.next buffer position)
  atEnd : scan.atEnd = true ↔ scan.next buffer position = buffer.length

theorem Reaches.stop_le (reaches : Reaches stop limit buffer position scan)
    (inside : position ≤ buffer.length) :
    position + scan.taken.length ≤ buffer.length := by
  have taken := congrArg List.length reaches.taken
  simp only [excerpt, List.length_take, List.length_drop] at taken
  omega

/-- Nothing about a scan is left open. -/
theorem Reaches.unique (reaches : Reaches stop limit buffer position scan)
    (inside : position ≤ buffer.length) (others : Reaches stop limit buffer position other) :
    scan = other := by
  have upTo {first second : Scan} (reaches : Reaches stop limit buffer position first)
      (others : Reaches stop limit buffer position second) :
      first.taken.length ≤ second.taken.length := by
    apply others.longest _ reaches.bounded (reaches.stop_le inside)
    rw [← reaches.taken]
    exact reaches.free
  have length : scan.taken.length = other.taken.length :=
    Nat.le_antisymm (upTo reaches others) (upTo others reaches)
  have taken : scan.taken = other.taken := by
    rw [reaches.taken, others.taken, length]
  have next : scan.next buffer position = other.next buffer position := by
    rw [Scan.next, Scan.next, length]
  have missing : scan.missing = other.missing := by
    rw [Bool.eq_iff_iff, reaches.missing, others.missing, length]
  have rest : scan.rest = other.rest := by
    rw [reaches.rest, others.rest, next]
  have atEnd : scan.atEnd = other.atEnd := by
    rw [Bool.eq_iff_iff, reaches.atEnd, others.atEnd, next]
  cases scan
  cases other
  simp_all

theorem drop_next (buffer : Text) (place : Nat) :
    buffer.drop (min place buffer.length) = buffer.drop place := by
  rcases Nat.le_total place buffer.length with before | beyond
  · rw [Nat.min_eq_left before]
  · rw [Nat.min_eq_right beyond, List.drop_length, List.drop_eq_nil_iff.mpr beyond]

theorem scanTo_reaches (stop : Option Int) (limit : Nat) (buffer : Text) (position : Nat)
    (inside : position ≤ buffer.length) :
    Reaches stop limit buffer position (scanTo stop limit (buffer.drop position)) := by
  have whole := collect_append stop limit (buffer.drop position)
  have bounded := length_collect_le stop limit (buffer.drop position)
  have free := collect_free stop limit (buffer.drop position)
  have longest := fun count => @le_length_collect (buffer.drop position) limit count stop
  unfold scanTo
  generalize collect stop limit (buffer.drop position) = found at whole bounded free longest
  obtain ⟨taken, left⟩ := found
  simp only at whole bounded free longest ⊢
  have behind : left = buffer.drop (position + taken.length) := by
    rw [← List.drop_drop, ← whole, List.drop_left]
  have first : buffer[position + taken.length]? = left.head? := by
    rw [behind, List.head?_drop]
  have rest : left.tail = buffer.drop (min (position + taken.length + 1) buffer.length) := by
    rw [drop_next, behind, List.tail_drop]
  constructor
  · rw [excerpt, ← whole, List.take_left]
  · exact bounded
  · exact free
  · intro count within room unstopped
    exact longest count within (by rw [List.length_drop]; omega) unstopped
  · rw [first]
    cases left with
    | nil => simp [Option.isSome_iff_ne_none]
    | cons byte left => simp [Option.isSome_iff_ne_none]
  · exact rest
  · simp only [rest, List.isEmpty_iff, List.drop_eq_nil_iff, Scan.next]
    omega

/-- What the scan of a buffer at a position is. -/
theorem scanTo_eq_iff (inside : position ≤ buffer.length) :
    scanTo stop limit (buffer.drop position) = scan ↔
      Reaches stop limit buffer position scan := by
  have reached := scanTo_reaches stop limit buffer position inside
  constructor
  · intro same
    rwa [same] at reached
  · intro reaches
    exact reached.unique inside reaches

/-- Where the stop is found, the scan takes what is in front of it and steps over it. -/
theorem Reaches.split (reaches : Reaches stop limit buffer position scan)
    (stopping : stop ≠ none) (found : scan.missing = false) :
    ∃ byte, stopsAt stop byte = true ∧ buffer.drop position = scan.taken ++ byte :: scan.rest := by
  have present : ∃ byte, buffer[position + scan.taken.length]? = some byte ∧
      stopsAt stop byte = true := by
    have missing := reaches.missing
    rw [found] at missing
    simpa [stopping] using missing
  obtain ⟨byte, here, stops⟩ := present
  obtain ⟨before, same⟩ := List.getElem?_eq_some_iff.mp here
  have next : scan.next buffer position = position + scan.taken.length + 1 :=
    Nat.min_eq_left before
  refine ⟨byte, stops, ?_⟩
  rw [← List.take_append_drop scan.taken.length (buffer.drop position), List.drop_drop,
    List.drop_eq_getElem_cons before, same, reaches.rest, next]
  exact congrArg (· ++ _) reaches.taken.symm

theorem lt_next (scan : Scan) (inside : position < buffer.length) :
    position < scan.next buffer position := by
  rw [Scan.next]
  omega

end MeterTelegram.Text
