import MeterTelegram.Proofs.Layout.Check
import MeterTelegram.Proofs.Layout.Span

namespace MeterTelegram

/-! The rules of a layout in terms of numbers and byte ranges, and how far the check of a layout
enforces them: it lets through a divisor that is no number, and it loses sight of fields whose
end cannot be counted in 32 bits. -/

namespace Binary64

variable {number : Binary64}

/-- A number above zero, be it infinite. -/
def IsPositive (number : Binary64) : Prop :=
  match number.view with
  | .nan => False
  | .infinite negative => negative = false
  | .finite negative significand _ => negative = false ∧ 0 < significand

theorem isAtMostZero_eq_false :
    number.isAtMostZero = false ↔ number.IsPositive ∨ number.isNaN = true := by
  unfold isAtMostZero IsPositive isNaN
  cases number.view with
  | nan => simp
  | infinite negative => simp
  | finite negative significand scale => simp [Nat.pos_iff_ne_zero]

end Binary64

theorem MeterUnit.countsConsumption_iff {unit : MeterUnit} :
    unit.countsConsumption = true ↔ unit = .heatCost ∨ unit = .cubicMetre := by
  cases unit <;> decide

namespace Layout

variable {layout : Layout} {fault : Fault} {role : Role}

/-- The rules of a layout, for given meanings of a good divisor and of fields that stay apart. -/
structure Rules (divides : Binary64 → Prop) (apart : Field → Field → Prop) (layout : Layout) :
    Prop where
  codings : layout.codings ≠ []
  divisor : divides layout.divisor
  unit : layout.unit = .heatCost ∨ layout.unit = .cubicMetre
  dates : layout.pastDate.width = 2 ∧ layout.currentDate.width = 2
  widths : ∀ role ∈ layout.roles,
    1 ≤ (layout.field role).width ∧ (layout.field role).width ≤ 4
  offsets : ∀ role ∈ layout.roles, 1 ≤ (layout.field role).offset
  apart : layout.roles.Pairwise fun first second =>
    apart (layout.field first) (layout.field second)
  unreported : layout.reportsTemperature = false →
    layout.roomTemperature.width = 0 ∧ layout.radiatorTemperature.width = 0

theorem Rules.imp {divides divides' : Binary64 → Prop} {apart apart' : Field → Field → Prop}
    (rules : layout.Rules divides apart) (divisor : divides layout.divisor → divides' layout.divisor)
    (apart_imp : ∀ first ∈ layout.roles, ∀ second ∈ layout.roles,
      apart (layout.field first) (layout.field second) →
        apart' (layout.field first) (layout.field second)) :
    layout.Rules divides' apart' :=
  { rules with
    divisor := divisor rules.divisor
    apart := rules.apart.imp_of_mem fun {first second} firstMember secondMember =>
      apart_imp first firstMember second secondMember }

/-- The divisor is above zero and no byte belongs to two fields. -/
def Lawful : Layout → Prop :=
  Rules Binary64.IsPositive fun left right => Disjoint left.span right.span

/-- What is enforced: a divisor that is no number passes for one above zero, and a field that
overruns for one that stays apart from all others. -/
def Enforced : Layout → Prop :=
  Rules (fun divisor => divisor.IsPositive ∨ divisor.isNaN = true) fun left right =>
    Disjoint left.span right.span ∨ left.Overruns ∨ right.Overruns

/-- The offsets of all fields that are read are numbers of 32 bits. -/
def OffsetsFit (layout : Layout) : Prop :=
  ∀ role ∈ layout.roles, (layout.field role).offset ≤ greatestStop

instance : Decidable layout.OffsetsFit :=
  inferInstanceAs (Decidable (∀ role ∈ layout.roles, _))

theorem placed_of_checked (widths : ∀ role ∈ layout.roles, Counter.Allowed (layout.field role).width)
    (behindCoding : ∀ role ∈ layout.roles, 1 ≤ (layout.field role).offset)
    (offsets : layout.OffsetsFit) : ∀ role ∈ layout.roles, (layout.field role).Placed :=
  fun role member => ⟨widths role member, behindCoding role member, offsets role member⟩

theorem pairwise_overlaps_iff (placed : ∀ role ∈ layout.roles, (layout.field role).Placed) :
    (layout.roles.Pairwise fun first second =>
      (layout.field first).overlaps (layout.field second) = false) ↔
    layout.roles.Pairwise fun first second =>
      Disjoint (layout.field first).span (layout.field second).span ∨
        (layout.field first).Overruns ∨ (layout.field second).Overruns :=
  List.Pairwise.iff_of_mem fun {first second} firstMember secondMember =>
    Field.overlaps_eq_false (placed first firstMember) (placed second secondMember)

theorem pastDate_mem_roles (layout : Layout) : Role.pastDate ∈ layout.roles :=
  List.mem_append_left _ (by decide)

theorem isConsistent_iff_enforced (offsets : layout.OffsetsFit) :
    layout.isConsistent = true ↔ layout.Enforced := by
  rw [isConsistent_iff_sound]
  constructor
  · intro sound
    have placed := placed_of_checked sound.allowed sound.behindCoding offsets
    exact
      { codings := sound.codings
        divisor := Binary64.isAtMostZero_eq_false.mp sound.divisor
        unit := MeterUnit.countsConsumption_iff.mp sound.countsConsumption
        dates := ⟨sound.pastDate, sound.currentDate⟩
        widths := sound.allowed
        offsets := sound.behindCoding
        apart := (pairwise_overlaps_iff placed).mp sound.apart
        unreported := sound.unreported }
  · intro rules
    have placed := placed_of_checked rules.widths rules.offsets offsets
    exact
      { codings := rules.codings
        divisor := Binary64.isAtMostZero_eq_false.mpr rules.divisor
        countsConsumption := MeterUnit.countsConsumption_iff.mpr rules.unit
        unreported := rules.unreported
        pastDate := rules.dates.1
        currentDate := rules.dates.2
        allowed := rules.widths
        behindCoding := rules.offsets
        apart := (pairwise_overlaps_iff placed).mpr rules.apart }

theorem Lawful.enforced (lawful : layout.Lawful) : layout.Enforced :=
  lawful.imp .inl fun _ _ _ _ => .inl

theorem Enforced.lawful (enforced : layout.Enforced) (number : layout.divisor.isNaN = false)
    (endsFit : layout.EndsFit) : layout.Lawful := by
  refine enforced.imp (fun divides => ?_) fun first firstMember second secondMember apart => ?_
  · simpa only [number, Bool.false_eq_true, or_false] using divides
  · obtain apart | overruns | overruns := apart
    · exact apart
    · exact absurd (endsFit first firstMember) (Int.not_le.mpr overruns)
    · exact absurd (endsFit second secondMember) (Int.not_le.mpr overruns)

/-- So many bytes, from the coding byte on, hold every field. -/
def Holds (layout : Layout) (bytes : Nat) : Prop :=
  ∀ role ∈ layout.roles, (layout.field role).offset + (layout.field role).width ≤ bytes

theorem length_isLeast_iff (placed : ∀ role ∈ layout.roles, (layout.field role).Placed) :
    IsLeast {bytes | layout.Holds bytes} layout.length ↔ layout.EndsFit := by
  have reached : ∀ role ∈ layout.roles, (layout.field role).reach ≤ layout.length :=
    (length_le_iff.mp (Nat.le_refl _)).2
  constructor
  · rintro ⟨-, least⟩ role member
    refine Int.not_lt.mp fun overruns => ?_
    have enough : layout.length ≤ 4294967296 := by
      refine least fun other otherMember => ?_
      have width := (placed other otherMember).width.2
      have offset := (placed other otherMember).offset
      unfold greatestStop at offset
      omega
    have far := (placed role member).lt_reach overruns
    have within := reached role member
    omega
  · intro endsFit
    constructor
    · intro role member
      have holds := (placed role member).end_le_reach
      have within := reached role member
      omega
    · intro bytes holds
      refine length_le_iff.mpr ⟨?_, fun role member => ?_⟩
      · have date := holds _ layout.pastDate_mem_roles
        have width := (placed _ layout.pastDate_mem_roles).width.1
        have behind := (placed _ layout.pastDate_mem_roles).behindCoding
        omega
      · have reach := (placed role member).reach (Int.not_lt.mpr (endsFit role member))
        have within := holds role member
        omega

/-- What a fault says about the layout. -/
def Breaks (layout : Layout) : Fault → Prop
  | .noCodings => layout.codings = []
  | .divisor given => given = layout.divisor ∧ ¬ given.IsPositive
  | .unit given => given = layout.unit ∧ given ≠ .heatCost ∧ given ≠ .cubicMetre
  | .unreportedTemperature => layout.reportsTemperature = false ∧
      (layout.roomTemperature.width ≠ 0 ∨ layout.radiatorTemperature.width ≠ 0)
  | .dateWidth => layout.pastDate.width ≠ 2 ∨ layout.currentDate.width ≠ 2
  | .width role given => role ∈ layout.roles ∧ given = (layout.field role).width ∧
      ¬ (1 ≤ given ∧ given ≤ 4)
  | .offset role given => role ∈ layout.roles ∧ given = (layout.field role).offset ∧ given < 1
  | .overlap first second => [first, second].Sublist layout.roles ∧
      ¬ Disjoint (layout.field first).span (layout.field second).span

theorem rule_eq_some {broken : Prop} [Decidable broken] {fault found : Fault}
    {others : Option Fault} :
    (if broken then some fault else others) = some found ↔
      broken ∧ fault = found ∨ ¬ broken ∧ others = some found := by
  by_cases holds : broken
  · simp [holds]
  · simp [holds]

theorem breaks_of_fieldFault? (member : role ∈ layout.roles)
    (found : layout.fieldFault? role = some fault) : layout.Breaks fault := by
  unfold fieldFault? at found
  rw [rule_eq_some, rule_eq_some] at found
  obtain ⟨broken, rfl⟩ | ⟨-, ⟨broken, rfl⟩ | ⟨-, found⟩⟩ := found
  · refine ⟨member, rfl, ?_⟩
    have widest : (Counter.maxWidth : Int) = 4 := rfl
    omega
  · exact ⟨member, rfl, broken⟩
  · contradiction

theorem overlapAmong?_eq_some {roles : List Role}
    (found : layout.overlapAmong? roles = some fault) :
    ∃ first second, fault = .overlap first second ∧ [first, second].Sublist roles ∧
      (layout.field first).overlaps (layout.field second) = true := by
  induction roles with
  | nil => contradiction
  | cons role others ih =>
      rw [overlapAmong?, Option.or_eq_some_iff] at found
      obtain here | ⟨-, later⟩ := found
      · obtain ⟨other, first, rfl⟩ := Option.map_eq_some_iff.mp here
        have member := List.mem_of_find?_eq_some first
        have overlaps := List.find?_some first
        exact ⟨role, other, rfl, (List.singleton_sublist.mpr member).cons_cons role, overlaps⟩
      · obtain ⟨first, second, rfl, within, overlaps⟩ := ih later
        exact ⟨first, second, rfl, within.cons role, overlaps⟩

/-- The fault that is found is one of the layout. Overlaps are looked for only once each field
has passed the checks of its own, so what looks like an overlap is one. -/
theorem breaks_of_fault? (offsets : layout.OffsetsFit) (found : layout.fault? = some fault) :
    layout.Breaks fault := by
  unfold fault? at found
  rw [rule_eq_some, rule_eq_some, rule_eq_some, rule_eq_some, rule_eq_some,
    Option.or_eq_some_iff] at found
  obtain ⟨broken, rfl⟩ | ⟨-, ⟨broken, rfl⟩ | ⟨-, ⟨broken, rfl⟩ | ⟨-, ⟨broken, rfl⟩ |
    ⟨-, ⟨broken, rfl⟩ | ⟨-, found | ⟨fine, found⟩⟩⟩⟩⟩⟩ := found
  · exact List.isEmpty_iff.mp broken
  · refine ⟨rfl, fun positive => ?_⟩
    rw [Binary64.isAtMostZero_eq_false.mpr (.inl positive)] at broken
    contradiction
  · rw [Bool.not_eq_true', Bool.eq_false_iff, Ne, MeterUnit.countsConsumption_iff, not_or] at broken
    exact ⟨rfl, broken⟩
  · rw [Bool.and_eq_true, Bool.not_eq_true', Bool.or_eq_true, decide_eq_true_eq,
      decide_eq_true_eq] at broken
    exact broken
  · rw [Bool.or_eq_true, decide_eq_true_eq, decide_eq_true_eq] at broken
    exact broken
  · obtain ⟨role, member, atRole⟩ := List.exists_of_findSome?_eq_some found
    exact breaks_of_fieldFault? member atRole
  · have checked := fun role member =>
      fieldFault?_eq_none.mp (List.findSome?_eq_none_iff.mp fine role member)
    have placed := placed_of_checked (fun role member => (checked role member).1)
      (fun role member => (checked role member).2) offsets
    obtain ⟨first, second, rfl, within, overlaps⟩ := overlapAmong?_eq_some found
    have firstPlaced := placed first (within.subset List.mem_cons_self)
    have secondPlaced := placed second (within.subset (by simp))
    refine ⟨within, fun disjoint => ?_⟩
    rw [(Field.overlaps_eq_false firstPlaced secondPlaced).mpr (.inl disjoint)] at overlaps
    contradiction

theorem checkInto_of_isConsistent (why : Text) (consistent : layout.isConsistent = true) :
    layout.checkInto why = (true, why) := by
  rw [checkInto_eq, Option.isNone_iff_eq_none.mp consistent, explained]

theorem checkInto_of_refused (offsets : layout.OffsetsFit)
    (refused : layout.isConsistent = false) :
    ∃ fault, layout.Breaks fault ∧ ∀ why, layout.checkInto why = (false, fault.message) := by
  obtain ⟨fault, found⟩ := Option.isSome_iff_exists.mp (Option.isNone_eq_false_iff.mp refused)
  refine ⟨fault, breaks_of_fault? offsets found, fun why => ?_⟩
  rw [checkInto_eq, found, explained]

/-- The check accepts what is enforced: every lawful layout, and for a divisor that is a number
and fields that end within 32 bits no other. It writes an explanation exactly if it refuses, about
a rule that is broken. The length of an accepted layout is the least that holds every field
exactly if all fields end within 32 bits. -/
theorem isConsistent_enforces (offsets : layout.OffsetsFit) :
    (∀ why, (layout.checkInto why).1 = layout.isConsistent) ∧
      (layout.isConsistent = true ↔ layout.Enforced) ∧
      (layout.Lawful → layout.isConsistent = true) ∧
      (layout.divisor.isNaN = false → layout.EndsFit →
        layout.isConsistent = true → layout.Lawful) ∧
      (layout.isConsistent = true → ∀ why, layout.checkInto why = (true, why)) ∧
      (layout.isConsistent = false → ∃ fault, layout.Breaks fault ∧
        ∀ why, layout.checkInto why = (false, fault.message)) ∧
      (layout.isConsistent = true →
        (IsLeast {bytes | layout.Holds bytes} layout.length ↔ layout.EndsFit)) := by
  have enforces := isConsistent_iff_enforced offsets
  refine ⟨fun why => ?_, enforces, fun lawful => enforces.mpr lawful.enforced,
    fun number endsFit consistent => (enforces.mp consistent).lawful number endsFit,
    fun consistent why => checkInto_of_isConsistent why consistent,
    checkInto_of_refused offsets, fun consistent => length_isLeast_iff ?_⟩
  · cases consistent : layout.isConsistent with
    | true => rw [checkInto_of_isConsistent why consistent]
    | false =>
        obtain ⟨fault, -, refused⟩ := checkInto_of_refused offsets consistent
        rw [refused]
  · have sound := isConsistent_iff_sound.mp consistent
    exact placed_of_checked sound.allowed sound.behindCoding offsets

/-- The four fields every layout has, the last one at a given place. -/
def packed (last : Field) : Layout :=
  { codings := [0xA2]
    pastDate := ⟨2, 2⟩
    pastConsumption := ⟨4, 2⟩
    currentDate := ⟨6, 2⟩
    currentConsumption := last }

/-- A field that ends where the offsets of 32 bits do. -/
theorem isConsistent_enforces_last :
    (packed ⟨2147483643, 4⟩).OffsetsFit ∧ (packed ⟨2147483643, 4⟩).Lawful ∧
      IsLeast {bytes | (packed ⟨2147483643, 4⟩).Holds bytes} 2147483647 := by
  have offsets : (packed ⟨2147483643, 4⟩).OffsetsFit := by decide
  have consistent : (packed ⟨2147483643, 4⟩).isConsistent = true := by decide +kernel
  have endsFit : (packed ⟨2147483643, 4⟩).EndsFit := by decide
  obtain ⟨_, _, _, lawful, _, _, length⟩ := isConsistent_enforces offsets
  exact ⟨offsets, lawful (by decide +kernel) endsFit consistent, (length consistent).mpr endsFit⟩

/-- What the check overlooks: a divisor that is no number, and two fields that share the bytes
they have below an end that cannot be counted. -/
theorem isConsistent_overlooks :
    ({ packed ⟨8, 2⟩ with divisor := Binary64.nan }.isConsistent = true ∧
      ¬ { packed ⟨8, 2⟩ with divisor := Binary64.nan }.Lawful) ∧
    ({ packed ⟨2147483647, 4⟩ with pastConsumption := ⟨2147483646, 4⟩ }.isConsistent = true ∧
      ¬ { packed ⟨2147483647, 4⟩ with pastConsumption := ⟨2147483646, 4⟩ }.Lawful) := by
  refine ⟨⟨by decide +kernel, fun lawful => ?_⟩, ⟨by decide +kernel, fun lawful => ?_⟩⟩
  · exact lawful.divisor
  · have apart := List.pairwise_iff_getElem.mp lawful.apart 1 3 (by decide) (by decide) (by decide)
    have ends := (Field.disjoint_span_iff _ _ (by decide) (by decide)).mp apart
    exact absurd ends (by decide)

end Layout

end MeterTelegram
