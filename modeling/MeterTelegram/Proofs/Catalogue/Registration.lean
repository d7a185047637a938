import Mathlib.Data.List.Nodup
import MeterTelegram.Proofs.Catalogue
import MeterTelegram.Proofs.Results

namespace MeterTelegram.Catalogue

/-! Registering families one after another. A family is refused if its name is taken or one
of its signatures is detected already; the name is looked up in the map, the signatures in the
list. Every registration writes both, so that they go on to tell of the same families. -/

variable {catalogue after start : Catalogue} {family : Family} {families : List Family}
  {name : Text} {fault : Fault}

def names (catalogue : Catalogue) : List Text :=
  catalogue.families.map Family.name

/-- The name of the family is taken, or one of its signatures. -/
def Refuses (catalogue : Catalogue) (family : Family) : Prop :=
  family.name ∈ catalogue.names ∨
    ∃ signature ∈ family.signatures, ∃ owner ∈ catalogue.families,
      owner.detects signature = true

/-! The map and the list -/

theorem find?_write (catalogue : Catalogue) (family : Family) (name : Text) :
    (catalogue.write family).find? name =
      if name = family.name then some family else catalogue.find? name :=
  rfl

/-- The name that is listed is looked up in the map only after the family was put there. -/
theorem enter_eq (catalogue : Catalogue) (family : Family) :
    catalogue.enter family =
      { catalogue.write family with listed := catalogue.listed ++ [family.name] } := by
  have written : (catalogue.write family).find? family.name = some family := if_pos rfl
  rw [enter, list, written]
  rfl

theorem find?_enter (catalogue : Catalogue) (family : Family) (name : Text) :
    (catalogue.enter family).find? name =
      if name = family.name then some family else catalogue.find? name := by
  rw [enter_eq]
  exact find?_write catalogue family name

theorem listed_enter (catalogue : Catalogue) (family : Family) :
    (catalogue.enter family).listed = catalogue.listed ++ [family.name] := by
  rw [enter_eq]

/-- The map and the list tell of the same families: a name is listed, and once only, if the map
has a family under it, and this family is the one of that name. -/
structure Linked (catalogue : Catalogue) : Prop where
  once : catalogue.listed.Nodup
  listed_iff : ∀ name, name ∈ catalogue.listed ↔ ∃ family, catalogue.find? name = some family
  named : ∀ name family, catalogue.find? name = some family → family.name = name

theorem empty_linked : empty.Linked := by
  have nothing : ∀ name, empty.find? name = none := fun name => rfl
  have unlisted : empty.listed = [] := rfl
  constructor
  · exact List.nodup_nil
  · simp [nothing, unlisted]
  · simp [nothing]

theorem Linked.enter (linked : catalogue.Linked) (fresh : catalogue.find? family.name = none) :
    (catalogue.enter family).Linked where
  once := by
    have unlisted : family.name ∉ catalogue.listed := by
      intro listed
      obtain ⟨other, found⟩ := (linked.listed_iff _).mp listed
      rw [fresh] at found
      contradiction
    rw [listed_enter, List.nodup_append]
    refine ⟨linked.once, List.nodup_singleton _, ?_⟩
    intro earlier listed own member same
    rw [List.mem_singleton] at member
    rw [same, member] at listed
    exact unlisted listed
  listed_iff := by
    intro name
    rw [listed_enter, find?_enter, List.mem_append, List.mem_singleton]
    by_cases own : name = family.name
    · simp [own]
    · simp [own, linked.listed_iff]
  named := by
    intro name other found
    rw [find?_enter] at found
    by_cases own : name = family.name
    · rw [if_pos own] at found
      rw [← Option.some.inj found, own]
    · rw [if_neg own] at found
      exact linked.named name other found

theorem Linked.mem_families_iff (linked : catalogue.Linked) :
    family ∈ catalogue.families ↔ catalogue.find? family.name = some family := by
  rw [families, List.mem_filterMap]
  constructor
  · intro member
    obtain ⟨name, -, found⟩ := member
    rw [linked.named name family found]
    exact found
  · intro found
    exact ⟨family.name, (linked.listed_iff _).mpr ⟨family, found⟩, found⟩

theorem Linked.find?_eq_some_iff (linked : catalogue.Linked) :
    catalogue.find? name = some family ↔ family ∈ catalogue.families ∧ family.name = name := by
  rw [linked.mem_families_iff]
  constructor
  · intro found
    have named := linked.named name family found
    rw [named]
    exact ⟨found, rfl⟩
  · intro listed
    rw [← listed.2]
    exact listed.1

/-- No listed name stands for nothing, or for a family of another name. -/
theorem Linked.names_eq (linked : catalogue.Linked) : catalogue.names = catalogue.listed := by
  rw [names, families, List.map_filterMap]
  have own : ∀ name ∈ catalogue.listed,
      (catalogue.find? name).map Family.name = some name := by
    intro name listed
    obtain ⟨family, found⟩ := (linked.listed_iff name).mp listed
    rw [found, Option.map_some, linked.named name family found]
  rw [List.filterMap_congr own, List.filterMap_some]

theorem Linked.entries (linked : catalogue.Linked) :
    catalogue.listed.map catalogue.find? = catalogue.families.map some := by
  rw [← linked.names_eq, names, List.map_map]
  exact List.map_congr_left fun family listed => linked.mem_families_iff.mp listed

/-- A new name comes to the end of the list, and what is listed before it stays as it is. -/
theorem Linked.families_enter (linked : catalogue.Linked)
    (fresh : catalogue.find? family.name = none) :
    (catalogue.enter family).families = catalogue.families ++ [family] := by
  have kept : ∀ name ∈ catalogue.listed,
      (catalogue.enter family).find? name = catalogue.find? name := by
    intro name listed
    rw [find?_enter]
    apply if_neg
    intro own
    obtain ⟨other, found⟩ := (linked.listed_iff name).mp listed
    rw [own, fresh] at found
    contradiction
  have last : (catalogue.enter family).find? family.name = some family := by
    rw [find?_enter, if_pos rfl]
  rw [families, listed_enter, List.filterMap_append, List.filterMap_congr kept,
    List.filterMap_cons_some last]
  rfl

theorem Linked.find?_isSome_iff (linked : catalogue.Linked) :
    (catalogue.find? name).isSome = true ↔ name ∈ catalogue.names := by
  rw [linked.names_eq, linked.listed_iff, Option.isSome_iff_exists]

/-! What is refused -/

theorem clash?_isSome_iff : (catalogue.clash? family).isSome = true ↔
    ∃ signature ∈ family.signatures, ∃ owner ∈ catalogue.families,
      owner.detects signature = true := by
  simp [clash?]

theorem register_of_refuses (linked : catalogue.Linked) (refuses : catalogue.Refuses family) :
    ∃ fault, catalogue.register family = .error fault := by
  by_cases named : (catalogue.find? family.name).isSome = true
  · exact ⟨.nameTaken family.name, if_pos named⟩
  · have detected : (catalogue.clash? family).isSome = true := by
      apply clash?_isSome_iff.mpr
      exact refuses.resolve_left fun taken => named (linked.find?_isSome_iff.mpr taken)
    obtain ⟨fault, clash⟩ := Option.isSome_iff_exists.mp detected
    exact ⟨fault, by rw [register, if_neg named, clash]⟩

theorem Linked.fresh_of_not_refuses (linked : catalogue.Linked)
    (free : ¬ catalogue.Refuses family) : catalogue.find? family.name = none := by
  apply Option.not_isSome_iff_eq_none.mp
  intro named
  exact free (.inl (linked.find?_isSome_iff.mp named))

theorem register_of_not_refuses (linked : catalogue.Linked) (free : ¬ catalogue.Refuses family) :
    catalogue.register family = .ok (catalogue.enter family) := by
  have undetected : ¬ (catalogue.clash? family).isSome = true := fun detected =>
    free (.inr (clash?_isSome_iff.mp detected))
  rw [register, linked.fresh_of_not_refuses free, Option.not_isSome_iff_eq_none.mp undetected]
  rfl

theorem register_error_iff (linked : catalogue.Linked) :
    (∃ fault, catalogue.register family = .error fault) ↔ catalogue.Refuses family := by
  refine ⟨?_, register_of_refuses linked⟩
  intro broken
  obtain ⟨fault, refused⟩ := broken
  refine Classical.byContradiction fun free => ?_
  rw [register_of_not_refuses linked free] at refused
  contradiction

theorem register_ok_iff (linked : catalogue.Linked) : catalogue.register family = .ok after ↔
    ¬ catalogue.Refuses family ∧ after = catalogue.enter family := by
  constructor
  · intro registered
    have free : ¬ catalogue.Refuses family := by
      intro refuses
      obtain ⟨fault, refused⟩ := register_of_refuses linked refuses
      rw [refused] at registered
      contradiction
    rw [register_of_not_refuses linked free, Except.ok.injEq] at registered
    exact ⟨free, registered.symm⟩
  · intro accepted
    rw [accepted.2]
    exact register_of_not_refuses linked accepted.1

/-- Names and signatures tell families apart. -/
structure Orderly (catalogue : Catalogue) : Prop extends catalogue.Linked where
  exclusive : catalogue.families.Pairwise fun first second =>
    ∀ signature, ¬ (first.detects signature = true ∧ second.detects signature = true)

theorem empty_orderly : empty.Orderly :=
  ⟨empty_linked, .nil⟩

theorem Orderly.distinct (orderly : catalogue.Orderly) : catalogue.names.Nodup := by
  rw [orderly.names_eq]
  exact orderly.once

theorem register_orderly (orderly : catalogue.Orderly)
    (registered : catalogue.register family = .ok after) : after.Orderly := by
  obtain ⟨free, rfl⟩ := (register_ok_iff orderly.toLinked).mp registered
  have fresh := orderly.fresh_of_not_refuses free
  refine ⟨orderly.toLinked.enter fresh, ?_⟩
  rw [orderly.families_enter fresh, List.pairwise_append]
  refine ⟨orderly.exclusive, List.pairwise_singleton _ _, ?_⟩
  intro owner listed own member signature both
  obtain rfl := List.mem_singleton.mp member
  exact free (.inr ⟨signature, Family.detects_iff.mp both.2, owner, listed, both.1⟩)

theorem registerAll_cons : start.registerAll (family :: families) =
    (start.register family >>= fun next => next.registerAll families) := rfl

/-- Registrations keep names and signatures apart, and list the families in their order. -/
theorem registerAll_orderly (orderly : start.Orderly)
    (registered : start.registerAll families = .ok catalogue) :
    catalogue.Orderly ∧ catalogue.families = start.families ++ families := by
  induction families generalizing start with
  | nil =>
      cases registered
      exact ⟨orderly, (List.append_nil _).symm⟩
  | cons family rest ih =>
      obtain ⟨next, first, others⟩ := Results.ok_of_bind registered
      obtain ⟨kept, listed⟩ := ih (register_orderly orderly first) others
      refine ⟨kept, ?_⟩
      obtain ⟨free, rfl⟩ := (register_ok_iff orderly.toLinked).mp first
      rw [listed, orderly.families_enter (orderly.fresh_of_not_refuses free), List.append_assoc,
        List.singleton_append]

/-- A sequence of registrations is broken off by the first family that is refused. -/
theorem registerAll_error_iff (orderly : start.Orderly) :
    (∃ fault, start.registerAll families = .error fault) ↔
      ∃ earlier family later reached, families = earlier ++ family :: later ∧
        start.registerAll earlier = .ok reached ∧ reached.Refuses family := by
  induction families generalizing start with
  | nil => exact ⟨nofun, by rintro ⟨earlier, family, later, _, split, _⟩; simp at split⟩
  | cons first rest ih =>
      rw [registerAll_cons]
      cases registered : start.register first with
      | error fault =>
          have refuses := (register_error_iff orderly.toLinked).mp ⟨fault, registered⟩
          exact ⟨fun _ => ⟨[], first, rest, start, rfl, rfl, refuses⟩, fun _ => ⟨fault, rfl⟩⟩
      | ok next =>
          refine (ih (register_orderly orderly registered)).trans ⟨?_, ?_⟩
          · rintro ⟨earlier, family, later, reached, rfl, registers, refuses⟩
            refine ⟨first :: earlier, family, later, reached, rfl, ?_, refuses⟩
            rw [registerAll_cons, registered]
            exact registers
          · rintro ⟨earlier, family, later, reached, split, registers, refuses⟩
            cases earlier with
            | nil =>
                obtain ⟨rfl, rfl⟩ := List.cons.inj split
                cases registers
                obtain ⟨fault, refused⟩ := register_of_refuses orderly.toLinked refuses
                rw [refused] at registered
                contradiction
            | cons other earlier =>
                obtain ⟨rfl, rfl⟩ := List.cons.inj split
                rw [registerAll_cons, registered] at registers
                exact ⟨earlier, family, later, reached, rfl, registers, refuses⟩

/-- A catalogue after the registration of families, none of which was refused. Its list holds
their names in order, each of which leads to the family in the map, and the map holds nothing
else. -/
structure Registered (catalogue : Catalogue) (families : List Family) : Prop where
  inOrder : catalogue.families = families
  listed : catalogue.listed = families.map Family.name
  distinct : (families.map Family.name).Nodup
  entries : catalogue.listed.map catalogue.byName = families.map some
  found : ∀ family ∈ families, catalogue.find? family.name = some family
  unknown : ∀ name, name ∉ families.map Family.name → catalogue.find? name = none
  sameMembers : ∀ name family,
    catalogue.byName name = some family ↔ family ∈ families ∧ family.name = name
  exclusive : families.Pairwise fun first second =>
    ∀ signature, ¬ (first.detects signature = true ∧ second.detects signature = true)

theorem Orderly.registered (orderly : catalogue.Orderly) :
    catalogue.Registered catalogue.families where
  inOrder := rfl
  listed := orderly.names_eq.symm
  distinct := orderly.distinct
  entries := orderly.toLinked.entries
  found := fun _ listed => orderly.mem_families_iff.mp listed
  unknown := fun _ untaken =>
    Option.not_isSome_iff_eq_none.mp fun found => untaken (orderly.find?_isSome_iff.mp found)
  sameMembers := fun _ _ => orderly.find?_eq_some_iff
  exclusive := orderly.exclusive

theorem builtin_registered : empty.registerAll builtinFamilies = .ok builtin := rfl

/-- Catalogues that registrations may start from. -/
inductive Origin : Catalogue → Prop where
  | empty : Origin .empty
  | builtin : Origin .builtin

theorem Origin.orderly (origin : Origin start) : start.Orderly := by
  cases origin with
  | empty => exact empty_orderly
  | builtin => exact (registerAll_orderly empty_orderly builtin_registered).1

/-- A registration is refused exactly if the name or a signature is taken. What was
registered without refusal is kept in order, under distinct names, and detects distinct
signatures, and the map leads to the families of the list and to no others. -/
theorem registerAll_registers (origin : Origin start) (families : List Family) :
    (∀ earlier catalogue family, start.registerAll earlier = .ok catalogue →
      ((∃ fault, catalogue.register family = .error fault) ↔ catalogue.Refuses family)) ∧
    ((∃ fault, start.registerAll families = .error fault) ↔
      ∃ earlier family later reached, families = earlier ++ family :: later ∧
        start.registerAll earlier = .ok reached ∧ reached.Refuses family) ∧
    ∀ catalogue, start.registerAll families = .ok catalogue →
      catalogue.Registered (start.families ++ families) := by
  have orderly := origin.orderly
  refine ⟨?_, registerAll_error_iff orderly, ?_⟩
  · intro earlier catalogue family registers
    exact register_error_iff (registerAll_orderly orderly registers).1.toLinked
  · intro catalogue registers
    obtain ⟨kept, listed⟩ := registerAll_orderly orderly registers
    rw [← listed]
    exact kept.registered

def smokeSignature : Signature := signature 0xF0 0x76

/-- A family that lists its only signature twice. -/
def smokeDetector : Family :=
  { name := "smoke"
    description := "smoke detector"
    signatures := [smokeSignature, smokeSignature]
    layout := waterLayout }

theorem registerAll_registers_smokeDetector :
    let catalogue : Catalogue := builtin.enter smokeDetector
    builtin.registerAll [smokeDetector] = .ok catalogue ∧
      catalogue.Registered (builtin.families ++ [smokeDetector]) ∧
      ∃ fault, catalogue.register { smokeDetector with name := "smoke_alarm" } = .error fault := by
  intro catalogue
  have registers : builtin.registerAll [smokeDetector] = .ok catalogue := rfl
  have registrations := registerAll_registers .builtin [smokeDetector]
  refine ⟨registers, registrations.2.2 catalogue registers, ?_⟩
  refine (registrations.1 [smokeDetector] catalogue _ registers).mpr (.inr ?_)
  exact ⟨smokeSignature, by decide, smokeDetector, by decide +kernel, by decide⟩

end MeterTelegram.Catalogue
