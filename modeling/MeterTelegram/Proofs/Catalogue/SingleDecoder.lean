import MeterTelegram.Proofs.Catalogue.Registration
import MeterTelegram.Proofs.Registry.Asking

namespace MeterTelegram

/-! Registries made of registered families. A signature leads to the decoder of the family
that detects it and to no other, once for each time the family lists the signature. -/

variable {frame : Frame} {decoder : Decoder} {signature : Signature} {family : Family}
  {families : List Family}

namespace Registry

theorem asked_replicate_of_declines (declines : decoder.declines frame = true) (count : Nat) :
    asked frame (List.replicate count decoder) = List.replicate count decoder := by
  induction count with
  | zero => rfl
  | succ count ih => rw [List.replicate_succ, asked_of_declines declines, ih]

theorem asked_replicate_of_settles (settles : decoder.declines frame = false) {count : Nat}
    (found : 0 < count) : asked frame (List.replicate count decoder) = [decoder] := by
  obtain ⟨count, rfl⟩ := Nat.exists_eq_succ_of_ne_zero (Nat.ne_of_gt found)
  rw [List.replicate_succ, asked_of_settles settles]

end Registry

namespace Family

theorem decoder_of_inconsistent (inconsistent : family.layout.isConsistent = false) :
    ∃ broken, family.decoder = .error broken := by
  cases refused : family.layout.fault? with
  | none =>
      rw [Layout.isConsistent, refused] at inconsistent
      contradiction
  | some cause =>
      refine ⟨⟨family.name, cause⟩, ?_⟩
      simp only [decoder, Decoder.ofLayout, Layout.verify, refused]
      rfl

theorem count_pos (detects : family.detects signature = true) :
    0 < family.signatures.count signature :=
  List.count_pos_iff.mpr (detects_iff.mp detects)

theorem copies_of_not_detects (undetected : family.detects signature = false) :
    family.reader.copies signature = [] := by
  refine Registry.copies_of_not_mem fun listed => ?_
  rw [detects_iff.mpr listed] at undetected
  contradiction

end Family

namespace Catalogue

variable {catalogue start : Catalogue} {registry : Registry}

theorem addFamilies_of_inconsistent (listed : family ∈ families)
    (inconsistent : family.layout.isConsistent = false) (registry : Registry) :
    ∃ broken, families.foldlM (fun registry family => family.decoder.map registry.add) registry =
      .error broken := by
  induction families generalizing registry with
  | nil => contradiction
  | cons first rest ih =>
      rw [List.foldlM_cons]
      cases made : first.decoder with
      | error broken => exact ⟨broken, rfl⟩
      | ok decoder =>
          have later : family ∈ rest := by
            refine (List.mem_cons.mp listed).resolve_left ?_
            rintro rfl
            obtain ⟨broken, refused⟩ := Family.decoder_of_inconsistent inconsistent
            rw [refused] at made
            contradiction
          exact ih later (registry.add decoder)

/-- A registry can be made exactly if all layouts are consistent. -/
theorem registry_ok_iff : catalogue.registry = .ok registry ↔
    (∀ family ∈ catalogue.families, family.layout.isConsistent = true) ∧
      registry = catalogue.readers := by
  constructor
  · intro made
    have consistent : ∀ family ∈ catalogue.families, family.layout.isConsistent = true := by
      intro family listed
      refine Bool.of_not_eq_false fun inconsistent => ?_
      obtain ⟨broken, refused⟩ :=
        addFamilies_of_inconsistent listed inconsistent Registry.empty
      rw [Catalogue.registry, refused] at made
      contradiction
    have readers := addFamilies_of_consistent consistent Registry.empty
    exact ⟨consistent, Except.ok.inj (made.symm.trans readers)⟩
  · rintro ⟨consistent, rfl⟩
    exact addFamilies_of_consistent consistent Registry.empty

theorem lookup_readers (catalogue : Catalogue) (signature : Signature) :
    catalogue.readers.lookup signature =
      catalogue.families.flatMap fun family => family.reader.copies signature := by
  rw [← List.flatMap_map]
  exact Registry.lookup_ofDecoders (catalogue.families.map Family.reader) signature

theorem lookup_readers_of_undetected
    (undetected : ∀ family ∈ catalogue.families, family.detects signature = false) :
    catalogue.readers.lookup signature = [] := by
  rw [lookup_readers, List.flatMap_eq_nil_iff]
  exact fun family listed => Family.copies_of_not_detects (undetected family listed)

theorem Orderly.lookup_readers (orderly : catalogue.Orderly) (listed : family ∈ catalogue.families)
    (detects : family.detects signature = true) :
    catalogue.readers.lookup signature = family.reader.copies signature := by
  obtain ⟨earlier, later, split⟩ := List.append_of_mem listed
  have exclusive := orderly.exclusive
  rw [split, List.pairwise_append, List.pairwise_cons] at exclusive
  obtain ⟨-, ⟨behind, -⟩, before⟩ := exclusive
  have before : earlier.flatMap (fun other => other.reader.copies signature) = [] := by
    refine List.flatMap_eq_nil_iff.mpr fun other member => Family.copies_of_not_detects ?_
    refine Bool.of_not_eq_true fun detected => ?_
    exact before other member family List.mem_cons_self signature ⟨detected, detects⟩
  have behind : later.flatMap (fun other => other.reader.copies signature) = [] := by
    refine List.flatMap_eq_nil_iff.mpr fun other member => Family.copies_of_not_detects ?_
    exact Bool.of_not_eq_true fun detected => behind other member signature ⟨detects, detected⟩
  rw [Catalogue.lookup_readers, split, List.flatMap_append, List.flatMap_cons, before, behind,
    List.nil_append, List.append_nil]

/-- The frame is dispatched to the decoder of one family. It is asked once, or, if it
declines, once for each time the family lists the signature. -/
structure AsksOnly (registry : Registry) (family : Family) (frame : Frame) : Prop where
  asked : Registry.asked frame (registry.lookup frame.address.signature) =
    if family.reader.declines frame then
      List.replicate (family.signatures.count frame.address.signature) family.reader
    else [family.reader]
  once : family.signatures.count frame.address.signature = 1 →
    Registry.asked frame (registry.lookup frame.address.signature) = [family.reader]
  logged : ∀ trace before, (registry.decode trace frame before).entries =
    (Registry.asked frame (registry.lookup frame.address.signature)).flatMap
      (Decoder.said trace frame)

theorem asksOnly_of_lookup
    (found : registry.lookup frame.address.signature =
      family.reader.copies frame.address.signature)
    (detects : family.detects frame.address.signature = true) :
    AsksOnly registry family frame := by
  have listed : 0 < (family.reader.signatures.count frame.address.signature) :=
    Family.count_pos detects
  have asked : Registry.asked frame (registry.lookup frame.address.signature) =
      if family.reader.declines frame then
        List.replicate (family.signatures.count frame.address.signature) family.reader
      else [family.reader] := by
    rw [found]
    cases declines : family.reader.declines frame with
    | true => exact Registry.asked_replicate_of_declines declines _
    | false => exact Registry.asked_replicate_of_settles declines listed
  refine ⟨asked, fun single => ?_, fun trace before => ?_⟩
  · rw [asked, single]
    exact ite_self _
  · have known : registry.lookup frame.address.signature ≠ [] := by
      rw [found, Decoder.copies]
      exact List.ne_nil_of_length_pos (by rwa [List.length_replicate])
    rw [Registry.decode_of_known trace before known, Registry.ask_eq]

/-- The registry of registered families finds the decoder of the family that detects a
signature, as often as that family lists it, and asks no other. -/
theorem registry_asksOnly (origin : Origin start)
    (registers : start.registerAll families = .ok catalogue) :
    ((∃ registry, catalogue.registry = .ok registry) ↔
      ∀ family ∈ catalogue.families, family.layout.isConsistent = true) ∧
    ∀ registry, catalogue.registry = .ok registry →
      (∀ signature, (∀ family ∈ catalogue.families, family.detects signature = false) →
        registry.lookup signature = [] ∧
        ∀ frame, frame.address.signature = signature → ∀ trace before,
          (registry.decode trace frame before).entries =
            trace (.noDecoder signature frame.address.id)) ∧
      ∀ family ∈ catalogue.families, family.decoder = .ok family.reader ∧
        ∀ signature, family.detects signature = true →
          0 < family.signatures.count signature ∧
          registry.lookup signature =
            List.replicate (family.signatures.count signature) family.reader ∧
          ∀ frame, frame.address.signature = signature → AsksOnly registry family frame := by
  have orderly := (registerAll_orderly origin.orderly registers).1
  refine ⟨?_, ?_⟩
  · constructor
    · rintro ⟨registry, made⟩
      exact (registry_ok_iff.mp made).1
    · exact fun consistent => ⟨_, registry_ok_iff.mpr ⟨consistent, rfl⟩⟩
  · intro registry made
    obtain ⟨consistent, rfl⟩ := registry_ok_iff.mp made
    refine ⟨fun signature undetected => ?_, fun family listed => ⟨?_, fun signature detects => ?_⟩⟩
    · have unknown := lookup_readers_of_undetected undetected
      refine ⟨unknown, ?_⟩
      rintro frame rfl trace before
      rw [Registry.decode_of_unknown trace before unknown]
    · exact Family.decoder_of_consistent (consistent family listed)
    · have found := orderly.lookup_readers listed detects
      refine ⟨Family.count_pos detects, found, ?_⟩
      rintro frame rfl
      exact asksOnly_of_lookup found detects

def smokeAddress : Address :=
  { manufacturer := 0x5068
    id := "34333231"
    version := 0x76
    deviceType := 0xF0
    bytes := [0x68, 0x50, 0x31, 0x32, 0x33, 0x34, 0x76, 0xF0] }

/-- A telegram whose coding byte no layout recognizes. -/
def smokeAlarm : Frame :=
  { bytes := [0x0A, 0x44] ++ smokeAddress.bytes ++ [0xFF], address := smokeAddress, signal := 0 }

theorem registry_asksOnly_allocator :
    let catalogue : Catalogue := builtin.enter smokeDetector
    builtin.registerAll [smokeDetector] = .ok catalogue ∧
      ∃ registry, catalogue.registry = .ok registry ∧
        registry.lookup (Catalogue.signature 0x80 0x64) = [allocator64.reader] ∧
        AsksOnly registry smokeDetector smokeAlarm := by
  intro catalogue
  have registers : builtin.registerAll [smokeDetector] = .ok catalogue := rfl
  have consistent : ∀ family ∈ catalogue.families, family.layout.isConsistent = true := by
    decide +kernel
  obtain ⟨makes, single⟩ := registry_asksOnly .builtin registers
  obtain ⟨registry, made⟩ := makes.mpr consistent
  obtain ⟨-, finds⟩ := single registry made
  have allocator := (finds allocator64 (by decide +kernel)).2
    (Catalogue.signature 0x80 0x64) (by decide)
  have smoke := (finds smokeDetector (by decide +kernel)).2 smokeSignature (by decide)
  exact ⟨registers, registry, made, allocator.2.1, smoke.2.2 smokeAlarm rfl⟩

/-- A decoder that is listed twice for a signature is found and asked twice. -/
theorem smokeDetector_askedTwice :
    let alone : Catalogue := empty.enter smokeDetector
    empty.registerAll [smokeDetector] = .ok alone ∧
      alone.registry = .ok alone.readers ∧
      alone.readers.lookup smokeSignature =
        [smokeDetector.reader, smokeDetector.reader] ∧
      smokeAlarm.address.signature = smokeSignature ∧
      Registry.asked smokeAlarm (alone.readers.lookup smokeAlarm.address.signature) =
        [smokeDetector.reader, smokeDetector.reader] ∧
      ∃ dispatch,
        (alone.readers.decode Registry.silent smokeAlarm {}).outcome = .ok dispatch ∧
          dispatch.decisions.length = 2 := by
  intro alone
  have registers : empty.registerAll [smokeDetector] = .ok alone := rfl
  have listed : alone.families = [smokeDetector] := rfl
  have consistent : ∀ family ∈ alone.families, family.layout.isConsistent = true := by
    decide +kernel
  have made : alone.registry = .ok alone.readers := registry_ok_iff.mpr ⟨consistent, rfl⟩
  have twice : smokeDetector.reader.signatures.count smokeSignature = 2 := by decide +kernel
  have found : alone.readers.lookup smokeSignature =
      [smokeDetector.reader, smokeDetector.reader] := by
    rw [lookup_readers, listed, List.flatMap_singleton, Decoder.copies, twice]
    rfl
  have declines : smokeDetector.reader.declines smokeAlarm = true := by decide +kernel
  have asked : Registry.asked smokeAlarm (alone.readers.lookup smokeAlarm.address.signature) =
      [smokeDetector.reader, smokeDetector.reader] := by
    rw [show smokeAlarm.address.signature = smokeSignature from rfl, found]
    exact Registry.asked_replicate_of_declines declines 2
  exact ⟨registers, made, found, rfl, asked, _, rfl, rfl⟩

end Catalogue

end MeterTelegram
