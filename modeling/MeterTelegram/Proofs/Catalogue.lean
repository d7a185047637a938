import MeterTelegram.Catalogue.Builtin
import MeterTelegram.Proofs.Layout.Verdict
import MeterTelegram.Proofs.Registry.Index

namespace MeterTelegram

/-! Registries of consistent families: they can always be made, and their decoders
are those of the families, which are calm. -/

theorem Family.detects_iff {family : Family} {signature : Signature} :
    family.detects signature = true ↔ signature ∈ family.signatures := by
  simp only [Family.detects, List.any_eq_true, decide_eq_true_eq, Signature.key_eq_iff,
    exists_eq_right]

/-- The decoder of a family whose layout needs no check. -/
def Family.reader (family : Family) : Decoder :=
  { name := family.name
    signatures := family.signatures
    reportsTemperature := family.layout.reportsTemperature
    decode := family.layout.decodeInto family.name }

theorem Family.decoder_of_consistent {family : Family}
    (consistent : family.layout.isConsistent = true) : family.decoder = .ok family.reader := by
  have accepted : family.layout.fault? = none := Option.isNone_iff_eq_none.mp consistent
  simp only [Family.decoder, Decoder.ofLayout, Layout.verify, accepted]
  rfl

theorem Family.reader_calm {family : Family} (readable : family.layout.Readable) :
    family.reader.Calm :=
  fun frame before => Layout.decodeInto_calm readable family.name frame before

namespace Catalogue

def Readable (catalogue : Catalogue) : Prop :=
  ∀ family ∈ catalogue.families, family.layout.Readable

variable {catalogue : Catalogue} {signature : Signature} {decoder : Decoder}

def readers (catalogue : Catalogue) : Registry :=
  (catalogue.families.map Family.reader).foldl Registry.add Registry.empty

theorem addFamilies_of_consistent {families : List Family}
    (consistent : ∀ family ∈ families, family.layout.isConsistent = true) (registry : Registry) :
    families.foldlM (fun registry family => family.decoder.map registry.add) registry =
      .ok ((families.map Family.reader).foldl Registry.add registry) := by
  induction families generalizing registry with
  | nil => rfl
  | cons family rest ih =>
      have decoder := Family.decoder_of_consistent (consistent family List.mem_cons_self)
      have tail := ih (fun other member => consistent other (List.mem_cons_of_mem family member))
        (registry.add family.reader)
      rw [List.foldlM_cons, decoder]
      exact tail

theorem registry_of_readable (readable : catalogue.Readable) :
    catalogue.registry = .ok catalogue.readers :=
  addFamilies_of_consistent (fun family member => (readable family member).isConsistent)
    Registry.empty

theorem mem_lookup_readers :
    decoder ∈ catalogue.readers.lookup signature ↔
      ∃ family ∈ catalogue.detecting signature, family.reader = decoder := by
  have added : decoder ∈ catalogue.readers.lookup signature ↔
      decoder ∈ catalogue.families.map Family.reader ∧ signature ∈ decoder.signatures :=
    Registry.mem_lookup_ofDecoders
  rw [added, List.mem_map]
  constructor
  · rintro ⟨⟨family, listed, rfl⟩, own⟩
    exact ⟨family, List.mem_filter.mpr ⟨listed, Family.detects_iff.mpr own⟩, rfl⟩
  · rintro ⟨family, detected, rfl⟩
    obtain ⟨listed, detects⟩ := List.mem_filter.mp detected
    exact ⟨⟨family, listed, rfl⟩, Family.detects_iff.mp detects⟩

theorem reader_of_lookup (member : decoder ∈ catalogue.readers.lookup signature) :
    ∃ family ∈ catalogue.families, family.reader = decoder := by
  obtain ⟨family, detected, same⟩ := mem_lookup_readers.mp member
  exact ⟨family, (List.mem_filter.mp detected).1, same⟩

theorem readers_calm (readable : catalogue.Readable)
    (member : decoder ∈ catalogue.readers.lookup signature) : decoder.Calm := by
  obtain ⟨family, listed, rfl⟩ := reader_of_lookup member
  exact Family.reader_calm (readable family listed)

theorem builtin_readable : builtin.Readable := by
  have consistent : ∀ family ∈ builtin.families, family.layout.isConsistent = true := by
    decide +kernel
  have fits : ∀ family ∈ builtin.families, family.layout.EndsFit := by decide +kernel
  exact fun family member =>
    Layout.readable_of_isConsistent (consistent family member) (fits family member)

end Catalogue

end MeterTelegram
