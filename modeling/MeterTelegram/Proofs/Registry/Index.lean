import MeterTelegram.Proofs.Registry
import MeterTelegram.Proofs.Signature

namespace MeterTelegram

/-! The index of a registry: under each signature stand the decoders that list it, in the
order they were added and as often as they list it. -/

/-- What adding a decoder puts under a signature. -/
def Decoder.copies (signature : Signature) (decoder : Decoder) : List Decoder :=
  List.replicate (decoder.signatures.count signature) decoder

namespace Registry

variable {decoder : Decoder} {signature other : Signature} {index : Nat → List Decoder}

def ofDecoders (decoders : List Decoder) : Registry :=
  decoders.foldl add empty

theorem enter_self :
    enter decoder index signature signature.key = index signature.key ++ [decoder] :=
  if_pos rfl

/-- Signatures share no entry of the index. -/
theorem enter_other (different : other ≠ signature) :
    enter decoder index signature other.key = index other.key :=
  if_neg fun same => different (Signature.key_eq_iff.mp same)

theorem enterAll_key (decoder : Decoder) (signatures : List Signature)
    (index : Nat → List Decoder) (signature : Signature) :
    signatures.foldl (enter decoder) index signature.key =
      index signature.key ++ List.replicate (signatures.count signature) decoder := by
  induction signatures generalizing index with
  | nil => exact (List.append_nil _).symm
  | cons first rest ih =>
      rw [List.foldl_cons, ih]
      by_cases same : first = signature
      · subst same
        rw [enter_self, List.count_cons_self, List.replicate_succ, List.append_assoc,
          List.singleton_append]
      · rw [enter_other (Ne.symm same), List.count_cons_of_ne same]

theorem lookup_add (registry : Registry) (decoder : Decoder) (signature : Signature) :
    (registry.add decoder).lookup signature =
      registry.lookup signature ++ decoder.copies signature :=
  enterAll_key decoder decoder.signatures registry.bySignature signature

theorem lookup_addAll (registry : Registry) (decoders : List Decoder) (signature : Signature) :
    (decoders.foldl add registry).lookup signature =
      registry.lookup signature ++ decoders.flatMap (Decoder.copies signature) := by
  induction decoders generalizing registry with
  | nil => exact (List.append_nil _).symm
  | cons decoder rest ih =>
      rw [List.foldl_cons, ih, lookup_add, List.flatMap_cons, List.append_assoc]

theorem lookup_ofDecoders (decoders : List Decoder) (signature : Signature) :
    (ofDecoders decoders).lookup signature = decoders.flatMap (Decoder.copies signature) :=
  lookup_addAll empty decoders signature

theorem mem_lookup_ofDecoders {decoders : List Decoder} :
    decoder ∈ (ofDecoders decoders).lookup signature ↔
      decoder ∈ decoders ∧ signature ∈ decoder.signatures := by
  simp only [lookup_ofDecoders, List.mem_flatMap, Decoder.copies, List.mem_replicate, ne_eq,
    List.count_eq_zero, Decidable.not_not]
  constructor
  · rintro ⟨added, member, listed, rfl⟩
    exact ⟨member, listed⟩
  · rintro ⟨member, listed⟩
    exact ⟨decoder, member, listed, rfl⟩

theorem copies_of_not_mem (unlisted : signature ∉ decoder.signatures) :
    decoder.copies signature = [] := by
  rw [Decoder.copies, List.count_eq_zero_of_not_mem unlisted, List.replicate_zero]

theorem lookup_ofDecoders_insert (earlier later : List Decoder)
    (unlisted : signature ∉ decoder.signatures) :
    (ofDecoders (earlier ++ decoder :: later)).lookup signature =
      (ofDecoders (earlier ++ later)).lookup signature := by
  simp only [lookup_ofDecoders, List.flatMap_append, List.flatMap_cons,
    copies_of_not_mem unlisted, List.nil_append]

theorem decode_congr {registry other : Registry} {frame : Frame}
    (same : other.lookup frame.address.signature = registry.lookup frame.address.signature)
    (trace : Trace) (before : Reading) :
    other.decode trace frame before = registry.decode trace frame before := by
  simp only [decode, same]

/-- Decoders are kept in the order they were added, and found under each signature as often
as they list it. Signatures that differ share no entry, and a decoder that does not list a
signature can be added anywhere without changing what is found or decoded there. -/
theorem ofDecoders_indexes (decoders : List Decoder) :
    (ofDecoders decoders).decoders = decoders ∧
      (∀ signature, (ofDecoders decoders).lookup signature =
        decoders.flatMap fun decoder =>
          List.replicate (decoder.signatures.count signature) decoder) ∧
      (∀ first second : Signature, first ≠ second → first.word ≠ second.word ∧
        ∀ decoder index, enter decoder index first second.key = index second.key) ∧
      ∀ earlier later decoder signature, earlier ++ later = decoders →
        signature ∉ decoder.signatures →
          (ofDecoders (earlier ++ decoder :: later)).lookup signature =
            (ofDecoders decoders).lookup signature ∧
          ∀ trace frame before, frame.address.signature = signature →
            (ofDecoders (earlier ++ decoder :: later)).decode trace frame before =
              (ofDecoders decoders).decode trace frame before := by
  refine ⟨decoders_addAll empty decoders, lookup_ofDecoders decoders, ?_, ?_⟩
  · intro first second different
    refine ⟨fun same => different (Signature.key_eq_iff.mp ?_), fun decoder index =>
      enter_other different.symm⟩
    rw [← Signature.toNat_word, ← Signature.toNat_word, same]
  · rintro earlier later decoder signature rfl unlisted
    have found := lookup_ofDecoders_insert earlier later unlisted
    refine ⟨found, ?_⟩
    rintro trace frame before rfl
    exact decode_congr found trace before

def warmWater : Signature := ⟨0x5068, 0x74, 0x62⟩

def coldWater : Signature := ⟨0x5068, 0x74, 0x72⟩

/-- A decoder that declines every frame. -/
def idle (name : Text) (signatures : List Signature) : Decoder :=
  { name, signatures
    reportsTemperature := false
    decode := fun _ findings => pure (.notApplicable, findings) }

theorem ofDecoders_indexes_repeated :
    let twice := idle "twice" [warmWater, coldWater, warmWater]
    let once := idle "once" [warmWater]
    warmWater ≠ coldWater ∧ coldWater ∉ once.signatures ∧
      (ofDecoders [twice, once]).decoders = [twice, once] ∧
      (ofDecoders [twice, once]).lookup warmWater = [twice, twice, once] ∧
      (ofDecoders [twice, once]).lookup coldWater = (ofDecoders [twice]).lookup coldWater := by
  intro twice once
  have different : warmWater ≠ coldWater := by decide
  have unlisted : coldWater ∉ once.signatures := by decide
  have both := ofDecoders_indexes [twice, once]
  have single := ofDecoders_indexes [twice]
  exact ⟨different, unlisted, both.1, both.2.1 warmWater,
    (single.2.2.2 [twice] [] once coldWater rfl unlisted).1⟩

end Registry

end MeterTelegram
