import MeterTelegram.Registry
import MeterTelegram.Proofs.Journal

namespace MeterTelegram

/-! Asking decoders that always come to an end and print nothing comes to an end
and prints nothing, whatever their answers are. -/

def Decoder.Calm (decoder : Decoder) : Prop :=
  ∀ frame before, (decoder.decode frame before).Calm

def Registry.Trace.Silent (trace : Registry.Trace) : Prop :=
  ∀ decision, (trace decision).filterMap Entry.output? = []

namespace Registry

variable {registry : Registry} {decoder : Decoder} {signature : Signature} {trace : Trace}
  {frame : Frame} {before : Reading}

theorem debugging_silent : Trace.Silent debugging :=
  fun _ => rfl

theorem ask_calm (silent : trace.Silent) (decoders : List Decoder)
    (calm : ∀ decoder ∈ decoders, decoder.Calm) : (ask trace frame before decoders).Calm := by
  induction decoders with
  | nil => exact Journal.Calm.pure _
  | cons decoder others ih =>
      have rest := ih fun other member => calm other (List.mem_cons_of_mem decoder member)
      refine (calm decoder List.mem_cons_self frame {}).bind fun answer => ?_
      obtain ⟨status, findings⟩ := answer
      refine (Journal.Calm.note (silent _)).bind fun _ => ?_
      cases status with
      | decoded => exact Journal.Calm.pure _
      | failed => exact Journal.Calm.pure _
      | notApplicable => exact rest.bind fun dispatch => Journal.Calm.pure _

theorem decode_calm (silent : trace.Silent)
    (calm : ∀ decoder ∈ registry.lookup frame.address.signature, decoder.Calm) :
    (registry.decode trace frame before).Calm := by
  cases found : registry.lookup frame.address.signature with
  | nil =>
      simp only [decode, found]
      exact (Journal.Calm.note (silent _)).bind fun _ => Journal.Calm.pure _
  | cons decoder others =>
      rw [found] at calm
      simp only [decode, found]
      exact ask_calm silent (decoder :: others) calm

theorem decoders_addAll (registry : Registry) (decoders : List Decoder) :
    (decoders.foldl add registry).decoders = registry.decoders ++ decoders := by
  induction decoders generalizing registry with
  | nil => exact (List.append_nil _).symm
  | cons decoder rest ih =>
      rw [List.foldl_cons, ih, add, List.append_assoc, List.singleton_append]

end Registry

end MeterTelegram
