import MeterTelegram.Proofs.Frame
import MeterTelegram.Proofs.Hex.Language

namespace MeterTelegram

/-! Telegrams that are received. A receiver keeps its frame until a telegram is long enough for
a control field and an address; then the parts of the address are all that was sent of it. -/

variable {bytes received : List UInt8} {address other : Address} {frame : Frame} {signal : Int}

namespace Hex

theorem digitValue?_lowerDigit :
    ∀ value < 16, digitValue? (lowerDigit value) = some value := by
  decide

theorem spells_lowerByte (byte : UInt8) : Spells (lowerByte byte) [byte] := by
  have bound := byte.toNat_lt
  have first := digitValue?_lowerDigit (byte.toNat / 16) (by omega)
  have second := digitValue?_lowerDigit (byte.toNat % 16) (by omega)
  have whole : 16 * (byte.toNat / 16) + byte.toNat % 16 = byte.toNat := Nat.div_add_mod _ _
  have spells := Spells.pair first second .done
  rwa [whole, UInt8.ofNat_toNat] at spells

theorem spells_lowerBytes (bytes : List UInt8) : Spells (bytes.flatMap lowerByte) bytes := by
  induction bytes with
  | nil => exact .done
  | cons byte rest ih => exact (spells_lowerByte byte).append ih

theorem read_of_spells {text : Text} (spells : Spells text bytes) : read text = ⟨bytes, true⟩ := by
  rw [read, shown_of_whole spells.whole, readPairs_of_spells spells]

end Hex

namespace Address

/-- The bytes an address is sent as, from its parts alone: the manufacturer and the bytes that
the number spells, least significant byte first, then version and type. -/
def sent (address : Address) : List UInt8 :=
  [UInt8.ofNat address.manufacturer.toNat, UInt8.ofNat (address.manufacturer.toNat / 256)] ++
    (Hex.read address.id).bytes.reverse ++ [address.version, address.deviceType]

theorem bytes_manufacturer (low high : UInt8) :
    UInt8.ofNat (UInt16.ofNat (high.toNat * 256 + low.toNat)).toNat = low ∧
      UInt8.ofNat ((UInt16.ofNat (high.toNat * 256 + low.toNat)).toNat / 256) = high := by
  have lowBound := low.toNat_lt
  have highBound := high.toNat_lt
  have whole : (UInt16.ofNat (high.toNat * 256 + low.toNat)).toNat =
      high.toNat * 256 + low.toNat := by
    rw [UInt16.toNat_ofNat']
    omega
  rw [whole, ← UInt8.toNat_inj, ← UInt8.toNat_inj, UInt8.toNat_ofNat', UInt8.toNat_ofNat']
  omega

/-- Nothing of the bytes of an address is lost in its parts. -/
theorem sent_of_ofBytes? (found : ofBytes? received = some address) :
    address.bytes = received ∧ address.sent = received ∧ address.id.length = 8 ∧
      (Hex.read address.id).complete = true := by
  unfold ofBytes? at found
  split at found
  · rename_i low high id0 id1 id2 id3 version deviceType
    cases found
    have spelled := Hex.read_of_spells (Hex.spells_lowerBytes [id3, id2, id1, id0])
    obtain ⟨first, second⟩ := bytes_manufacturer low high
    refine ⟨rfl, ?_, rfl, congrArg Hex.Reading.complete spelled⟩
    simp only [sent, spelled, first, second]
    rfl
  · cases found

theorem sent_congr (manufacturer : address.manufacturer = other.manufacturer)
    (id : address.id = other.id) (version : address.version = other.version)
    (deviceType : address.deviceType = other.deviceType) : address.sent = other.sent := by
  rw [sent, sent, manufacturer, id, version, deviceType]

end Address

theorem Frame.Fault.message_ne_nil (fault : Fault) : fault.message ≠ [] := by
  cases fault with
  | empty | noAddress => decide +kernel
  | missingBytes | tooShort | notHex =>
      exact List.append_ne_nil_of_right_ne_nil _ (by decide +kernel)

/-- An address stands behind the length byte and the control field. -/
theorem Frame.ofBytes_addressed (accepted : ofBytes bytes signal = .ok frame) :
    frame.signal = signal ∧ Address.ofBytes? ((bytes.drop 2).take Address.length) =
      some frame.address := by
  obtain ⟨_, _, address, found, rfl⟩ := ofBytes_ok_iff.mp accepted
  unfold Address.read? at found
  split at found
  · cases found
  · exact ⟨rfl, found⟩

/-- The length byte counts a control field and an address at least, and no more bytes than
follow it. -/
def Frame.IsWhole (bytes : List UInt8) : Prop :=
  ∃ announced following, bytes = announced :: following ∧ 9 ≤ announced.toNat ∧
    announced.toNat ≤ following.length

theorem Frame.isWhole_iff :
    IsWhole bytes ↔
      declaredSize bytes ≤ bytes.length ∧ 2 + Address.length ≤ declaredSize bytes := by
  have address : Address.length = 8 := rfl
  constructor
  · rintro ⟨announced, following, rfl, long, whole⟩
    simp only [declaredSize, List.headD_cons, List.length_cons]
    omega
  · rintro ⟨whole, long⟩
    cases bytes with
    | nil => simp [declaredSize] at whole
    | cons announced following =>
        simp only [declaredSize, List.headD_cons, List.length_cons] at whole long
        exact ⟨announced, following, rfl, by omega, by omega⟩

theorem Frame.ofBytes_ok_iff_isWhole :
    (∃ frame, ofBytes bytes signal = .ok frame) ↔ IsWhole bytes := by
  rw [isWhole_iff]
  constructor
  · rintro ⟨frame, accepted⟩
    obtain ⟨whole, long, -⟩ := ofBytes_ok_iff.mp accepted
    exact ⟨whole, long⟩
  · rintro ⟨whole, long⟩
    obtain ⟨address, found, -⟩ := Address.read?_of_room (Nat.le_trans long whole)
    exact ⟨_, ofBytes_ok_iff.mpr ⟨whole, long, address, found, rfl⟩⟩

/-- What passes the checks of the length has room for an address. -/
theorem Frame.ofBytes_ne_noAddress (bytes : List UInt8) (signal : Int) :
    ofBytes bytes signal ≠ .error .noAddress := by
  cases bytes with
  | nil => nofun
  | cons announced following =>
      unfold ofBytes
      by_cases missing : following.length < announced.toNat
      · simp [missing]
      · by_cases short : announced.toNat < 1 + Address.length
        · simp [missing, short]
        · have room : 2 + Address.length ≤ (announced :: following).length := by
            rw [List.length_cons]
            omega
          obtain ⟨address, found, -⟩ := Address.read?_of_room room
          simp [missing, short, found]

/-- Where telegrams are received: the frame that was built last, and why the last telegram that
became none was refused. -/
structure Receiver where
  frame : Frame
  error : Text
deriving DecidableEq, Repr

namespace Receiver

variable {receiver : Receiver}

def refuse (receiver : Receiver) (fault : Frame.Fault) : Receiver :=
  { receiver with error := fault.message }

/-- The parts of a frame are put in one after another. -/
def fill (receiver : Receiver) (bytes : List UInt8) (address : Address) (signal : Int) : Receiver :=
  let received := { receiver with frame := { receiver.frame with bytes } }
  let addressed := { received with frame := { received.frame with address } }
  { addressed with frame := { addressed.frame with signal } }

/-- Builds a frame where the last one stands; false if the telegram is refused. -/
def take (receiver : Receiver) (bytes : List UInt8) (signal : Int) : Bool × Receiver :=
  match bytes with
  | [] => (false, receiver.refuse .empty)
  | announced :: following =>
      if following.length < announced.toNat then
        (false, receiver.refuse (.missingBytes announced.toNat following.length))
      else if announced.toNat < 1 + Address.length then
        (false, receiver.refuse (.tooShort announced.toNat))
      else match Address.read? bytes 2 with
        | none => (false, receiver.refuse .noAddress)
        | some address => (true, receiver.fill bytes address signal)

theorem take_eq (receiver : Receiver) (bytes : List UInt8) (signal : Int) :
    receiver.take bytes signal =
      match Frame.ofBytes bytes signal with
      | .error fault => (false, receiver.refuse fault)
      | .ok frame => (true, { receiver with frame }) := by
  cases bytes with
  | nil => rfl
  | cons announced following =>
      unfold take Frame.ofBytes
      by_cases missing : following.length < announced.toNat
      · simp only [missing, if_true]
      · by_cases short : announced.toNat < 1 + Address.length
        · simp only [missing, short, if_false, if_true]
        · simp only [missing, short, if_false]
          cases Address.read? (announced :: following) 2 <;> rfl

theorem take_accepts_iff :
    (receiver.take bytes signal).1 = true ↔
      Frame.ofBytes bytes signal = .ok (receiver.take bytes signal).2.frame := by
  rw [take_eq]
  cases Frame.ofBytes bytes signal with
  | error fault => exact ⟨nofun, nofun⟩
  | ok frame => exact ⟨fun _ => rfl, fun _ => rfl⟩

theorem take_error (taken : (receiver.take bytes signal).1 = true) :
    (receiver.take bytes signal).2.error = receiver.error := by
  rw [take_eq] at taken ⊢
  cases outcome : Frame.ofBytes bytes signal with
  | error fault =>
      rw [outcome] at taken
      contradiction
  | ok frame => rfl

theorem take_isWhole_iff : (receiver.take bytes signal).1 = true ↔ Frame.IsWhole bytes := by
  rw [← @Frame.ofBytes_ok_iff_isWhole bytes signal, take_eq]
  cases Frame.ofBytes bytes signal with
  | error fault => exact ⟨nofun, fun ⟨_, accepted⟩ => nomatch accepted⟩
  | ok frame => exact ⟨fun _ => ⟨frame, rfl⟩, fun _ => rfl⟩

theorem take_refused (refused : (receiver.take bytes signal).1 = false) :
    ∃ fault, Frame.ofBytes bytes signal = .error fault ∧
      (receiver.take bytes signal).2 = receiver.refuse fault := by
  rw [take_eq] at refused ⊢
  cases outcome : Frame.ofBytes bytes signal with
  | error fault => exact ⟨fault, rfl, rfl⟩
  | ok frame =>
      rw [outcome] at refused
      contradiction

/-- What a receiver holds of a telegram that it took. -/
structure Holds (receiver : Receiver) (bytes : List UInt8) (signal : Int) : Prop where
  whole : receiver.frame.bytes = bytes
  signal : receiver.frame.signal = signal
  payloadOffset : receiver.frame.payloadOffset = 10
  payloadInside : receiver.frame.payloadOffset ≤ bytes.length
  address : receiver.frame.address.bytes = (bytes.drop 2).take 8
  sent : receiver.frame.address.sent = (bytes.drop 2).take 8
  digits : receiver.frame.address.id.length = 8 ∧
    (Hex.read receiver.frame.address.id).complete = true

theorem holds_of_ofBytes (accepted : Frame.ofBytes bytes signal = .ok receiver.frame) :
    receiver.Holds bytes signal := by
  obtain ⟨same, offset, room⟩ := Frame.ofBytes_ok accepted
  obtain ⟨signal, found⟩ := Frame.ofBytes_addressed accepted
  obtain ⟨address, sent, digits⟩ := Address.sent_of_ofBytes? found
  exact
    { whole := same
      signal
      payloadOffset := offset
      payloadInside := by rw [offset]; exact room
      address
      sent
      digits }

/-- A telegram is taken if its length byte counts a control field and an address and no more
than what follows, and for no other cause it is refused. Then the frame holds all of it, and the
parts of the address tell the bytes it was sent as. A refused telegram leaves the frame alone. -/
theorem take_exact (receiver : Receiver) (bytes : List UInt8) (signal : Int) :
    ((receiver.take bytes signal).1 = true ↔ Frame.IsWhole bytes) ∧
      Frame.ofBytes bytes signal ≠ .error .noAddress ∧
      ((receiver.take bytes signal).1 = false →
        (receiver.take bytes signal).2.frame = receiver.frame ∧
          (receiver.take bytes signal).2.error ≠ [] ∧
          ∃ fault, Frame.ofBytes bytes signal = .error fault ∧
            (receiver.take bytes signal).2.error = fault.message) ∧
      ((receiver.take bytes signal).1 = true →
        Frame.ofBytes bytes signal = .ok (receiver.take bytes signal).2.frame ∧
          (receiver.take bytes signal).2.error = receiver.error ∧
          (receiver.take bytes signal).2.Holds bytes signal) ∧
      ∀ other otherSignal frame otherFrame,
        Frame.ofBytes bytes signal = .ok frame →
        Frame.ofBytes other otherSignal = .ok otherFrame →
        frame.address.manufacturer = otherFrame.address.manufacturer →
        frame.address.id = otherFrame.address.id →
        frame.address.version = otherFrame.address.version →
        frame.address.deviceType = otherFrame.address.deviceType →
          frame.address.bytes = otherFrame.address.bytes ∧
            (bytes.drop 2).take 8 = (other.drop 2).take 8 := by
  refine ⟨take_isWhole_iff, Frame.ofBytes_ne_noAddress bytes signal, fun refused => ?_,
    fun taken => ?_, ?_⟩
  · obtain ⟨fault, rejected, left⟩ := take_refused refused
    rw [left]
    exact ⟨rfl, Frame.Fault.message_ne_nil fault, fault, rejected, rfl⟩
  · have accepted := take_accepts_iff.mp taken
    exact ⟨accepted, take_error taken, holds_of_ofBytes accepted⟩
  · intro other otherSignal frame otherFrame accepted otherAccepted manufacturer id version
      deviceType
    obtain ⟨-, found⟩ := Frame.ofBytes_addressed accepted
    obtain ⟨-, otherFound⟩ := Frame.ofBytes_addressed otherAccepted
    obtain ⟨address, sent, -⟩ := Address.sent_of_ofBytes? found
    obtain ⟨otherAddress, otherSent, -⟩ := Address.sent_of_ofBytes? otherFound
    have same := Address.sent_congr manufacturer id version deviceType
    rw [sent, otherSent] at same
    exact ⟨by rw [address, otherAddress, same], same⟩

/-- Digits of a number that are not decimal tell its bytes as well. -/
example : (Address.mk 0x5068 "fedcba0f" 0x74 0x62 []).sent =
    [0x68, 0x50, 0x0F, 0xBA, 0xDC, 0xFE, 0x74, 0x62] := by
  decide +kernel

end Receiver

end MeterTelegram
