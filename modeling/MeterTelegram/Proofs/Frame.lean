import MeterTelegram.Frame
import MeterTelegram.Proofs.Access
import MeterTelegram.Proofs.Journal

namespace MeterTelegram

/-! Telegrams that become frames: how long they are, what they print and that no
byte beyond their end is reached for. -/

open Buffer

variable {bytes : List UInt8} {offset : Nat} {signal : Int} {frame : Frame} {text : Text}

namespace Address

theorem ofBytes?_of_length (size : bytes.length = length) :
    ∃ address, ofBytes? bytes = some address ∧ address.bytes = bytes := by
  match bytes, size with
  | [_, _, _, _, _, _, _, _], _ => exact ⟨_, rfl, rfl⟩

theorem read?_of_room (room : offset + length ≤ bytes.length) :
    ∃ address, read? bytes offset = some address ∧ address.bytes.length = length := by
  have size : ((bytes.drop offset).take length).length = length := length_excerpt room
  obtain ⟨address, found, received⟩ := ofBytes?_of_length size
  exact ⟨address, by rw [read?, if_neg (Nat.not_lt_of_le room), found], by rw [received, size]⟩

def readChecked (buffer : List UInt8) (offset : Nat) : Except Stray (Option Address) :=
  if buffer.length < offset + length then return none
  else do
    let received ← fetchFrom buffer offset length
    return ofBytes? received

theorem readChecked_eq (buffer : List UInt8) (offset : Nat) :
    readChecked buffer offset = .ok (read? buffer offset) := by
  unfold readChecked read?
  split
  · rfl
  · rw [fetchFrom_of_room (by omega)]
    rfl

end Address

namespace Frame

/-- The length byte counts the bytes that follow it. -/
def declaredSize (bytes : List UInt8) : Nat :=
  (bytes.headD 0).toNat + 1

theorem ofBytes_ok_iff :
    ofBytes bytes signal = .ok frame ↔
      declaredSize bytes ≤ bytes.length ∧ 2 + Address.length ≤ declaredSize bytes ∧
        ∃ address, Address.read? bytes 2 = some address ∧ frame = { bytes, address, signal } := by
  cases bytes with
  | nil => simp [ofBytes, declaredSize]
  | cons announced following =>
      simp only [ofBytes, declaredSize, List.headD_cons, List.length_cons]
      by_cases missing : following.length < announced.toNat
      · rw [if_pos missing]
        constructor
        · intro received
          contradiction
        · intro received
          exact absurd received.1 (by omega)
      · by_cases short : announced.toNat < 1 + Address.length
        · rw [if_neg missing, if_pos short]
          constructor
          · intro received
            contradiction
          · intro received
            exact absurd received.2.1 (by omega)
        · rw [if_neg missing, if_neg short]
          have whole : announced.toNat + 1 ≤ following.length + 1 := by omega
          have long : 2 + Address.length ≤ announced.toNat + 1 := by omega
          cases found : Address.read? (announced :: following) 2 with
          | none => simp
          | some address => simp [whole, long, eq_comm]

/-- A frame holds the length byte, the control field and an address of full length. -/
theorem ofBytes_ok (received : ofBytes bytes signal = .ok frame) :
    frame.bytes = bytes ∧ frame.payloadOffset = 2 + Address.length ∧
      2 + Address.length ≤ bytes.length := by
  obtain ⟨whole, long, address, found, rfl⟩ := ofBytes_ok_iff.mp received
  have room : 2 + Address.length ≤ bytes.length := Nat.le_trans long whole
  obtain ⟨same, again, size⟩ := Address.read?_of_room room
  obtain rfl := Option.some.inj (found.symm.trans again)
  exact ⟨rfl, by rw [payloadOffset, size, Nat.add_comm], room⟩

def arrivalChecked (frame : Frame) : Except Stray (List Entry) := do
  let address := frame.address
  let control ← fetch frame.bytes 1
  let low ← fetch frame.bytes 2
  let high ← fetch frame.bytes 3
  return [
    .trace ("(frame) " ++ Hex.lowerByte control ++ " dll-c (" ++
      controlText control.toNat ++ ")\n"),
    .trace ("(frame) " ++ Hex.lowerByte low ++ Hex.lowerByte high ++ " dll-mfct (" ++
      Manufacturer.letters address.manufacturer.toNat ++ ") " ++
      Manufacturer.name address.manufacturer.toNat ++ "\n"),
    .trace ("(frame) dll-id (" ++ address.id ++ ")\n"),
    .trace ("(frame) " ++ Hex.lowerByte address.version ++ " dll-version\n"),
    .trace ("(frame) " ++ Hex.lowerByte address.deviceType ++ " dll-type (" ++
      address.medium.description ++ ")\n"),
    .payload ("(frame) received " ++ frame.text) frame.bytes ]

theorem arrivalChecked_eq (room : 4 ≤ frame.bytes.length) :
    frame.arrivalChecked = .ok frame.arrival := by
  rw [arrivalChecked, fetch_of_lt (by omega), fetch_of_lt (by omega), fetch_of_lt (by omega)]
  rfl

def ofBytesChecked (bytes : List UInt8) (signal : Int) : Checked Fault Frame :=
  if bytes.length = 0 then throw .empty
  else do
    let announced ← fetch bytes 0
    let following := bytes.length - 1
    if following < announced.toNat then throw (.missingBytes announced.toNat following)
    else if announced.toNat < 1 + Address.length then throw (.tooShort announced.toNat)
    else match ← Address.readChecked bytes 2 with
      | none => throw .noAddress
      | some address => return { bytes, address, signal }

theorem ofBytesChecked_eq (bytes : List UInt8) (signal : Int) :
    ofBytesChecked bytes signal = settled (ofBytes bytes signal) := by
  cases bytes with
  | nil => rfl
  | cons announced following =>
      have first : fetch (announced :: following) 0 = .ok announced := rfl
      have occupied : (announced :: following).length ≠ 0 := Nat.succ_ne_zero _
      rw [ofBytesChecked, if_neg occupied, first, ofBytes, Address.readChecked_eq]
      change (if following.length < announced.toNat then _ else _ : Checked Fault Frame) = _
      by_cases missing : following.length < announced.toNat
      · rw [if_pos missing, if_pos missing]
        rfl
      · rw [if_neg missing, if_neg missing]
        by_cases short : announced.toNat < 1 + Address.length
        · rw [if_pos short, if_pos short]
          rfl
        · rw [if_neg short, if_neg short]
          cases Address.read? (announced :: following) 2 <;> rfl

def receiveChecked (bytes : List UInt8) (signal : Int) :
    Except Stray (Journal Fault Frame) := do
  match ← (ofBytesChecked bytes signal).run with
  | .error fault => return .fail fault
  | .ok frame =>
      let arrival ← frame.arrivalChecked
      return ⟨arrival, .ok frame⟩

theorem receiveChecked_eq (bytes : List UInt8) (signal : Int) :
    receiveChecked bytes signal = .ok (receive bytes signal) := by
  rw [receiveChecked, ofBytesChecked_eq, receive]
  cases received : ofBytes bytes signal with
  | error fault => rfl
  | ok frame =>
      obtain ⟨same, _, room⟩ := ofBytes_ok received
      have long : 4 ≤ frame.bytes.length := by
        rw [same]
        exact Nat.le_trans (by decide) room
      simp only [settled, ExceptT.run_mk, bind, Except.bind, arrivalChecked_eq long]
      rfl

def receiveTextChecked (text : Text) (signal : Int) : Except Stray (Journal Fault Frame) :=
  if !Hex.isTelegram text then return .fail (.notHex text)
  else if !(Hex.read text).complete then return .fail (.notHex text)
  else receiveChecked (Hex.read text).bytes signal

theorem receiveTextChecked_eq (text : Text) (signal : Int) :
    receiveTextChecked text signal = .ok (receiveText text signal) := by
  unfold receiveTextChecked receiveText
  split
  · rfl
  · split
    · rfl
    · exact receiveChecked_eq ..

theorem ofBytes_of_receiveText (received : (receiveText text signal).outcome = .ok frame) :
    ofBytes (Hex.read text).bytes signal = .ok frame := by
  unfold receiveText at received
  split at received
  · cases received
  · split at received
    · cases received
    · unfold receive at received
      split at received
      · cases received
      · rename_i accepted
        cases received
        exact accepted

theorem receive_silent (bytes : List UInt8) (signal : Int) :
    (receive bytes signal).outputs = [] := by
  unfold receive
  split <;> rfl

theorem receiveText_silent (text : Text) (signal : Int) :
    (receiveText text signal).outputs = [] := by
  unfold receiveText
  split
  · rfl
  · split
    · rfl
    · exact receive_silent ..

end Frame

end MeterTelegram
