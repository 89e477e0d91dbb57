import SiliconSwitch.Transport.Tcp

/-!
# Datagrams

`UdpSocket::receive`: the buffer of the call takes the first octets of the datagram,
and the rest of it is discarded without an error.

* `accepted_receive_iff` — a format whose messages fit the buffer is read off the whole
  datagram, unless the buffer ends with a message and the datagram does not.
-/

namespace SiliconSwitch.Transport

structure UdpError where
  socketError : SocketError
deriving DecidableEq

structure UdpDatagram where
  sourceAddress : List UInt8
  sourcePort : UInt16
  payload : List UInt8
deriving DecidableEq

namespace UdpSocket

/-- What `receive` returns of the next datagram on its way to the socket, or of the error
that `recvfrom` meets. -/
def receive (maximumSize : Nat) (incoming : Except UdpError UdpDatagram) :
    Except UdpError UdpDatagram :=
  match incoming with
  | .error error => .error error
  | .ok datagram => .ok { datagram with payload := datagram.payload.take maximumSize }

/-- A message that fills the buffer, and more octets behind it. -/
def Overlong (Message : List UInt8 → Prop) (maximumSize : Nat) (bytes : List UInt8) : Prop :=
  ∃ message trailing, Message message ∧ message.length = maximumSize ∧ trailing ≠ [] ∧
    bytes = message ++ trailing

theorem overlong_iff {Message : List UInt8 → Prop} {maximumSize : Nat} {bytes : List UInt8} :
    Overlong Message maximumSize bytes ↔
      maximumSize < bytes.length ∧ Message (bytes.take maximumSize) := by
  constructor
  · rintro ⟨message, trailing, hmessage, rfl, hne, rfl⟩
    rw [List.take_left', List.length_append]
    · exact ⟨Nat.lt_add_of_pos_right (List.length_pos_iff.mpr hne), hmessage⟩
    · rfl
  · rintro ⟨hlong, hmessage⟩
    refine ⟨bytes.take maximumSize, bytes.drop maximumSize, hmessage, ?_, ?_, ?_⟩
    · exact List.length_take_of_le hlong.le
    · rw [← List.length_pos_iff, List.length_drop]
      omega
    · exact (List.take_append_drop maximumSize bytes).symm

/-- **When the buffer decides as the whole datagram would**: for messages that fit in it,
exactly if the datagram is not an overlong one. -/
theorem accepted_receive_iff {Message : List UInt8 → Prop} {maximumSize : Nat}
    (hfits : ∀ bytes, Message bytes → bytes.length ≤ maximumSize) (bytes : List UInt8) :
    (Message (bytes.take maximumSize) ↔ Message bytes) ↔
      ¬ Overlong Message maximumSize bytes := by
  rw [overlong_iff]
  by_cases hlong : maximumSize < bytes.length
  · have hrefused : ¬ Message bytes := fun hmessage =>
      absurd (hfits bytes hmessage) (Nat.not_le.mpr hlong)
    rw [iff_false_right hrefused, and_iff_right hlong]
  · rw [List.take_of_length_le (Nat.le_of_not_lt hlong)]
    simp only [hlong, false_and, not_false_eq_true]

end UdpSocket

end SiliconSwitch.Transport
