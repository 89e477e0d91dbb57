import SiliconSwitch.Discovery.DiscoveryService
import SiliconSwitch.Visualization.ObserverClient

/-!
# Whole datagrams

The receive buffers of the observer and of the discovery service have the size of the
longest message, so a longer datagram is cut down to a message that it is not.

* `receiveNext_malformed_iff` — which datagrams the observer calls malformed;
* `whole_datagrams_iff`       — which datagrams are judged as a whole.
-/

namespace SiliconSwitch.Discovery

open SiliconSwitch.Routing SiliconSwitch.Transport SiliconSwitch.Visualization

/-- The size that `receive_next` passes to `receive`. -/
def updateSize : Nat := StateUpdate.headerSize + StateUpdate.maximumPayloadSize

/-- A byte string that `StateUpdate::parse` accepts. -/
def AcceptedUpdate (bytes : List UInt8) : Prop := ∃ update, StateUpdate.parse bytes = .ok update

theorem AcceptedUpdate.length_le {bytes : List UInt8} (h : AcceptedUpdate bytes) :
    bytes.length ≤ updateSize := by
  obtain ⟨update, hparse⟩ := h
  rw [← StateUpdate.serialize_of_parse hparse, StateUpdate.length_serialize, updateSize]
  exact Nat.add_le_add_left update.payload_le _

theorem overlong_update_iff {bytes : List UInt8} :
    UdpSocket.Overlong AcceptedUpdate updateSize bytes ↔
      ∃ (update : StateUpdate) (trailing : List UInt8),
        update.payload.length = StateUpdate.maximumPayloadSize ∧ trailing ≠ [] ∧
          bytes = update.serialize ++ trailing := by
  constructor
  · rintro ⟨start, trailing, ⟨update, hparse⟩, hlength, hne, hbytes⟩
    rw [← StateUpdate.serialize_of_parse hparse] at hbytes hlength
    rw [StateUpdate.length_serialize, updateSize] at hlength
    exact ⟨update, trailing, Nat.add_left_cancel hlength, hne, hbytes⟩
  · rintro ⟨update, trailing, hpayload, hne, hbytes⟩
    refine ⟨update.serialize, trailing, ⟨update, StateUpdate.parse_serialize update⟩, ?_, hne,
      hbytes⟩
    rw [StateUpdate.length_serialize, hpayload, updateSize]

/-- `receive_next` calls malformed what does not parse in its buffer. -/
theorem receiveNext_malformed_iff (observer : ObserverClient) (datagram : UdpDatagram)
    (receivedAt : TimePoint) :
    (observer.receiveNext (.ok datagram) receivedAt).1 = .malformedUpdate ↔
      ¬ AcceptedUpdate (datagram.payload.take updateSize) :=
  observer.consumeDatagram_eq_malformed_iff _ receivedAt

/-- The responder, besides, calls a query malformed that it has no advertisement to answer
with. -/
theorem respondOnce_whole_iff (responder : DiscoveryResponder) (send : Send)
    (datagram : UdpDatagram) :
    (responder.respondOnce send (.ok datagram) ≠ .error .malformedMessage ↔
        Accepted datagram.payload) ↔
      ¬ UdpSocket.Overlong Accepted receiveSize datagram.payload ∧
        ¬ (responder.advertisement.type = .query ∧
          ∃ message, DiscoveryMessage.parse datagram.payload = .ok message ∧
            message.type = .query) := by
  rw [Ne, respondOnce_malformed_iff]
  by_cases hwhole : Accepted datagram.payload
  · -- what parses as a whole is received as it is
    have hshort : ¬ UdpSocket.Overlong Accepted receiveSize datagram.payload := by
      rw [UdpSocket.overlong_iff, not_and_or]
      exact Or.inl (Nat.not_lt.mpr hwhole.length_le)
    rw [take_of_accepted hwhole, iff_true_right hwhole, and_iff_right hshort]
    obtain ⟨message, hparse⟩ := hwhole
    simp only [hparse, Except.ok.injEq, forall_eq', exists_eq_left', and_comm]
  · rw [iff_false_right hwhole, not_not]
    have hnone : ¬ ∃ message, DiscoveryMessage.parse datagram.payload = .ok message ∧
        message.type = .query := fun ⟨message, hparse, _⟩ => hwhole ⟨message, hparse⟩
    rw [and_iff_left fun h => hnone h.2, ← UdpSocket.accepted_receive_iff fun _ h => h.length_le,
      iff_false_right hwhole]
    constructor
    · rintro hmalformed ⟨message, hparse⟩
      -- a query that ends before the buffer does would parse as a whole
      have hquery := (hmalformed message hparse).1
      have hlength := length_of_parse hparse
      rw [(message.of_query hquery).2.2.2.2.2, List.length_nil, List.length_take] at hlength
      have hshort : datagram.payload.length ≤ receiveSize := by
        unfold receiveSize DiscoveryMessage.maximumNameSize at hlength ⊢
        omega
      rw [List.take_of_length_le hshort] at hparse
      exact hwhole ⟨message, hparse⟩
    · intro hrefused message hparse
      exact absurd ⟨message, hparse⟩ hrefused

/-- **Which datagrams are judged as a whole.** A call accepts a datagram, instead of calling it
malformed, exactly if `parse` accepts the whole of it, unless the datagram is a message of
maximum size with more octets behind it; and the responder, unless it is a query that it has
no advertisement to answer with. -/
theorem whole_datagrams_iff (datagram : UdpDatagram) :
    (∀ (observer : ObserverClient) (receivedAt : TimePoint),
      ((observer.receiveNext (.ok datagram) receivedAt).1 ≠ .malformedUpdate ↔
          ∃ update, StateUpdate.parse datagram.payload = .ok update) ↔
        ¬ ∃ (update : StateUpdate) (trailing : List UInt8),
          update.payload.length = StateUpdate.maximumPayloadSize ∧ trailing ≠ [] ∧
            datagram.payload = update.serialize ++ trailing) ∧
    (∀ (responder : DiscoveryResponder) (send : Send),
      (responder.respondOnce send (.ok datagram) ≠ .error .malformedMessage ↔
          ∃ message, DiscoveryMessage.parse datagram.payload = .ok message) ↔
        (¬ ∃ (message : DiscoveryMessage) (trailing : List UInt8),
          message.type = .advertisement ∧
            message.name.length = DiscoveryMessage.maximumNameSize ∧ trailing ≠ [] ∧
              datagram.payload = message.serialize ++ trailing) ∧
          ¬ (responder.advertisement.type = .query ∧
            ∃ message, DiscoveryMessage.parse datagram.payload = .ok message ∧
              message.type = .query)) ∧
    ∀ (octets : Nat) (destination : List UInt8) (port : UInt16) (requestId : UInt64),
      (DiscoveryClient.discoverOne (fun _ _ _ => .ok octets) destination port requestId
            (.ok datagram) ≠ .error .malformedMessage ↔
          ∃ message, DiscoveryMessage.parse datagram.payload = .ok message) ↔
        ¬ ∃ (message : DiscoveryMessage) (trailing : List UInt8),
          message.type = .advertisement ∧
            message.name.length = DiscoveryMessage.maximumNameSize ∧ trailing ≠ [] ∧
              datagram.payload = message.serialize ++ trailing := by
  rw [← overlong_update_iff, ← overlong_accepted_iff]
  refine ⟨fun observer receivedAt => ?_,
    fun responder send => respondOnce_whole_iff responder send datagram,
    fun octets destination port requestId => ?_⟩
  · rw [Ne, receiveNext_malformed_iff, not_not]
    exact UdpSocket.accepted_receive_iff (fun _ h => h.length_le) datagram.payload
  · rw [Ne, discoverOne_malformed_iff, not_not]
    exact UdpSocket.accepted_receive_iff (fun _ h => h.length_le) datagram.payload

open ServiceExample in
/-- An overlong advertisement is accepted by the client and does not parse. -/
theorem trailing_octet_accepted :
    ¬ (DiscoveryClient.discoverOne (fun _ _ _ => .ok 33) [] 9000 1 (.ok overlong) ≠
          .error .malformedMessage ↔
        ∃ parsed, DiscoveryMessage.parse overlong.payload = .ok parsed) := by
  have haccepted : DiscoveryClient.discoverOne (fun _ _ _ => .ok 33) [] 9000 1 (.ok overlong) ≠
      .error .malformedMessage := by decide +kernel
  have hlong : receiveSize < overlong.payload.length := by decide +kernel
  intro h
  exact Nat.not_le.mpr hlong (Accepted.length_le (h.mp haccepted))

end SiliconSwitch.Discovery
