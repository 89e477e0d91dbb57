import SiliconSwitch.Transport.ClientSynchronizer
import SiliconSwitch.Transport.Udp
import SiliconSwitch.Visualization.Topology

/-!
# The observer client

`ObserverClient::consume_datagram`: parse the update, work out the scene it
would give, and adopt that scene only if the synchronizer applies the update.
`receive_next` consumes what its buffer takes of the next datagram.

* `consumeUpdate_of_candidate` — an update with a readable scene goes to the
  synchronizer, whose result decides about the scene;
* `consumeDatagram_serialize` — a delivered update is consumed as it was sent;
* `receiveNext_serialize`     — and the buffer of `receive_next` holds it.
-/

namespace SiliconSwitch.Visualization

open SiliconSwitch.Routing SiliconSwitch.Transport

inductive ObserverResult
  | appliedSnapshot
  | appliedDelta
  | ignored
  | resyncRequired
  | malformedUpdate
  | malformedScene
  | networkError
deriving DecidableEq

structure ObserverClient where
  synchronizer : ClientSynchronizer
  scene : TopologyScene
deriving DecidableEq

namespace ObserverClient

def create : ObserverClient := ⟨ClientSynchronizer.create, TopologyScene.empty⟩

/-- The scene that the update would give, none if its payload cannot be read. -/
def candidate (client : ObserverClient) (update : StateUpdate) : Option TopologyScene :=
  match update.type with
  | .snapshot => TopologyScene.parseSnapshot update.payload
  | .delta => client.scene.applyDelta update.payload
  | _ => some client.scene

/-- `consume_datagram` once the update is parsed. -/
def consumeUpdate (client : ObserverClient) (update : StateUpdate) (receivedAt : TimePoint) :
    ObserverResult × ObserverClient :=
  match client.candidate update with
  | none => (.malformedScene, client)
  | some candidate =>
    match client.synchronizer.consume update receivedAt with
    | (.appliedSnapshot, synchronizer) => (.appliedSnapshot, ⟨synchronizer, candidate⟩)
    | (.appliedDelta, synchronizer) => (.appliedDelta, ⟨synchronizer, candidate⟩)
    | (.acceptedHeartbeat, synchronizer) | (.ignoredDuplicate, synchronizer)
    | (.ignoredStale, synchronizer) => (.ignored, { client with synchronizer })
    | (.needsSnapshot, synchronizer) | (.sequenceGap, synchronizer)
    | (.revisionMismatch, synchronizer) => (.resyncRequired, { client with synchronizer })

def consumeDatagram (client : ObserverClient) (bytes : List UInt8) (receivedAt : TimePoint) :
    ObserverResult × ObserverClient :=
  match StateUpdate.parse bytes with
  | .error _ => (.malformedUpdate, client)
  | .ok update => client.consumeUpdate update receivedAt

/-- `receive_next`, of the next datagram on its way to the socket. -/
def receiveNext (client : ObserverClient) (incoming : Except UdpError UdpDatagram)
    (receivedAt : TimePoint) : ObserverResult × ObserverClient :=
  match UdpSocket.receive (StateUpdate.headerSize + StateUpdate.maximumPayloadSize) incoming with
  | .error _ => (.networkError, client)
  | .ok datagram => client.consumeDatagram datagram.payload receivedAt

-- ---------------------------------------------------------------------------
-- What a datagram can do
-- ---------------------------------------------------------------------------

/-- Whether the payload of the update can be read as its type asks. -/
def readable (update : StateUpdate) : Bool :=
  match update.type with
  | .snapshot | .delta => (TopologyScene.parseSnapshot update.payload).isSome
  | _ => true

/-- An update gives a scene exactly if its payload can be read. -/
theorem candidate_isSome (client : ObserverClient) (update : StateUpdate) :
    (client.candidate update).isSome = readable update := by
  unfold candidate readable
  cases update.type with
  | delta => exact TopologyScene.applyDelta_isSome client.scene update.payload
  | snapshot | heartbeat | resyncRequest => rfl

theorem readable_of_candidate {client : ObserverClient} {update : StateUpdate}
    {scene : TopologyScene} (h : client.candidate update = some scene) :
    readable update = true := by
  rw [← candidate_isSome client, h]
  rfl

/-- Whether the synchronizer applies the update, so that the scene is adopted. -/
def adopts : SynchronizationResult → Bool
  | .appliedSnapshot | .appliedDelta => true
  | _ => false

/-- A serialized update arrives as what it was. -/
theorem consumeDatagram_serialize (client : ObserverClient) (update : StateUpdate)
    (receivedAt : TimePoint) :
    client.consumeDatagram update.serialize receivedAt = client.consumeUpdate update receivedAt := by
  unfold consumeDatagram
  rw [StateUpdate.parse_serialize]

/-- The buffer holds any update. -/
theorem receiveNext_serialize {datagram : UdpDatagram} {update : StateUpdate}
    (h : datagram.payload = update.serialize) (client : ObserverClient) (receivedAt : TimePoint) :
    client.receiveNext (.ok datagram) receivedAt = client.consumeUpdate update receivedAt := by
  have hfits : datagram.payload.length ≤
      StateUpdate.headerSize + StateUpdate.maximumPayloadSize := by
    rw [h, StateUpdate.length_serialize]
    exact Nat.add_le_add_left update.payload_le _
  rw [receiveNext, UdpSocket.receive]
  dsimp only
  rw [List.take_of_length_le hfits, h, consumeDatagram_serialize]

/-- An update with a readable scene goes to the synchronizer. -/
theorem consumeUpdate_of_candidate {client : ObserverClient} {update : StateUpdate}
    {scene : TopologyScene} (h : client.candidate update = some scene) (receivedAt : TimePoint) :
    (client.consumeUpdate update receivedAt).2.synchronizer =
        (client.synchronizer.consume update receivedAt).2 ∧
      (client.consumeUpdate update receivedAt).2.scene =
        if adopts (client.synchronizer.consume update receivedAt).1 then scene
        else client.scene := by
  unfold consumeUpdate
  rw [h]
  dsimp only
  obtain ⟨result, synchronizer⟩ := client.synchronizer.consume update receivedAt
  cases result <;> exact ⟨rfl, rfl⟩

/-- An update whose scene cannot be read changes nothing. -/
theorem consumeUpdate_of_malformed {client : ObserverClient} {update : StateUpdate}
    (h : client.candidate update = none) (receivedAt : TimePoint) :
    client.consumeUpdate update receivedAt = (.malformedScene, client) := by
  unfold consumeUpdate
  rw [h]

/-- Only an update that does not parse is a malformed one. -/
theorem consumeDatagram_eq_malformed_iff (client : ObserverClient) (bytes : List UInt8)
    (receivedAt : TimePoint) :
    (client.consumeDatagram bytes receivedAt).1 = .malformedUpdate ↔
      ¬ ∃ update, StateUpdate.parse bytes = .ok update := by
  unfold consumeDatagram
  split
  · rename_i reason hparse
    simp [hparse]
  · rename_i update hparse
    have hresult : (client.consumeUpdate update receivedAt).1 ≠ .malformedUpdate := by
      unfold consumeUpdate
      split
      · simp
      · split <;> simp
    simp [hparse, hresult]

end ObserverClient

end SiliconSwitch.Visualization
