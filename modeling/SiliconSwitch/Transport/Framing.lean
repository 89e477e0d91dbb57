import SiliconSwitch.Transport.ControlClient

/-!
# Framing over TCP

The switch and the Python client put a payload on a stream behind its 4-byte
length. `framing_transparent` says that neither the chunks in which a stream is
sent and received, nor interrupted calls, show in what `receive_frame` returns,
whichever side sends and whichever receives.
-/

namespace SiliconSwitch.Transport

open SiliconSwitch.Library

/-- The largest frame that the client receives. -/
def maximumResponseSize : Nat :=
  ControlClient.ControlMessage.headerSize + ControlClient.ControlMessage.maximumPayload

/-- **Framing is transparent to chunking**, from the switch to the switch, and to
and from the client, whose bound is the size of a response. -/
theorem framing_transparent {maximumSize : Nat} {payloads : List (List UInt8)}
    (hpayloads : ∀ payload ∈ payloads, payload.length ≤ maximumSize ∧ payload.length < 2 ^ 32) :
    Transparent TcpConnection.sendFrame (TcpConnection.receiveFrame maximumSize) disconnected
        payloads ∧
      Transparent ControlClient.sendFrame (TcpConnection.receiveFrame maximumSize) disconnected
        payloads ∧
      (maximumSize ≤ maximumResponseSize →
        Transparent TcpConnection.sendFrame ControlClient.receiveFrame
            (.connectionError "control connection closed") payloads ∧
          Transparent ControlClient.sendFrame ControlClient.receiveFrame
            (.connectionError "control connection closed") payloads) := by
  have hbound : ∀ payload ∈ payloads, payload.length < 256 ^ 4 :=
    fun payload hmem => (hpayloads payload hmem).2
  have hswitch : ∀ payload ∈ payloads, Writes (TcpConnection.sendFrame payload) (frame payload) :=
    fun payload hmem => TcpConnection.writes_sendFrame (hbound payload hmem)
  have hclient : ∀ payload ∈ payloads, Writes (ControlClient.sendFrame payload) (frame payload) :=
    fun payload hmem => ControlClient.writes_sendFrame (hbound payload hmem)
  refine ⟨?_, ?_, fun hmaximum => ?_⟩
  · exact transparent_of hswitch (TcpConnection.receivesFrame_receiveFrame maximumSize) hpayloads
  · exact transparent_of hclient (TcpConnection.receivesFrame_receiveFrame maximumSize) hpayloads
  · have hresponses : ∀ payload ∈ payloads,
        payload.length ≤ maximumResponseSize ∧ payload.length < 256 ^ 4 :=
      fun payload hmem => ⟨(hpayloads payload hmem).1.trans hmaximum, hbound payload hmem⟩
    exact ⟨transparent_of hswitch ControlClient.receivesFrame_receiveFrame hresponses,
      transparent_of hclient ControlClient.receivesFrame_receiveFrame hresponses⟩

/-- An empty payload and one of two bytes. -/
theorem framing_transparent_short :
    Transparent TcpConnection.sendFrame (TcpConnection.receiveFrame 1024) disconnected
      [[], [4, 5]] :=
  (framing_transparent (by decide)).1

end SiliconSwitch.Transport
