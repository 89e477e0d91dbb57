import SiliconSwitch.Library.ByteStream

/-!
# TCP connections

`TcpConnection` of `tcp.cpp`: its transfer loops and its frames, over a socket
whose calls transfer an arbitrary part of what they are given.

* `writes_sendFrame`           — a frame is the big-endian length and the payload;
* `receivesFrame_receiveFrame` — what `receive_frame` can end in.
-/

namespace SiliconSwitch.Transport

open SiliconSwitch.Library

inductive TcpErrorCode
  | systemError
  | disconnected
  | messageTooLarge
deriving DecidableEq

structure SocketError where
  code : Int
  message : String
deriving DecidableEq

structure TcpError where
  code : TcpErrorCode
  socketError : SocketError
deriving DecidableEq

def systemError (error : SocketError) : TcpError := ⟨.systemError, error⟩

def disconnected : TcpError := ⟨.disconnected, ⟨0, "peer disconnected"⟩⟩

def frameExceedsLength : TcpError := ⟨.messageTooLarge, ⟨0, "frame exceeds 32-bit length"⟩⟩

def receivedFrameTooLarge : TcpError := ⟨.messageTooLarge, ⟨0, "received frame too large"⟩⟩

namespace TcpConnection

def sendAll (bytes : List UInt8) : Transfer SocketError TcpError Unit :=
  sendBytes (some disconnected) systemError bytes

def receiveExact (size : Nat) :
    Transfer SocketError TcpError { bytes : List UInt8 // bytes.length = size } :=
  receiveBytes disconnected systemError size

def sendFrame (payload : List UInt8) : Transfer SocketError TcpError Unit :=
  if payload.length > 0xFFFFFFFF then Transfer.fail frameExceedsLength
  else do
    sendAll (putBigEndian (UInt32.ofNat payload.length) (zeros 4) 0)
    sendAll payload

/-- `value()` cannot throw: the header has four bytes. -/
def receiveFrame (maximumSize : Nat) : Transfer SocketError TcpError (List UInt8) := do
  let header ← receiveExact 4
  let length := readWithin UInt32 header.1 0 (by rw [header.2]; rfl)
  if length.toNat > maximumSize then Transfer.fail receivedFrameTooLarge
  else do
    let payload ← receiveExact length.toNat
    return payload.1

/-- A frame is its length, big-endian, and its payload. -/
theorem writes_sendFrame {payload : List UInt8} (h : payload.length < 256 ^ 4) :
    Writes (sendFrame payload) (frame payload) := by
  have hlength : ¬ payload.length > 0xFFFFFFFF := by omega
  have hheader : putBigEndian (UInt32.ofNat payload.length) (zeros 4) 0 =
      toBigEndian 4 payload.length := by
    have hwritten : putBigEndian (UInt32.ofNat payload.length) ([] ++ zeros 4) 0 = _ :=
      putBigEndian_zeros _ rfl (Nat.le_refl 4)
    rw [List.nil_append, List.nil_append] at hwritten
    rw [hwritten, WireInteger.size_uint32, Nat.sub_self, zeros_zero, List.append_nil]
    exact encode_ofNat (α := UInt32) h
  rw [sendFrame, if_neg hlength, hheader]
  exact (writes_sendBytes _ _ _).then (writes_sendBytes _ _ _)

/-- The number in a header is the one its four bytes spell. -/
theorem toNat_readWithin_header (header : { bytes : List UInt8 // bytes.length = 4 }) :
    (readWithin UInt32 header.1 0 (by rw [header.2]; rfl)).toNat = fromBigEndian header.1 := by
  have hread := toNat_readWithin (α := UInt32) (show 0 + 4 ≤ header.1.length by rw [header.2])
  rw [List.drop_zero, WireInteger.size_uint32, List.take_of_length_le (by rw [header.2])] at hread
  exact hread

theorem receiveFrame_eq (maximumSize : Nat) :
    receiveFrame maximumSize =
      Library.receiveFrame disconnected receivedFrameTooLarge systemError maximumSize := by
  apply congrArg (Transfer.bind (receiveBytes disconnected systemError 4))
  funext header
  dsimp only
  rw [toNat_readWithin_header]
  rfl

/-- What `receive_frame` can end in. -/
theorem receivesFrame_receiveFrame (maximumSize : Nat) (socket : Socket SocketError)
    (hfair : Fair socket.outcomes) :
    ReceivesFrame disconnected receivedFrameTooLarge maximumSize socket
      (receiveFrame maximumSize socket) := by
  rw [receiveFrame_eq]
  exact Library.receivesFrame_receiveFrame _ _ _ _ socket hfair

end TcpConnection

end SiliconSwitch.Transport
