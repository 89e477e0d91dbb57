import SiliconSwitch.Library.BigEndian

/-!
# Byte streams

A stream socket whose calls transfer an arbitrary part of what they are given, and
the loops that make whole transfers of them. Nothing here names a protocol.

A socket carries the outcomes of its next calls, so a program over it is a function;
one that runs out of outcomes is still `running`.

* `Writes transfer bytes` — the transfer puts `bytes` on the stream, or a part of
  them while it runs. `writes_sendBytes` proves it of the send loop, `Writes.then`
  of two transfers in a row.
* `Receives` — what one run of the receive loop can end in (`receives_receiveBytes`).
* `frame` — a payload behind its 4-byte length. `Delivers` is what successive
  receptions of frames give, `delivers_receiveMany` proves it of every receiver
  whose single reception satisfies `ReceivesFrame`.
-/

namespace SiliconSwitch.Library

-- ---------------------------------------------------------------------------
-- Sockets
-- ---------------------------------------------------------------------------

/-- What one call of `send` or `recv` does: a transfer of at most `count` bytes, a
call that a signal has interrupted, or an error. -/
inductive SocketOutcome (δ : Type)
  | transferred (count : Nat)
  | interrupted
  | failed (error : δ)

structure Socket (δ : Type) where
  /-- Of the calls to come. -/
  outcomes : List (SocketOutcome δ)
  /-- Everything sent so far. -/
  written : List UInt8
  /-- Everything still to be received before the peer ends the stream. -/
  incoming : List UInt8

/-- How far a transfer has come. -/
inductive Progress (ε α : Type)
  | running
  | failed (error : ε)
  | returned (value : α)

namespace Progress

variable {ε ε' α : Type}

def mapError (f : ε → ε') : Progress ε α → Progress ε' α
  | running => running
  | failed error => failed (f error)
  | returned value => returned value

end Progress

/-- A program over a socket. -/
def Transfer (δ ε α : Type) : Type := Socket δ → Progress ε α × Socket δ

namespace Transfer

variable {δ ε α β : Type}

def pure (value : α) : Transfer δ ε α := fun socket => (.returned value, socket)

def fail (error : ε) : Transfer δ ε α := fun socket => (.failed error, socket)

def bind (first : Transfer δ ε α) (next : α → Transfer δ ε β) : Transfer δ ε β := fun socket =>
  match first socket with
  | (.returned value, socket) => next value socket
  | (.failed error, socket) => (.failed error, socket)
  | (.running, socket) => (.running, socket)

def ofExcept : Except ε α → Transfer δ ε α
  | .ok value => pure value
  | .error error => fail error

instance : Monad (Transfer δ ε) where
  pure := pure
  bind := bind

end Transfer

section Loops

variable {δ ε ε' : Type}

/-- The loop around `send`. `ended` is the error of a call that sends nothing; a
loop without one calls again. -/
def sendLoop (ended : Option ε) (failed : δ → ε) :
    List (SocketOutcome δ) → List UInt8 → Socket δ → Progress ε Unit × Socket δ
  | [], bytes, socket =>
    (if bytes.isEmpty then .returned () else .running, { socket with outcomes := [] })
  | outcome :: rest, bytes, socket =>
    if bytes.isEmpty then (.returned (), { socket with outcomes := outcome :: rest })
    else
      match outcome with
      | .interrupted => sendLoop ended failed rest bytes socket
      | .failed error => (.failed (failed error), { socket with outcomes := rest })
      | .transferred count =>
        if count = 0 then
          match ended with
          | none => sendLoop ended failed rest bytes socket
          | some error => (.failed error, { socket with outcomes := rest })
        else
          sendLoop ended failed rest (bytes.drop count)
            { socket with written := socket.written ++ bytes.take count }

def sendBytes (ended : Option ε) (failed : δ → ε) (bytes : List UInt8) : Transfer δ ε Unit :=
  fun socket => sendLoop ended failed socket.outcomes bytes socket

/-- The loop around `recv`, which returns nothing at the end of the stream. -/
def receiveLoop (ended : ε) (failed : δ → ε) (size : Nat) :
    List (SocketOutcome δ) → { received : List UInt8 // received.length ≤ size } → Socket δ →
      Progress ε { bytes : List UInt8 // bytes.length = size } × Socket δ
  | [], received, socket =>
    if h : received.1.length < size then (.running, { socket with outcomes := [] })
    else
      (.returned ⟨received.1, Nat.le_antisymm received.2 (Nat.le_of_not_lt h)⟩,
       { socket with outcomes := [] })
  | outcome :: rest, received, socket =>
    if h : received.1.length < size then
      match outcome with
      | .interrupted => receiveLoop ended failed size rest received socket
      | .failed error => (.failed (failed error), { socket with outcomes := rest })
      | .transferred count =>
        let chunk := min count (size - received.1.length)
        if (socket.incoming.take chunk).isEmpty then
          (.failed ended, { socket with outcomes := rest })
        else
          receiveLoop ended failed size rest
            ⟨received.1 ++ socket.incoming.take chunk, by
              rw [List.length_append, List.length_take]
              omega⟩
            { socket with incoming := socket.incoming.drop chunk }
    else
      (.returned ⟨received.1, Nat.le_antisymm received.2 (Nat.le_of_not_lt h)⟩,
       { socket with outcomes := outcome :: rest })

def receiveBytes (ended : ε) (failed : δ → ε) (size : Nat) :
    Transfer δ ε { bytes : List UInt8 // bytes.length = size } :=
  fun socket => receiveLoop ended failed size socket.outcomes ⟨[], Nat.zero_le size⟩ socket

/-- Receive again and again, until a reception does not return. -/
def receiveMany {α : Type} (receive : Transfer δ ε α) :
    Nat → Socket δ → List α × Progress ε Unit × Socket δ
  | 0, socket => ([], .returned (), socket)
  | count + 1, socket =>
    match receive socket with
    | (.returned value, socket) =>
      let later := receiveMany receive count socket
      (value :: later.1, later.2)
    | (.failed error, socket) => ([], .failed error, socket)
    | (.running, socket) => ([], .running, socket)

end Loops

-- ---------------------------------------------------------------------------
-- Fair outcomes
-- ---------------------------------------------------------------------------

section Fairness

variable {δ : Type}

/-- A call transfers something or is interrupted. -/
def SocketOutcome.Fair : SocketOutcome δ → Prop
  | .transferred count => 0 < count
  | .interrupted => True
  | .failed _ => False

def Fair (outcomes : List (SocketOutcome δ)) : Prop := ∀ outcome ∈ outcomes, outcome.Fair

/-- The calls that are not interrupted. -/
def transfers : List (SocketOutcome δ) → Nat
  | [] => 0
  | .interrupted :: rest => transfers rest
  | _ :: rest => transfers rest + 1

theorem Fair.tail {outcome : SocketOutcome δ} {rest : List (SocketOutcome δ)}
    (h : Fair (outcome :: rest)) : Fair rest :=
  fun other hother => h other (List.mem_cons_of_mem _ hother)

end Fairness

-- ---------------------------------------------------------------------------
-- Sending
-- ---------------------------------------------------------------------------

section Sending

variable {δ ε : Type}

/-- What becomes of `bytes` that are to be sent. -/
inductive Sends (socket : Socket δ) (bytes : List UInt8) : Progress ε Unit × Socket δ → Prop
  | returned {after : Socket δ} (hwritten : after.written = socket.written ++ bytes)
    (hincoming : after.incoming = socket.incoming) (hfair : Fair after.outcomes)
    (hused : transfers socket.outcomes ≤ transfers after.outcomes + bytes.length) :
    Sends socket bytes (.returned (), after)
  | running {after : Socket δ} (part : List UInt8) (hpart : part <+: bytes)
    (hwritten : after.written = socket.written ++ part)
    (hincoming : after.incoming = socket.incoming)
    (hshort : transfers socket.outcomes < bytes.length) :
    Sends socket bytes (.running, after)

/-- On a fair socket the transfer sends exactly `bytes`. -/
def Writes (transfer : Transfer δ ε Unit) (bytes : List UInt8) : Prop :=
  ∀ socket : Socket δ, Fair socket.outcomes → Sends socket bytes (transfer socket)

/-- A call that is interrupted is made again. -/
theorem Sends.interrupted {socket : Socket δ} {rest : List (SocketOutcome δ)}
    {bytes : List UInt8} {result : Progress ε Unit × Socket δ}
    (h : Sends { socket with outcomes := rest } bytes result) :
    Sends { socket with outcomes := .interrupted :: rest } bytes result := by
  cases h with
  | returned hwritten hincoming hfair hused => exact .returned hwritten hincoming hfair hused
  | running part hpart hwritten hincoming hshort =>
    exact .running part hpart hwritten hincoming hshort

/-- After a call that takes `count` bytes, the others are to be sent. -/
theorem Sends.chunk {socket : Socket δ} {rest : List (SocketOutcome δ)} {count : Nat}
    {bytes : List UInt8} {result : Progress ε Unit × Socket δ} (hcount : 0 < count)
    (hbytes : bytes ≠ [])
    (h : Sends { socket with outcomes := rest, written := socket.written ++ bytes.take count }
      (bytes.drop count) result) :
    Sends { socket with outcomes := .transferred count :: rest } bytes result := by
  have hlength : 0 < bytes.length := List.length_pos_iff.mpr hbytes
  have hsplit : bytes.take count ++ bytes.drop count = bytes := List.take_append_drop count bytes
  have hrest : (bytes.drop count).length = bytes.length - count := List.length_drop
  cases h with
  | returned hwritten hincoming hfair hused =>
    refine .returned ?_ hincoming hfair ?_
    · rw [hwritten, List.append_assoc, hsplit]
    · simp only [transfers] at hused ⊢
      omega
  | running part hpart hwritten hincoming hshort =>
    refine .running (bytes.take count ++ part) ?_ ?_ hincoming ?_
    · conv_rhs => rw [← hsplit]
      exact (List.prefix_append_right_inj _).mpr hpart
    · rw [hwritten, List.append_assoc]
    · simp only [transfers] at hshort ⊢
      omega

theorem sends_sendLoop (ended : Option ε) (failed : δ → ε) (outcomes : List (SocketOutcome δ))
    (bytes : List UInt8) (socket : Socket δ) (hfair : Fair outcomes) :
    Sends { socket with outcomes } bytes (sendLoop ended failed outcomes bytes socket) := by
  induction outcomes generalizing bytes socket with
  | nil =>
    cases bytes with
    | nil => exact .returned (by simp) rfl hfair (by simp)
    | cons byte rest => exact .running [] List.nil_prefix (by simp) rfl (by simp [transfers])
  | cons outcome rest ih =>
    rw [sendLoop.eq_def]
    dsimp only
    split
    · rename_i hempty
      rw [List.isEmpty_iff] at hempty
      subst hempty
      exact .returned (by simp) rfl hfair (by simp)
    · rename_i hsome
      rw [List.isEmpty_iff] at hsome
      cases outcome with
      | interrupted => exact (ih bytes socket hfair.tail).interrupted
      | failed error => exact absurd (hfair _ List.mem_cons_self) not_false
      | transferred count =>
        have hcount : 0 < count := hfair _ List.mem_cons_self
        have hnext := ih (bytes.drop count)
          { socket with written := socket.written ++ bytes.take count } hfair.tail
        dsimp only
        rw [if_neg (Nat.ne_of_gt hcount)]
        exact hnext.chunk hcount hsome

theorem writes_sendBytes (ended : Option ε) (failed : δ → ε) (bytes : List UInt8) :
    Writes (sendBytes ended failed bytes) bytes :=
  fun socket hfair => sends_sendLoop ended failed socket.outcomes bytes socket hfair

theorem writes_pure : Writes (Transfer.pure () : Transfer δ ε Unit) [] :=
  fun _ hfair => .returned (by simp) rfl hfair (by simp)

/-- Two transfers in a row send their bytes in that order. -/
theorem Writes.then {first second : Transfer δ ε Unit} {front back : List UInt8}
    (hfirst : Writes first front) (hsecond : Writes second back) :
    Writes (first.bind fun _ => second) (front ++ back) := by
  intro socket hfair
  have hstart := hfirst socket hfair
  rw [Transfer.bind]
  generalize first socket = result at hstart
  cases hstart with
  | @returned middle hwritten hincoming hrest hused =>
    have hend := hsecond middle hrest
    dsimp only
    generalize second middle = result at hend
    cases hend with
    | returned hwritten' hincoming' hrest' hused' =>
      refine .returned ?_ (hincoming'.trans hincoming) hrest' ?_
      · rw [hwritten', hwritten, List.append_assoc]
      · rw [List.length_append]
        omega
    | running part hpart hwritten' hincoming' hshort =>
      refine .running (front ++ part) ?_ ?_ (hincoming'.trans hincoming) ?_
      · exact (List.prefix_append_right_inj front).mpr hpart
      · rw [hwritten', hwritten, List.append_assoc]
      · rw [List.length_append]
        omega
  | running part hpart hwritten hincoming hshort =>
    refine .running part (hpart.trans (List.prefix_append front back)) hwritten hincoming ?_
    rw [List.length_append]
    omega

/-- Transfers of a whole list, one after the other. -/
theorem writes_forM {α : Type} {transfer : α → Transfer δ ε Unit} {bytes : α → List UInt8}
    (values : List α) (h : ∀ value ∈ values, Writes (transfer value) (bytes value)) :
    Writes (values.forM transfer) (values.flatMap bytes) := by
  induction values with
  | nil => exact writes_pure
  | cons value rest ih =>
    rw [List.flatMap_cons]
    exact (h value List.mem_cons_self).then
      (ih fun other hother => h other (List.mem_cons_of_mem _ hother))

end Sending

-- ---------------------------------------------------------------------------
-- Receiving
-- ---------------------------------------------------------------------------

section Receiving

variable {δ ε : Type}

/-- What becomes of a transfer that has `received` a part of `size` bytes: the
bytes come, or the stream ends before them. -/
inductive Receives (ended : ε) (size : Nat) (received : List UInt8) (socket : Socket δ) :
    Progress ε { bytes : List UInt8 // bytes.length = size } × Socket δ → Prop
  | returned {after : Socket δ} (bytes : { bytes : List UInt8 // bytes.length = size })
    (hincoming : received ++ socket.incoming = bytes.1 ++ after.incoming)
    (hwritten : after.written = socket.written) (hfair : Fair after.outcomes)
    (hused : transfers socket.outcomes ≤ transfers after.outcomes + (size - received.length)) :
    Receives ended size received socket (.returned bytes, after)
  | ended {after : Socket δ} (hshort : received.length + socket.incoming.length < size) :
    Receives ended size received socket (.failed ended, after)
  | running {after : Socket δ} (hshort : transfers socket.outcomes < size - received.length)
    (hpart : transfers socket.outcomes ≤ socket.incoming.length) :
    Receives ended size received socket (.running, after)

/-- A call that is interrupted is made again. -/
theorem Receives.interrupted {ended : ε} {size : Nat} {received : List UInt8}
    {socket : Socket δ} {rest : List (SocketOutcome δ)}
    {result : Progress ε { bytes : List UInt8 // bytes.length = size } × Socket δ}
    (h : Receives ended size received { socket with outcomes := rest } result) :
    Receives ended size received { socket with outcomes := .interrupted :: rest } result := by
  cases h with
  | returned bytes hincoming hwritten hfair hused =>
    exact .returned bytes hincoming hwritten hfair hused
  | ended hshort => exact .ended hshort
  | running hshort hpart => exact .running hshort hpart

/-- After a call that brings a chunk, the bytes behind it are to come. -/
theorem Receives.chunk {ended : ε} {size count chunk : Nat} {received : List UInt8}
    {socket : Socket δ} {rest : List (SocketOutcome δ)}
    {result : Progress ε { bytes : List UInt8 // bytes.length = size } × Socket δ}
    (hsize : chunk ≤ size - received.length) (hchunk : socket.incoming.take chunk ≠ [])
    (h : Receives ended size (received ++ socket.incoming.take chunk)
      { socket with outcomes := rest, incoming := socket.incoming.drop chunk } result) :
    Receives ended size received { socket with outcomes := .transferred count :: rest }
      result := by
  have hsplit : socket.incoming.take chunk ++ socket.incoming.drop chunk = socket.incoming :=
    List.take_append_drop chunk socket.incoming
  have hpositive : 0 < (socket.incoming.take chunk).length := List.length_pos_iff.mpr hchunk
  have htaken : (socket.incoming.take chunk).length ≤ chunk := List.length_take_le ..
  have htotal := congrArg List.length hsplit
  rw [List.length_append] at htotal
  cases h with
  | returned bytes hincoming hwritten hfair hused =>
    refine .returned bytes ?_ hwritten hfair ?_
    · rw [← hincoming, List.append_assoc, hsplit]
    · rw [List.length_append] at hused
      simp only [transfers] at hused ⊢
      omega
  | ended hshort =>
    rw [List.length_append] at hshort
    exact .ended (by simp only at hshort ⊢; omega)
  | running hshort hpart =>
    rw [List.length_append] at hshort
    simp only at hshort hpart
    exact .running (by simp only [transfers]; omega) (by simp only [transfers]; omega)

theorem receives_receiveLoop (ended : ε) (failed : δ → ε) (size : Nat)
    (outcomes : List (SocketOutcome δ))
    (received : { received : List UInt8 // received.length ≤ size })
    (socket : Socket δ) (hfair : Fair outcomes) :
    Receives ended size received.1 { socket with outcomes }
      (receiveLoop ended failed size outcomes received socket) := by
  induction outcomes generalizing received socket with
  | nil =>
    rw [receiveLoop]
    split
    · rename_i hmore
      exact .running (by simp only [transfers]; omega) (Nat.zero_le _)
    · exact .returned _ rfl rfl hfair (Nat.le_add_right _ _)
  | cons outcome rest ih =>
    rw [receiveLoop.eq_def]
    dsimp only
    split
    · rename_i hmore
      cases outcome with
      | interrupted => exact (ih received socket hfair.tail).interrupted
      | failed error => exact absurd (hfair _ List.mem_cons_self) not_false
      | transferred count =>
        have hcount : 0 < count := hfair _ List.mem_cons_self
        dsimp only
        split
        · -- nothing comes although something is asked for: the stream has ended
          rename_i hnothing
          rw [List.isEmpty_iff, List.take_eq_nil_iff] at hnothing
          have hend : socket.incoming = [] := hnothing.resolve_left (by omega)
          exact .ended (by simp only [hend, List.length_nil]; omega)
        · rename_i hchunk
          rw [List.isEmpty_iff] at hchunk
          refine Receives.chunk (Nat.min_le_right ..) hchunk ?_
          exact ih ⟨_, _⟩
            { socket with
              incoming := socket.incoming.drop (min count (size - received.1.length)) } hfair.tail
    · exact .returned _ rfl rfl hfair (Nat.le_add_right _ _)

theorem receives_receiveBytes (ended : ε) (failed : δ → ε) (size : Nat) (socket : Socket δ)
    (hfair : Fair socket.outcomes) :
    Receives ended size [] socket (receiveBytes ended failed size socket) :=
  receives_receiveLoop ended failed size socket.outcomes ⟨[], Nat.zero_le size⟩ socket hfair

end Receiving

-- ---------------------------------------------------------------------------
-- Frames
-- ---------------------------------------------------------------------------

section Frames

variable {δ ε : Type}

/-- A payload behind its length. -/
def frame (payload : List UInt8) : List UInt8 := toBigEndian 4 payload.length ++ payload

def frames (payloads : List (List UInt8)) : List UInt8 := payloads.flatMap frame

theorem length_frame (payload : List UInt8) : (frame payload).length = 4 + payload.length := by
  rw [frame, List.length_append, length_toBigEndian]

@[simp] theorem frames_nil : frames [] = [] := rfl

@[simp] theorem frames_cons (payload : List UInt8) (rest : List (List UInt8)) :
    frames (payload :: rest) = frame payload ++ frames rest := List.flatMap_cons

/-- The first frames of a list start its stream. -/
theorem frames_prefix {first payloads : List (List UInt8)} (h : first <+: payloads) :
    frames first <+: frames payloads := by
  obtain ⟨rest, rfl⟩ := h
  rw [frames, frames, List.flatMap_append]
  exact List.prefix_append _ _

/-- The number that a 4-byte length spells. -/
theorem fromBigEndian_length {length : Nat} (h : length < 256 ^ 4) :
    fromBigEndian (toBigEndian 4 length) = length := by
  rw [fromBigEndian_toBigEndian, Nat.mod_eq_of_lt h]

/-- A stream starts with one frame at most. -/
theorem frame_append_inj {first second rest later : List UInt8} (hfirst : first.length < 256 ^ 4)
    (hsecond : second.length < 256 ^ 4) (h : frame first ++ rest = frame second ++ later) :
    first = second ∧ rest = later := by
  rw [frame, frame, List.append_assoc, List.append_assoc] at h
  obtain ⟨hheader, hbody⟩ := List.append_inj h (by simp)
  have hlength : first.length = second.length := by
    rw [← fromBigEndian_length hfirst, hheader, fromBigEndian_length hsecond]
  exact List.append_inj hbody hlength

/-- Only the frames of some payload start the stream of a list. -/
theorem exists_cons_of_prefix {bytes : List UInt8} {payloads : List (List UInt8)}
    (hbytes : bytes ≠ []) (h : bytes <+: frames payloads) :
    ∃ first rest, payloads = first :: rest := by
  cases payloads with
  | nil => exact absurd (List.prefix_nil.mp h) hbytes
  | cons first rest => exact ⟨first, rest, rfl⟩

theorem frame_ne_nil (payload : List UInt8) : frame payload ≠ [] := by
  have hlength := length_frame payload
  intro hempty
  rw [hempty, List.length_nil] at hlength
  omega

/-- Receive a length, then as many bytes, unless they are more than `maximumSize`. -/
def receiveFrame (ended tooLarge : ε) (failed : δ → ε) (maximumSize : Nat) :
    Transfer δ ε (List UInt8) :=
  (receiveBytes ended failed 4).bind fun header =>
    if fromBigEndian header.1 > maximumSize then Transfer.fail tooLarge
    else
      (receiveBytes ended failed (fromBigEndian header.1)).bind fun payload =>
        Transfer.pure payload.1

/-- What one reception of a frame can end in. -/
inductive ReceivesFrame (ended tooLarge : ε) (maximumSize : Nat) (socket : Socket δ) :
    Progress ε (List UInt8) × Socket δ → Prop
  | returned {after : Socket δ} (payload : List UInt8) (hbound : payload.length < 256 ^ 4)
    (hsize : payload.length ≤ maximumSize)
    (hincoming : socket.incoming = frame payload ++ after.incoming)
    (hwritten : after.written = socket.written) (hfair : Fair after.outcomes)
    (hused : transfers socket.outcomes ≤ transfers after.outcomes + (frame payload).length) :
    ReceivesFrame ended tooLarge maximumSize socket (.returned payload, after)
  | tooLarge {after : Socket δ} (length : Nat) (rest : List UInt8) (hbound : length < 256 ^ 4)
    (hsize : maximumSize < length)
    (hincoming : socket.incoming = toBigEndian 4 length ++ rest) :
    ReceivesFrame ended tooLarge maximumSize socket (.failed tooLarge, after)
  | ended {after : Socket δ} (hshort : ∀ payload rest, payload.length < 256 ^ 4 →
      socket.incoming ≠ frame payload ++ rest) :
    ReceivesFrame ended tooLarge maximumSize socket (.failed ended, after)
  | running {after : Socket δ} (hpart : transfers socket.outcomes ≤ socket.incoming.length)
    (hshort : ∀ payload rest, payload.length < 256 ^ 4 →
      socket.incoming = frame payload ++ rest →
      transfers socket.outcomes < (frame payload).length) :
    ReceivesFrame ended tooLarge maximumSize socket (.running, after)

theorem receivesFrame_receiveFrame (ended tooLarge : ε) (failed : δ → ε) (maximumSize : Nat)
    (socket : Socket δ) (hfair : Fair socket.outcomes) :
    ReceivesFrame ended tooLarge maximumSize socket
      (receiveFrame ended tooLarge failed maximumSize socket) := by
  have hheader := receives_receiveBytes ended failed 4 socket hfair
  rw [receiveFrame, Transfer.bind]
  generalize receiveBytes ended failed 4 socket = result at hheader
  cases hheader with
  | ended hshort =>
    refine .ended fun payload rest _ hincoming => ?_
    rw [hincoming, List.length_append, length_frame] at hshort
    simp only [List.length_nil] at hshort
    omega
  | running hshort hpart =>
    refine .running hpart fun payload rest _ hincoming => ?_
    rw [length_frame]
    simp only [List.length_nil] at hshort
    omega
  | @returned middle header hincoming hwritten hmiddle hused =>
    have hspelled := toBigEndian_fromBigEndian header.1
    have hbound := fromBigEndian_lt header.1
    rw [header.2] at hspelled hbound
    rw [List.nil_append] at hincoming
    -- the stream behind the header of a frame
    have hbody : ∀ payload rest, payload.length < 256 ^ 4 →
        socket.incoming = frame payload ++ rest →
        payload.length = fromBigEndian header.1 ∧ middle.incoming = payload ++ rest := by
      intro payload rest hpayload hframe
      rw [hincoming, frame, List.append_assoc] at hframe
      obtain ⟨hlength, hrest⟩ := List.append_inj hframe (by simp [header.2])
      rw [hlength, fromBigEndian_length hpayload]
      exact ⟨rfl, hrest⟩
    dsimp only
    split
    · rename_i hlarge
      exact .tooLarge (fromBigEndian header.1) middle.incoming hbound hlarge
        (by rw [hspelled, hincoming])
    · rename_i hfits
      have hpayload := receives_receiveBytes ended failed (fromBigEndian header.1) middle hmiddle
      rw [Transfer.bind]
      generalize receiveBytes ended failed (fromBigEndian header.1) middle = result at hpayload
      cases hpayload with
      | @returned after payload hincoming' hwritten' hfair' hused' =>
        rw [List.nil_append] at hincoming'
        refine .returned payload.1 (by rw [payload.2]; exact hbound)
          (by rw [payload.2]; exact Nat.le_of_not_lt hfits) ?_ (hwritten'.trans hwritten) hfair' ?_
        · rw [hincoming, hincoming', frame, payload.2, hspelled, List.append_assoc]
        · rw [length_frame, payload.2]
          simp only [List.length_nil] at hused hused'
          omega
      | ended hshort =>
        refine .ended fun payload rest hpayload hframe => ?_
        obtain ⟨hlength, hrest⟩ := hbody payload rest hpayload hframe
        rw [hrest, List.length_append] at hshort
        simp only [List.length_nil] at hshort
        omega
      | running hshort hpart =>
        simp only [List.length_nil] at hused hshort
        refine .running ?_ fun payload rest hpayload hframe => ?_
        · rw [hincoming, List.length_append, header.2]
          omega
        · obtain ⟨hlength, _⟩ := hbody payload rest hpayload hframe
          rw [length_frame]
          omega

/-- What `count` receptions in a row give of a stream that starts the frames of
`payloads`: whole payloads in order, and an end of the stream, or a call still
running, only before a frame that is not there yet. -/
structure Delivers (ended : ε) (payloads : List (List UInt8)) (count : Nat) (socket : Socket δ)
    (result : List (List UInt8) × Progress ε Unit × Socket δ) : Prop where
  inOrder : result.1 <+: payloads
  whole : frames result.1 <+: socket.incoming
  status : match result.2.1 with
    | .returned () => result.1.length = count
    | .failed error => error = ended ∧ result.1.length < count ∧
      ∀ next, result.1 ++ [next] <+: payloads → ¬ frames (result.1 ++ [next]) <+: socket.incoming
    | .running => transfers socket.outcomes ≤ socket.incoming.length ∧
      (count ≤ payloads.length → frames (payloads.take count) <+: socket.incoming →
        transfers socket.outcomes < (frames (payloads.take count)).length)

/-- The first payload of the stream comes, then others. -/
theorem Delivers.cons {ended : ε} {payloads received : List (List UInt8)} {payload : List UInt8}
    {count : Nat} {socket after final : Socket δ} {progress : Progress ε Unit}
    (hincoming : socket.incoming = frame payload ++ after.incoming)
    (hused : transfers socket.outcomes ≤ transfers after.outcomes + (frame payload).length)
    (h : Delivers ended payloads count after (received, progress, final)) :
    Delivers ended (payload :: payloads) (count + 1) socket
      (payload :: received, progress, final) := by
  obtain ⟨hinOrder, hwhole, hstatus⟩ := h
  refine ⟨List.cons_prefix_cons.mpr ⟨rfl, hinOrder⟩, ?_, ?_⟩
  · rw [frames_cons, hincoming]
    exact (List.prefix_append_right_inj _).mpr hwhole
  · cases progress with
    | returned value =>
      show (payload :: received).length = count + 1
      rw [List.length_cons, show received.length = count from hstatus]
    | failed error =>
      obtain ⟨herror, hfewer, hnext⟩ := hstatus
      refine ⟨herror, Nat.succ_lt_succ hfewer, fun next hprefix hframes => ?_⟩
      rw [List.cons_append, List.cons_prefix_cons] at hprefix
      rw [List.cons_append, frames_cons, hincoming, List.prefix_append_right_inj] at hframes
      exact hnext next hprefix.2 hframes
    | running =>
      obtain ⟨hpart, hshort⟩ := hstatus
      refine ⟨?_, fun hcount hframes => ?_⟩
      · rw [hincoming, List.length_append]
        omega
      · rw [List.take_succ_cons, frames_cons, hincoming, List.prefix_append_right_inj] at hframes
        rw [List.take_succ_cons, frames_cons, List.length_append]
        have hlater := hshort (Nat.le_of_succ_le_succ hcount) hframes
        omega

/-- A stream that is all there is delivered, with calls enough. -/
theorem Delivers.all {ended : ε} {payloads : List (List UInt8)} {socket : Socket δ}
    {result : List (List UInt8) × Progress ε Unit × Socket δ}
    (h : Delivers ended payloads payloads.length socket result)
    (hstream : socket.incoming = frames payloads)
    (henough : (frames payloads).length ≤ transfers socket.outcomes) :
    ∃ after, result = (payloads, .returned (), after) := by
  obtain ⟨received, progress, after⟩ := result
  obtain ⟨hinOrder, _, hstatus⟩ := h
  dsimp only at hinOrder hstatus
  cases progress with
  | returned value => exact ⟨after, by rw [hinOrder.eq_of_length hstatus]⟩
  | failed error =>
    -- the next payload is there, since all of them are
    obtain ⟨_, hfewer, hnext⟩ := hstatus
    obtain ⟨rest, rfl⟩ := hinOrder
    cases rest with
    | nil => simp at hfewer
    | cons next later =>
      have hprefix : received ++ [next] <+: received ++ next :: later := ⟨later, by simp⟩
      refine absurd ?_ (hnext next hprefix)
      rw [hstream]
      exact frames_prefix hprefix
  | running =>
    have hshort := hstatus.2 (Nat.le_refl _)
    rw [List.take_length, hstream] at hshort
    exact absurd (hshort List.prefix_rfl) (Nat.not_lt.mpr henough)

/-- A stream that is cut short is reported as ended, with calls enough. -/
theorem Delivers.cut {ended : ε} {payloads : List (List UInt8)} {count : Nat}
    {socket : Socket δ} {result : List (List UInt8) × Progress ε Unit × Socket δ}
    (h : Delivers ended payloads count socket result)
    (henough : socket.incoming.length < transfers socket.outcomes)
    (hcut : ¬ frames (payloads.take count) <+: socket.incoming) :
    ∃ received after, result = (received, .failed ended, after) := by
  obtain ⟨received, progress, after⟩ := result
  obtain ⟨hinOrder, hwhole, hstatus⟩ := h
  dsimp only at hinOrder hwhole hstatus
  cases progress with
  | returned value =>
    have hreceived : received = payloads.take count := by
      rw [List.prefix_iff_eq_take.mp hinOrder, show received.length = count from hstatus]
    rw [hreceived] at hwhole
    exact absurd hwhole hcut
  | failed error =>
    obtain ⟨rfl, _⟩ := hstatus
    exact ⟨received, after, rfl⟩
  | running => exact absurd hstatus.1 (Nat.not_le.mpr henough)

theorem delivers_receiveMany {ended tooLarge : ε} {maximumSize : Nat}
    {receive : Transfer δ ε (List UInt8)}
    (hreceive : ∀ socket : Socket δ, Fair socket.outcomes →
      ReceivesFrame ended tooLarge maximumSize socket (receive socket))
    {payloads : List (List UInt8)}
    (hpayloads : ∀ payload ∈ payloads, payload.length ≤ maximumSize ∧ payload.length < 256 ^ 4)
    (count : Nat) {socket : Socket δ} (hfair : Fair socket.outcomes)
    (hstream : socket.incoming <+: frames payloads) :
    Delivers ended payloads count socket (receiveMany receive count socket) := by
  induction count generalizing payloads socket with
  | zero => exact ⟨List.nil_prefix, List.nil_prefix, rfl⟩
  | succ count ih =>
    have hframe := hreceive socket hfair
    rw [receiveMany]
    generalize receive socket = result at hframe
    cases hframe with
    | @returned after payload hbound hsize hincoming hwritten hafter hused =>
      -- the frame received is the first of the stream
      have hsome : socket.incoming ≠ [] := by
        rw [hincoming]
        exact List.append_ne_nil_of_left_ne_nil (frame_ne_nil payload) _
      obtain ⟨first, rest, rfl⟩ := exists_cons_of_prefix hsome hstream
      obtain ⟨tail, htail⟩ := hstream
      rw [hincoming, frames_cons, List.append_assoc] at htail
      obtain ⟨rfl, hrest⟩ :=
        frame_append_inj hbound (hpayloads first List.mem_cons_self).2 htail
      have hlater := ih (fun other hother => hpayloads other (List.mem_cons_of_mem _ hother))
        hafter ⟨tail, hrest⟩
      exact hlater.cons hincoming hused
    | tooLarge length rest hbound hsize hincoming =>
      -- the announced length is that of the first payload, which is small enough
      have hsome : socket.incoming ≠ [] := by
        rw [hincoming, toBigEndian_succ]
        exact List.cons_ne_nil _ _
      obtain ⟨first, later, rfl⟩ := exists_cons_of_prefix hsome hstream
      obtain ⟨hfits, hfirst⟩ := hpayloads first List.mem_cons_self
      obtain ⟨tail, htail⟩ := hstream
      rw [hincoming, frames_cons, frame, List.append_assoc, List.append_assoc] at htail
      obtain ⟨hlength, _⟩ := List.append_inj htail (by simp)
      have hsame := congrArg fromBigEndian hlength
      rw [fromBigEndian_length hbound, fromBigEndian_length hfirst] at hsame
      omega
    | ended hshort =>
      refine ⟨List.nil_prefix, List.nil_prefix, rfl, Nat.succ_pos count,
        fun next hprefix hframes => ?_⟩
      have hmem : next ∈ payloads := hprefix.subset List.mem_cons_self
      obtain ⟨tail, htail⟩ := hframes
      rw [List.nil_append, frames_cons, frames_nil, List.append_nil] at htail
      exact hshort next tail (hpayloads next hmem).2 htail.symm
    | running hpart hshort =>
      refine ⟨List.nil_prefix, List.nil_prefix, hpart, fun hcount hframes => ?_⟩
      cases payloads with
      | nil => simp at hcount
      | cons first rest =>
        obtain ⟨tail, htail⟩ := hframes
        rw [List.take_succ_cons, frames_cons, List.append_assoc] at htail
        rw [List.take_succ_cons, frames_cons, List.length_append]
        have hfirst := hshort first _ (hpayloads first List.mem_cons_self).2 htail.symm
        omega

/-- A sender and a receiver between which the chunks do not show: what has
arrived of the stream, whichever part of it, is delivered as whole payloads in
order; all of it with enough calls; and a stream that ends inside a frame is
reported as ended. -/
structure Transparent {ε' : Type} (send : List UInt8 → Transfer δ ε Unit)
    (receive : Transfer δ ε' (List UInt8)) (ended : ε') (payloads : List (List UInt8)) : Prop where
  delivers : ∀ sender receiver : Socket δ, Fair sender.outcomes → Fair receiver.outcomes →
    sender.written = [] → receiver.incoming <+: (payloads.forM send sender).2.written →
    ∀ count, Delivers ended payloads count receiver (receiveMany receive count receiver)
  sends : ∀ sender : Socket δ, Fair sender.outcomes →
    (frames payloads).length ≤ transfers sender.outcomes →
    ∃ after, payloads.forM send sender = (.returned (), after) ∧
      after.written = sender.written ++ frames payloads
  receives : ∀ receiver : Socket δ, Fair receiver.outcomes → receiver.incoming = frames payloads →
    (frames payloads).length ≤ transfers receiver.outcomes →
    ∃ after, receiveMany receive payloads.length receiver = (payloads, .returned (), after)
  ends : ∀ receiver : Socket δ, Fair receiver.outcomes → receiver.incoming <+: frames payloads →
    receiver.incoming.length < transfers receiver.outcomes →
    ∀ count, ¬ frames (payloads.take count) <+: receiver.incoming →
      ∃ received after, receiveMany receive count receiver = (received, .failed ended, after)

theorem transparent_of {ε' : Type} {send : List UInt8 → Transfer δ ε Unit}
    {receive : Transfer δ ε' (List UInt8)} {ended tooLarge : ε'} {maximumSize : Nat}
    {payloads : List (List UInt8)}
    (hsend : ∀ payload ∈ payloads, Writes (send payload) (frame payload))
    (hreceive : ∀ socket : Socket δ, Fair socket.outcomes →
      ReceivesFrame ended tooLarge maximumSize socket (receive socket))
    (hpayloads : ∀ payload ∈ payloads, payload.length ≤ maximumSize ∧ payload.length < 256 ^ 4) :
    Transparent send receive ended payloads where
  delivers := by
    intro sender receiver hsender hreceiver hfresh hstream count
    have hsent := writes_forM payloads hsend sender hsender
    generalize payloads.forM send sender = result at hsent hstream
    refine delivers_receiveMany hreceive hpayloads count hreceiver (hstream.trans ?_)
    cases hsent with
    | returned hwritten => rw [hwritten, hfresh, List.nil_append]; rfl
    | running part hpart hwritten => rw [hwritten, hfresh, List.nil_append]; exact hpart
  sends := by
    intro sender hsender henough
    have hsent := writes_forM payloads hsend sender hsender
    generalize payloads.forM send sender = result at hsent
    cases hsent with
    | @returned after hwritten => exact ⟨after, rfl, hwritten⟩
    | running part hpart hwritten hincoming hshort => exact absurd hshort (Nat.not_lt.mpr henough)
  receives := by
    intro receiver hreceiver hstream henough
    have hall := delivers_receiveMany hreceive hpayloads payloads.length hreceiver
      (hstream ▸ List.prefix_rfl)
    exact hall.all hstream henough
  ends := by
    intro receiver hreceiver hstream henough count hcut
    have hpart := delivers_receiveMany hreceive hpayloads count hreceiver hstream
    exact hpart.cut henough hcut

end Frames

end SiliconSwitch.Library
