import SiliconSwitch.Library.ByteStream

/-!
# Exchanges of frames

One end of a connection that sends a frame and then receives one, again and again. The
stream it receives is whole frames and an end, which may be inside a frame.

* `Carries`            — which frames a socket has sent, and which are still to come.
* `carries_exchange`   — one exchange takes one frame of the stream, or finds its end.

A receiver that finds the end has received everything before it (`Drains`), so a later
exchange finds the end again.
-/

namespace SiliconSwitch.Library

/-- Transfers in a row may be taken together. -/
theorem Transfer.bind_assoc {δ ε α β γ : Type} (first : Transfer δ ε α)
    (second : α → Transfer δ ε β) (third : β → Transfer δ ε γ) :
    (first.bind second).bind third = first.bind fun value => (second value).bind third := by
  funext socket
  unfold Transfer.bind
  cases first socket with
  | mk progress middle =>
    cases progress with
    | running => rfl
    | failed error => rfl
    | returned value => rfl

/-- What a transfer comes to, and then a check of what it has returned. -/
theorem Transfer.bind_apply {δ ε α β : Type} (first : Transfer δ ε α) (next : α → Transfer δ ε β)
    (socket : Socket δ) :
    first.bind next socket =
      match first socket with
      | (.returned value, after) => next value after
      | (.failed error, after) => (.failed error, after)
      | (.running, after) => (.running, after) := rfl

theorem Transfer.ofExcept_ok_bind {δ ε α β : Type} (value : α) (next : α → Transfer δ ε β) :
    (Transfer.ofExcept (.ok value)).bind next = next value := rfl

theorem Transfer.ofExcept_error_bind {δ ε α β : Type} (error : ε) (next : α → Transfer δ ε β)
    (socket : Socket δ) :
    (Transfer.ofExcept (.error error)).bind next socket = (.failed error, socket) := rfl

-- ---------------------------------------------------------------------------
-- The end of a stream
-- ---------------------------------------------------------------------------

section Drained

variable {δ ε α : Type}

/-- What a reception that fails leaves of a socket: nothing to be received. -/
structure Drained (before after : Socket δ) : Prop where
  incoming : after.incoming = []
  written : after.written = before.written
  fair : Fair after.outcomes
  used : transfers before.outcomes ≤ transfers after.outcomes + before.incoming.length + 1

/-- After a chunk, what is drained behind it is all of the stream. -/
theorem Drained.chunk {socket after : Socket δ} {rest : List (SocketOutcome δ)}
    {count chunk : Nat} (hchunk : socket.incoming.take chunk ≠ [])
    (h : Drained { socket with outcomes := rest, incoming := socket.incoming.drop chunk } after) :
    Drained { socket with outcomes := .transferred count :: rest } after := by
  obtain ⟨hincoming, hwritten, hfair, hused⟩ := h
  have hpositive : 0 < (socket.incoming.take chunk).length := List.length_pos_iff.mpr hchunk
  refine ⟨hincoming, hwritten, hfair, ?_⟩
  rw [List.length_take] at hpositive
  rw [List.length_drop] at hused
  simp only [transfers] at hused ⊢
  omega

/-- The loop around `recv` fails only at the end of the stream, which it has then
received up to there. -/
theorem drained_receiveLoop {ended : ε} {failed : δ → ε} {size : Nat}
    {outcomes : List (SocketOutcome δ)}
    {received : { received : List UInt8 // received.length ≤ size }} {socket after : Socket δ}
    {error : ε} (hfair : Fair outcomes)
    (h : receiveLoop ended failed size outcomes received socket = (.failed error, after)) :
    Drained { socket with outcomes } after := by
  induction outcomes generalizing received socket with
  | nil =>
    rw [receiveLoop] at h
    split at h <;> cases h
  | cons outcome rest ih =>
    rw [receiveLoop.eq_def] at h
    dsimp only at h
    split at h
    · rename_i hmore
      cases outcome with
      | interrupted =>
        obtain ⟨hincoming, hwritten, hrest, hused⟩ := ih hfair.tail h
        exact ⟨hincoming, hwritten, hrest, hused⟩
      | failed error => exact absurd (hfair _ List.mem_cons_self) not_false
      | transferred count =>
        have hcount : 0 < count := hfair _ List.mem_cons_self
        dsimp only at h
        split at h
        · -- nothing comes although something is asked for: the stream has ended
          rename_i hnothing
          rw [List.isEmpty_iff, List.take_eq_nil_iff] at hnothing
          have hend : socket.incoming = [] := hnothing.resolve_left (by omega)
          cases h
          refine ⟨hend, rfl, hfair.tail, ?_⟩
          simp only [transfers]
          omega
        · rename_i hchunk
          rw [List.isEmpty_iff] at hchunk
          have hlater : Drained { socket with
              outcomes := rest
              incoming := socket.incoming.drop (min count (size - received.1.length)) } after :=
            ih hfair.tail h
          exact hlater.chunk hchunk
    · cases h

/-- A receiver that fails otherwise than with `tooLarge` has found the end of its stream. -/
def Drains (tooLarge : ε) (receive : Transfer δ ε α) : Prop :=
  ∀ socket after error, Fair socket.outcomes → receive socket = (.failed error, after) →
    error ≠ tooLarge → Drained socket after

theorem drains_receiveFrame (ended tooLarge : ε) (failed : δ → ε) (maximumSize : Nat) :
    Drains tooLarge (receiveFrame ended tooLarge failed maximumSize) := by
  intro socket after error hfair h herror
  have hheader := receives_receiveBytes ended failed 4 socket hfair
  rw [receiveFrame, Transfer.bind] at h
  cases hfirst : receiveBytes ended failed 4 socket with
  | mk progress middle =>
    rw [hfirst] at h hheader
    cases progress with
    | running => cases h
    | failed reason =>
      cases h
      exact drained_receiveLoop hfair hfirst
    | returned header =>
      cases hheader with
      | returned bytes hincoming hwritten hmiddle hused =>
        dsimp only at h
        split at h
        · cases h
          exact absurd rfl herror
        · rw [Transfer.bind] at h
          cases hsecond : receiveBytes ended failed (fromBigEndian header.1) middle with
          | mk progress final =>
            rw [hsecond] at h
            cases progress with
            | running => cases h
            | returned payload => cases h
            | failed reason =>
              cases h
              obtain ⟨hend, hkept, hrest, hlater⟩ := drained_receiveLoop hmiddle hsecond
              have hlength := congrArg List.length hincoming
              rw [List.nil_append, List.length_append, header.2] at hlength
              refine ⟨hend, hkept.trans hwritten, hrest, ?_⟩
              simp only [List.length_nil] at hused
              dsimp only at hlater
              omega

end Drained

-- ---------------------------------------------------------------------------
-- Frames sent and frames to come
-- ---------------------------------------------------------------------------

section Exchanges

variable {δ ε : Type} {maximumSize : Nat}

/-- A stream that ends before its first frame is whole. -/
def Cut (maximumSize : Nat) (part : List UInt8) : Prop :=
  ∃ payload, payload.length ≤ maximumSize ∧ part <+: frame payload ∧ part ≠ frame payload

theorem cut_nil (maximumSize : Nat) : Cut maximumSize [] :=
  ⟨[], Nat.zero_le _, List.nil_prefix, (frame_ne_nil []).symm⟩

/-- The frames that a socket has sent, and those that are still to come before the end of
its stream. -/
structure Carries (maximumSize : Nat) (socket : Socket δ) (sent toCome : List (List UInt8)) :
    Prop where
  fair : Fair socket.outcomes
  written : socket.written = frames sent
  incoming : ∃ part, Cut maximumSize part ∧ socket.incoming = frames toCome ++ part
  small : ∀ payload ∈ toCome, payload.length ≤ maximumSize

/-- The stream starts as whole frames do, the last of which may be cut. -/
theorem Carries.exists_prefix {socket : Socket δ} {sent toCome : List (List UInt8)}
    (h : Carries maximumSize socket sent toCome) :
    ∃ last, last.length ≤ maximumSize ∧ socket.incoming <+: frames (toCome ++ [last]) := by
  obtain ⟨part, ⟨last, hlast, hpart, _⟩, hincoming⟩ := h.incoming
  refine ⟨last, hlast, ?_⟩
  rw [hincoming, frames, frames, List.flatMap_append, List.prefix_append_right_inj,
    List.flatMap_singleton]
  exact hpart

/-- The first frame of the stream is the first to come. -/
theorem Carries.received {socket after : Socket δ} {sent toCome : List (List UInt8)}
    {payload : List UInt8} (hmaximum : maximumSize < 256 ^ 4)
    (h : Carries maximumSize socket sent toCome) (hpayload : payload.length < 256 ^ 4)
    (hincoming : socket.incoming = frame payload ++ after.incoming)
    (hwritten : after.written = socket.written) (hfair : Fair after.outcomes) :
    ∃ later, toCome = payload :: later ∧ Carries maximumSize after sent later := by
  obtain ⟨part, ⟨last, hlast, hpart, hcut⟩, hstream⟩ := h.incoming
  rw [hincoming] at hstream
  cases toCome with
  | nil =>
    -- the end of the stream would hold a whole frame
    rw [frames_nil, List.nil_append] at hstream
    obtain ⟨rest, hrest⟩ := hpart
    have hwhole : frame payload ++ (after.incoming ++ rest) = frame last ++ [] := by
      rw [← List.append_assoc, hstream, hrest, List.append_nil]
    obtain ⟨rfl, hempty⟩ := frame_append_inj hpayload (by omega) hwhole
    rw [(List.append_eq_nil_iff.mp hempty).2, List.append_nil] at hrest
    exact absurd hrest hcut
  | cons first later =>
    have hfirst := h.small first List.mem_cons_self
    rw [frames_cons, List.append_assoc] at hstream
    obtain ⟨rfl, hrest⟩ := frame_append_inj hpayload (by omega) hstream
    refine ⟨later, rfl, hfair, hwritten.trans h.written, ⟨part, ⟨last, hlast, hpart, hcut⟩, hrest⟩,
      fun other hother => h.small other (List.mem_cons_of_mem _ hother)⟩

/-- No frame of the stream announces more than the maximum. -/
theorem Carries.announced_le {socket : Socket δ} {sent toCome : List (List UInt8)}
    {length : Nat} {rest : List UInt8} (hmaximum : maximumSize < 256 ^ 4)
    (h : Carries maximumSize socket sent toCome) (hlength : length < 256 ^ 4)
    (hincoming : socket.incoming = toBigEndian 4 length ++ rest) : length ≤ maximumSize := by
  obtain ⟨last, hlast, hprefix⟩ := h.exists_prefix
  obtain ⟨first, later, hfirst⟩ := exists_cons_of_prefix (by
    rw [hincoming, toBigEndian_succ]
    exact List.cons_ne_nil _ _) hprefix
  have hsmall : first.length ≤ maximumSize := by
    have hmem : first ∈ toCome ++ [last] := hfirst ▸ List.mem_cons_self
    rcases List.mem_append.mp hmem with hmem | hmem
    · exact h.small first hmem
    · rw [List.mem_singleton.mp hmem]
      exact hlast
  obtain ⟨tail, htail⟩ := hprefix
  rw [hfirst, hincoming, frames_cons, frame, List.append_assoc, List.append_assoc] at htail
  obtain ⟨hheader, _⟩ := List.append_inj htail (by simp)
  have hsame := congrArg fromBigEndian hheader
  rw [fromBigEndian_length hlength, fromBigEndian_length (by omega)] at hsame
  omega

/-- What an exchange can end in: the next frame of the stream, or its end. It waits only
on a socket without calls enough for what is to be sent and received. -/
inductive Exchanged (ended : ε) (maximumSize : Nat) (socket : Socket δ)
    (sent toCome : List (List UInt8)) (request : List UInt8) :
    Progress ε (List UInt8) × Socket δ → Prop
  | answered {after : Socket δ} {payload : List UInt8} {later : List (List UInt8)}
    (htoCome : toCome = payload :: later)
    (hafter : Carries maximumSize after (sent ++ [request]) later)
    (hused : transfers socket.outcomes + after.incoming.length ≤
      transfers after.outcomes + socket.incoming.length + (frame request).length) :
    Exchanged ended maximumSize socket sent toCome request (.returned payload, after)
  | ended {after : Socket δ} (htoCome : toCome = [])
    (hafter : Carries maximumSize after (sent ++ [request]) [])
    (hused : transfers socket.outcomes + after.incoming.length ≤
      transfers after.outcomes + socket.incoming.length + (frame request).length + 1) :
    Exchanged ended maximumSize socket sent toCome request (.failed ended, after)
  | waiting {after : Socket δ}
    (hshort : transfers socket.outcomes ≤ socket.incoming.length + (frame request).length) :
    Exchanged ended maximumSize socket sent toCome request (.running, after)

/-- **One exchange takes one frame of the stream**, the first to come. -/
theorem carries_exchange {ended tooLarge : ε} {send : Transfer δ ε Unit}
    {receive : Transfer δ ε (List UInt8)} {socket : Socket δ} {sent toCome : List (List UInt8)}
    {request : List UInt8} (hmaximum : maximumSize < 256 ^ 4) (hdistinct : ended ≠ tooLarge)
    (hsend : Writes send (frame request))
    (hreceive : ∀ socket : Socket δ, Fair socket.outcomes →
      ReceivesFrame ended tooLarge maximumSize socket (receive socket))
    (hdrains : Drains tooLarge receive) (h : Carries maximumSize socket sent toCome) :
    Exchanged ended maximumSize socket sent toCome request
      (send.bind (fun _ => receive) socket) := by
  have hsends := hsend socket h.fair
  rw [Transfer.bind]
  generalize send socket = result at hsends
  cases hsends with
  | running part hpart hwritten hincoming hshort => exact .waiting (by omega)
  | @returned middle hwritten hincoming hfair hused =>
    have hmiddle : Carries maximumSize middle (sent ++ [request]) toCome := by
      refine ⟨hfair, ?_, ?_, h.small⟩
      · rw [hwritten, h.written, frames, frames, List.flatMap_append, List.flatMap_singleton]
      · rw [hincoming]
        exact h.incoming
    have hframe := hreceive middle hfair
    have hend := hdrains middle (receive middle).2 ended hfair
    dsimp only
    generalize receive middle = received at hframe hend
    cases hframe with
    | @returned after payload hbound hsize hstream hkept hrest hcalls =>
      obtain ⟨later, hlater, hafter⟩ :=
        hmiddle.received hmaximum hbound hstream hkept hrest
      refine .answered hlater hafter ?_
      have hlength := congrArg List.length hstream
      rw [List.length_append, hincoming] at hlength
      omega
    | tooLarge length rest hbound hsize hstream =>
      have hsmall := hmiddle.announced_le hmaximum hbound hstream
      omega
    | @ended after hnone =>
      obtain ⟨hempty, hkept, hrest, hcalls⟩ := hend rfl hdistinct
      have htoCome : toCome = [] := by
        obtain ⟨part, hpart, hstream⟩ := hmiddle.incoming
        cases toCome with
        | nil => rfl
        | cons first later =>
          rw [frames_cons, List.append_assoc] at hstream
          have hfirst := h.small first List.mem_cons_self
          exact absurd hstream (hnone first _ (by omega))
      refine .ended htoCome ⟨hrest, hkept.trans hmiddle.written, ?_, by simp⟩ ?_
      · exact ⟨[], cut_nil _, by rw [hempty, frames_nil, List.append_nil]⟩
      · rw [hempty, List.length_nil]
        rw [hincoming] at hcalls
        dsimp only at hcalls
        omega
    | running hpart hshort =>
      rw [hincoming] at hpart
      exact .waiting (by omega)

end Exchanges

end SiliconSwitch.Library
