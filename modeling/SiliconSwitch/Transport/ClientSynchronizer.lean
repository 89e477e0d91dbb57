import SiliconSwitch.Transport.StateUpdate
import SiliconSwitch.Routing.Forwarding

/-!
# The client synchronizer

`ClientSynchronizer::consume` decides, update after update, what an observer may
apply: a session change resets it, sequence and timestamp order the updates of
one session, and a gap or a revision mismatch waits for the next snapshot.

* `consume_outcome` — everything `consume` can do, outcome by outcome, on the
  `View` of the synchronizer that orders the updates;
* `consume_sessionId` — the synchronizer always follows the last sender.
-/

namespace SiliconSwitch.Transport

open SiliconSwitch.Routing

inductive SynchronizationResult
  | appliedSnapshot
  | appliedDelta
  | acceptedHeartbeat
  | ignoredDuplicate
  | ignoredStale
  | needsSnapshot
  | sequenceGap
  | revisionMismatch
deriving DecidableEq

structure ClientSynchronizer where
  sessionId : Option UInt64
  lastReceived : Option TimePoint
  sequence : UInt64
  revision : UInt64
  timestampMicroseconds : UInt64
  synchronized : Bool
  resyncRequired : Bool
deriving DecidableEq

namespace ClientSynchronizer

/-- The initial values of the members. -/
def create : ClientSynchronizer where
  sessionId := none
  lastReceived := none
  sequence := 0
  revision := 0
  timestampMicroseconds := 0
  synchronized := false
  resyncRequired := true

/-- What `consume` does to the members on the first update of a session. -/
def enterSession (client : ClientSynchronizer) (sessionId : UInt64) : ClientSynchronizer :=
  { client with
    sessionId := some sessionId
    sequence := 0
    revision := 0
    timestampMicroseconds := 0
    synchronized := false
    resyncRequired := true }

def desynchronize (client : ClientSynchronizer) : ClientSynchronizer :=
  { client with synchronized := false, resyncRequired := true }

def applySnapshot (client : ClientSynchronizer) (update : StateUpdate) : ClientSynchronizer :=
  { client with
    sequence := update.sequence
    revision := update.revision
    timestampMicroseconds := update.timestampMicroseconds
    synchronized := true
    resyncRequired := false }

/-- The end of `consume`: an update in sequence, delta or not. -/
def advance (client : ClientSynchronizer) (update : StateUpdate) : ClientSynchronizer :=
  { client with
    sequence := update.sequence
    timestampMicroseconds := update.timestampMicroseconds
    revision := if update.type = .delta then update.revision else client.revision }

/-- `consume` from the type test on, once the session and the order are settled. -/
def consumeCurrent (client : ClientSynchronizer) (update : StateUpdate) :
    SynchronizationResult × ClientSynchronizer :=
  if update.type = .snapshot then (.appliedSnapshot, client.applySnapshot update)
  else if !client.synchronized then (.needsSnapshot, { client with resyncRequired := true })
  else if update.sequence ≠ client.sequence + 1 then (.sequenceGap, client.desynchronize)
  else if update.type = .delta ∧ update.baseRevision ≠ client.revision then
    (.revisionMismatch, client.desynchronize)
  else
    (if update.type = .delta then .appliedDelta else .acceptedHeartbeat, client.advance update)

def consume (client : ClientSynchronizer) (update : StateUpdate) (receivedAt : TimePoint) :
    SynchronizationResult × ClientSynchronizer :=
  let client := { client with lastReceived := some receivedAt }
  -- a first update and an update of another session are both a new session
  if client.sessionId ≠ some update.sessionId then
    let client := client.enterSession update.sessionId
    if update.type ≠ .snapshot then (.needsSnapshot, client)
    else client.consumeCurrent update
  else if update.sequence = client.sequence then (.ignoredDuplicate, client)
  else if update.sequence < client.sequence ∨
      update.timestampMicroseconds < client.timestampMicroseconds then (.ignoredStale, client)
  else client.consumeCurrent update

def disconnected (client : ClientSynchronizer) (now : TimePoint) (timeout : Duration) : Bool :=
  match client.lastReceived with
  | none => true
  | some received => now - received > timeout

/-- `ClientSynchronizer::reset`, which drops the time of reception as well. -/
def reset (_client : ClientSynchronizer) : ClientSynchronizer := create

-- ---------------------------------------------------------------------------
-- What an update can do
-- ---------------------------------------------------------------------------

/-- The members that order the updates: all but the time of reception and the
request for a resync. -/
structure View where
  sessionId : Option UInt64
  sequence : UInt64
  revision : UInt64
  timestampMicroseconds : UInt64
  synchronized : Bool
deriving DecidableEq

def view (client : ClientSynchronizer) : View where
  sessionId := client.sessionId
  sequence := client.sequence
  revision := client.revision
  timestampMicroseconds := client.timestampMicroseconds
  synchronized := client.synchronized

/-- The update is of the followed session and comes after what was accepted. -/
structure InOrder (view : View) (update : StateUpdate) : Prop where
  sessionId : view.sessionId = some update.sessionId
  sequence_lt : view.sequence < update.sequence
  timestamp_le : view.timestampMicroseconds ≤ update.timestampMicroseconds

/-- The outcomes of `consume`, with what is known of the update in each. -/
inductive Outcome (view : View) (update : StateUpdate) : SynchronizationResult → View → Prop
  | ignored {result : SynchronizationResult}
      (hresult : result = .ignoredDuplicate ∨ result = .ignoredStale)
      (hsession : view.sessionId = some update.sessionId) (hold : ¬ InOrder view update) :
      Outcome view update result view
  | snapshot (htype : update.type = .snapshot)
      (horder : view.sessionId = some update.sessionId → InOrder view update) :
      Outcome view update .appliedSnapshot
        ⟨some update.sessionId, update.sequence, update.revision,
          update.timestampMicroseconds, true⟩
  | delta (htype : update.type = .delta) (horder : InOrder view update)
      (hsynchronized : view.synchronized = true) (hsequence : update.sequence = view.sequence + 1)
      (hbase : update.baseRevision = view.revision) :
      Outcome view update .appliedDelta
        ⟨some update.sessionId, update.sequence, update.revision,
          update.timestampMicroseconds, true⟩
  | heartbeat (hsnapshot : update.type ≠ .snapshot) (hdelta : update.type ≠ .delta)
      (horder : InOrder view update) (hsynchronized : view.synchronized = true)
      (hsequence : update.sequence = view.sequence + 1) :
      Outcome view update .acceptedHeartbeat
        ⟨some update.sessionId, update.sequence, view.revision,
          update.timestampMicroseconds, true⟩
  | resync {result : SynchronizationResult}
      (hresult : result = .needsSnapshot ∨ result = .sequenceGap ∨ result = .revisionMismatch)
      (htype : update.type ≠ .snapshot) (horder : InOrder view update)
      (hgap : view.synchronized = true → update.sequence ≠ view.sequence + 1 ∨
        update.type = .delta ∧ update.baseRevision ≠ view.revision) :
      Outcome view update result { view with synchronized := false }
  | newSession (htype : update.type ≠ .snapshot)
      (hsession : view.sessionId ≠ some update.sessionId) :
      Outcome view update .needsSnapshot ⟨some update.sessionId, 0, 0, 0, false⟩

theorem consumeCurrent_outcome {client : ClientSynchronizer} {update : StateUpdate}
    (horder : InOrder client.view update) :
    Outcome client.view update (client.consumeCurrent update).1
      (client.consumeCurrent update).2.view := by
  have hsession : client.sessionId = some update.sessionId := horder.sessionId
  unfold consumeCurrent
  by_cases hsnapshot : update.type = .snapshot
  · rw [if_pos hsnapshot]
    have houtcome := @Outcome.snapshot client.view update hsnapshot fun _ => horder
    simpa only [view, applySnapshot, hsession] using houtcome
  · rw [if_neg hsnapshot]
    cases hsynchronized : client.synchronized with
    | false =>
      have houtcome : Outcome client.view update .needsSnapshot
          { client.view with synchronized := false } :=
        .resync (Or.inl rfl) hsnapshot horder fun h => by simp [view, hsynchronized] at h
      simpa [view, hsynchronized] using houtcome
    | true =>
      rw [if_neg (by simp)]
      by_cases hsequence : update.sequence = client.sequence + 1
      · rw [if_neg (not_not.mpr hsequence)]
        by_cases hmismatch : update.type = .delta ∧ update.baseRevision ≠ client.revision
        · rw [if_pos hmismatch]
          exact .resync (Or.inr (Or.inr rfl)) hsnapshot horder fun _ => Or.inr hmismatch
        · rw [if_neg hmismatch]
          by_cases hdelta : update.type = .delta
          · have hbase : update.baseRevision = client.revision := by
              by_contra hne
              exact hmismatch ⟨hdelta, hne⟩
            have houtcome := @Outcome.delta client.view update hdelta horder hsynchronized
              hsequence hbase
            simpa [view, advance, hdelta, hsession, hsynchronized] using houtcome
          · have houtcome := @Outcome.heartbeat client.view update hsnapshot hdelta horder
              hsynchronized hsequence
            simpa [view, advance, hdelta, hsession, hsynchronized] using houtcome
      · rw [if_pos hsequence]
        exact .resync (Or.inr (Or.inl rfl)) hsnapshot horder fun _ => Or.inl hsequence

/-- **Everything an update can do to the synchronizer.** -/
theorem consume_outcome (client : ClientSynchronizer) (update : StateUpdate)
    (receivedAt : TimePoint) :
    Outcome client.view update (client.consume update receivedAt).1
      (client.consume update receivedAt).2.view := by
  unfold consume
  by_cases hsession : client.sessionId = some update.sessionId
  · rw [if_neg (not_not.mpr hsession)]
    by_cases hduplicate : update.sequence = client.sequence
    · rw [if_pos hduplicate]
      refine .ignored (Or.inl rfl) hsession fun horder => ?_
      have hlt : client.sequence < update.sequence := horder.sequence_lt
      rw [hduplicate] at hlt
      exact absurd hlt (UInt64.lt_irrefl _)
    · rw [if_neg hduplicate]
      by_cases hstale : update.sequence < client.sequence ∨
          update.timestampMicroseconds < client.timestampMicroseconds
      · rw [if_pos hstale]
        refine .ignored (Or.inr rfl) hsession fun horder => ?_
        rcases hstale with hsequence | htimestamp
        · exact absurd horder.sequence_lt (UInt64.not_lt.mpr (UInt64.le_of_lt hsequence))
        · exact absurd horder.timestamp_le (UInt64.not_le.mpr htimestamp)
      · rw [if_neg hstale]
        rw [not_or, UInt64.not_lt, UInt64.not_lt] at hstale
        have horder : InOrder client.view update :=
          ⟨hsession, UInt64.lt_of_le_of_ne hstale.1 (Ne.symm hduplicate), hstale.2⟩
        exact @consumeCurrent_outcome { client with lastReceived := some receivedAt } update horder
  · rw [if_pos hsession]
    by_cases hsnapshot : update.type = .snapshot
    · rw [if_neg (not_not.mpr hsnapshot)]
      unfold consumeCurrent
      rw [if_pos hsnapshot]
      exact .snapshot hsnapshot fun h => absurd h hsession
    · rw [if_pos hsnapshot]
      exact .newSession hsnapshot hsession

/-- The synchronizer follows the session of whatever it consumed last. -/
theorem consume_sessionId (client : ClientSynchronizer) (update : StateUpdate)
    (receivedAt : TimePoint) :
    (client.consume update receivedAt).2.sessionId = some update.sessionId := by
  have houtcome := consume_outcome client update receivedAt
  show (client.consume update receivedAt).2.view.sessionId = some update.sessionId
  generalize (client.consume update receivedAt).1 = result at houtcome
  generalize (client.consume update receivedAt).2.view = after at houtcome ⊢
  cases houtcome with
  | ignored _ hsession _ => exact hsession
  | resync _ _ horder _ => exact horder.sessionId
  | snapshot | delta | heartbeat | newSession => rfl

end ClientSynchronizer

end SiliconSwitch.Transport
