import SiliconSwitch.Simulation.Capacity
import SiliconSwitch.Transport.Udp

/-!
# The publishing loop

The simulation server, from the choice of its backend to the datagrams that leave it:
`select_runtime`, `AuthoritativeServer::publish_next` with its observers and its socket, and
the loop of the program around it, over every turn that it takes before it is told to stop.

How each send ends is a parameter. The loop over the observers stops at the first send that
fails, and so does the program.

* `selectRuntime_backend` — the backend that the server gets is one of its configuration;
* `sendEach_cases`        — an update reaches all observers, or those before the first failure;
* `serve_of_accepts`      — while all calls succeed, the loop sends whole rounds;
* `serve_rounds`          — so it sends whole rounds of one gapless stream, if the observers fit
  in an update, and nothing otherwise.
-/

namespace SiliconSwitch.Simulation

open SiliconSwitch.Library SiliconSwitch.Transport SiliconSwitch.Visualization

-- ---------------------------------------------------------------------------
-- The choice of a backend
-- ---------------------------------------------------------------------------

inductive RuntimeMode
  | automatic
  | cpu
  | cuda
  | observer
deriving DecidableEq

inductive RuntimeSelectionError
  | cudaNotCompiled
  | cudaDeviceUnavailable
deriving DecidableEq

/-- Whether the build has the CUDA backend, and the machine a device for it. -/
structure Platform where
  cudaBackendCompiled : Bool
  hasCudaDevice : Bool

/-- The stub of a build without CUDA finds no device. -/
def Platform.cudaDeviceAvailable (platform : Platform) : Bool :=
  platform.cudaBackendCompiled && platform.hasCudaDevice

/-- The object behind a backend pointer. -/
inductive BackendKind
  | cpu (config : SimulationConfig)
  | cuda (config : SimulationConfig)
deriving DecidableEq

def makeCpuBackend (config : SimulationConfig) : Option BackendKind := some (.cpu config)

/-- `make_cuda_backend`; the stub returns a null pointer. -/
def makeCudaBackend (platform : Platform) (config : SimulationConfig) : Option BackendKind :=
  if platform.cudaBackendCompiled then some (.cuda config) else none

structure SelectedRuntime where
  mode : RuntimeMode
  backend : Option BackendKind
deriving DecidableEq

def selectRuntime (platform : Platform) (requested : RuntimeMode) (config : SimulationConfig) :
    Except RuntimeSelectionError SelectedRuntime :=
  if requested = .observer then .ok ⟨.observer, none⟩
  else if requested = .cpu then .ok ⟨.cpu, makeCpuBackend config⟩
  else if requested = .cuda then
    if ¬ platform.cudaBackendCompiled then .error .cudaNotCompiled
    else if ¬ platform.cudaDeviceAvailable then .error .cudaDeviceUnavailable
    else .ok ⟨.cuda, makeCudaBackend platform config⟩
  else if platform.cudaBackendCompiled ∧ platform.cudaDeviceAvailable then
    .ok ⟨.cuda, makeCudaBackend platform config⟩
  else .ok ⟨.cpu, makeCpuBackend config⟩

/-- What the object computes when `step` is called: the reference, or the kernel, launched on
a backend with any device memory and in any order. -/
inductive BackendKind.Computes : BackendKind → SimulationBackend → Prop
  | cpu (config : SimulationConfig) (place : Placement) :
      Computes (.cpu config) (CpuBackend.step place ⟨config⟩)
  | cuda (config : SimulationConfig) (place : Placement) (backend : CudaBackend)
      (threads : List (Nat × Nat)) (hconfig : backend.config = config)
      (hlaunches : backend.Launches threads) :
      Computes (.cuda config) fun tick => (backend.step place threads tick).1

def BackendKind.config : BackendKind → SimulationConfig
  | .cpu config => config
  | .cuda config => config

/-- Both objects compute the scenes of the reference, at some positions. -/
theorem BackendKind.Computes.eq_step {kind : BackendKind} {backend : SimulationBackend}
    (h : kind.Computes backend) :
    ∃ place, ∀ tick, backend tick = CpuBackend.step place ⟨kind.config⟩ tick := by
  cases h with
  | cpu config place => exact ⟨place, fun _ => rfl⟩
  | cuda config place cuda threads hconfig hlaunches =>
    refine ⟨place, fun tick => ?_⟩
    show (cuda.step place threads tick).1 = CpuBackend.step place ⟨config⟩ tick
    rw [CudaBackend.step_eq hlaunches, hconfig]

/-- A server that asks for a mode of its own gets a backend of its configuration, never a null
pointer. -/
theorem selectRuntime_backend {platform : Platform} {requested : RuntimeMode}
    {config : SimulationConfig} {runtime : SelectedRuntime} (hrequested : requested ≠ .observer)
    (h : selectRuntime platform requested config = .ok runtime) :
    ∃ kind, runtime.backend = some kind ∧ kind.config = config := by
  have hcuda : platform.cudaBackendCompiled = true →
      makeCudaBackend platform config = some (.cuda config) := fun hcompiled => if_pos hcompiled
  unfold selectRuntime at h
  rw [if_neg hrequested] at h
  split at h
  · cases h
    exact ⟨.cpu config, rfl, rfl⟩
  · split at h
    · split at h
      · simp at h
      · rename_i hcompiled
        split at h
        · simp at h
        · cases h
          exact ⟨.cuda config, hcuda (not_not.mp hcompiled), rfl⟩
    · split at h
      · rename_i hboth
        cases h
        exact ⟨.cuda config, hcuda hboth.1, rfl⟩
      · cases h
        exact ⟨.cpu config, rfl, rfl⟩

namespace AuthoritativeServer

-- ---------------------------------------------------------------------------
-- One update to all observers
-- ---------------------------------------------------------------------------

structure ObserverEndpoint where
  address : List UInt8
  port : UInt16
deriving DecidableEq

/-- How `send_to_ipv4` ends, by the sends before it in the same call. -/
abbrev Sends : Type := Nat → ObserverEndpoint → List UInt8 → Except UdpError Nat

/-- A datagram that has left, with the observer that it was sent to. -/
abbrev Datagram : Type := ObserverEndpoint × List UInt8

/-- The loop of `publish_next`: its result, and the observers that were sent the update. -/
def sendEach (send : Sends) (bytes : List UInt8) :
    Nat → List ObserverEndpoint → Except PublishError Nat × List ObserverEndpoint
  | published, [] => (.ok published, [])
  | published, observer :: rest =>
    match send published observer bytes with
    | .error _ => (.error .socketError, [])
    | .ok _ =>
      let later := sendEach send bytes (published + 1) rest
      (later.1, observer :: later.2)

/-- A turn of the loop of the program: the call that it makes, and how its sends end. -/
structure Turn where
  call : Call
  send : Sends

structure Published where
  result : Except PublishError Nat
  datagrams : List Datagram
  server : AuthoritativeServer

def publishNext (observers : List ObserverEndpoint) (server : AuthoritativeServer) (turn : Turn) :
    Published :=
  match server.call turn.call with
  | (.error error, after) => ⟨.error error, [], after⟩
  | (.ok update, after) =>
    let sent := sendEach turn.send update.serialize 0 observers
    ⟨sent.1, sent.2.map fun observer => (observer, update.serialize), after⟩

-- ---------------------------------------------------------------------------
-- The program
-- ---------------------------------------------------------------------------

/-- How the program ends: the error that it reports, the ticks, and all that it has sent. -/
structure Served where
  error : Option PublishError
  ticks : Nat
  datagrams : List Datagram

/-- The loop of `main`, over the turns before a signal stops it; no maximum is zero. -/
def serve (observers : List ObserverEndpoint) (maximumTicks : UInt64) :
    AuthoritativeServer → Nat → List Turn → Served
  | _, ticks, [] => ⟨none, ticks, []⟩
  | server, ticks, turn :: rest =>
    if maximumTicks = 0 ∨ ticks < maximumTicks.toNat then
      let published := publishNext observers server turn
      match published.result with
      | .error error => ⟨some error, ticks, published.datagrams⟩
      | .ok _ =>
        let later := serve observers maximumTicks published.server (ticks + 1) rest
        { later with datagrams := published.datagrams ++ later.datagrams }
    else ⟨none, ticks, []⟩

/-- The turns that are taken if none fails. -/
def due (maximumTicks : UInt64) (ticks : Nat) (turns : List Turn) : List Turn :=
  if maximumTicks = 0 then turns else turns.take (maximumTicks.toNat - ticks)

/-- What is sent to each of some observers. -/
def round (observers : List ObserverEndpoint) (update : StateUpdate) : List Datagram :=
  observers.map fun observer => (observer, update.serialize)

/-- The datagrams for an observer, in order. -/
def received (observer : ObserverEndpoint) (datagrams : List Datagram) : List (List UInt8) :=
  (datagrams.filter fun datagram => datagram.1 = observer).map Prod.snd

/-- The loop has sent every update of the stream to every observer. -/
def Completed (observers : List ObserverEndpoint) (stream : List StateUpdate) (ticks : Nat)
    (served : Served) : Prop :=
  served = ⟨none, ticks + stream.length, stream.flatMap (round observers)⟩

/-- The loop has stopped at a send that failed: the updates before it have been sent to every
observer, and that update to those before the one that failed. -/
def Interrupted (observers : List ObserverEndpoint) (turns : List Turn)
    (stream : List StateUpdate) (ticks : Nat) (served : Served) : Prop :=
  ∃ sent last later reached failed behind turn error,
    stream = sent ++ last :: later ∧ observers = reached ++ failed :: behind ∧
      turns[sent.length]? = some turn ∧
      turn.send reached.length failed last.serialize = .error error ∧
      served = ⟨some .socketError, ticks + sent.length,
        sent.flatMap (round observers) ++ round reached last⟩

-- ---------------------------------------------------------------------------
-- One round
-- ---------------------------------------------------------------------------

/-- All observers are sent the update, or those before the first send that fails. -/
theorem sendEach_cases (send : Sends) (bytes : List UInt8) (published : Nat)
    (observers : List ObserverEndpoint) :
    sendEach send bytes published observers = (.ok (published + observers.length), observers) ∨
      ∃ reached failed behind error, observers = reached ++ failed :: behind ∧
        send (published + reached.length) failed bytes = .error error ∧
        sendEach send bytes published observers = (.error .socketError, reached) := by
  induction observers generalizing published with
  | nil => exact Or.inl rfl
  | cons observer rest ih =>
    rw [sendEach]
    cases hsend : send published observer bytes with
    | error error => exact Or.inr ⟨[], observer, rest, error, rfl, hsend, rfl⟩
    | ok size =>
      rcases ih (published + 1) with hall | ⟨reached, failed, behind, error, hrest, herror, hsome⟩
      · left
        dsimp only
        rw [hall, List.length_cons, Nat.add_assoc, Nat.add_comm 1]
      · right
        refine ⟨observer :: reached, failed, behind, error, ?_, ?_, ?_⟩
        · rw [hrest, List.cons_append]
        · rw [List.length_cons, Nat.add_comm reached.length, ← Nat.add_assoc]
          exact herror
        · dsimp only
          rw [hsome]

variable {observers : List ObserverEndpoint}

theorem publishNext_of_error {server after : AuthoritativeServer} {turn : Turn}
    {error : PublishError} (h : server.call turn.call = (.error error, after)) :
    publishNext observers server turn = ⟨.error error, [], after⟩ := by
  rw [publishNext, h]

/-- A call that succeeds sends a round, or the part of it before the first failure. -/
theorem publishNext_cases (observers : List ObserverEndpoint) {server : AuthoritativeServer} {turn : Turn} {update : StateUpdate}
    (h : (server.call turn.call).1 = .ok update) :
    publishNext observers server turn =
        ⟨.ok observers.length, round observers update, server.afterCall turn.call⟩ ∨
      ∃ reached failed behind error, observers = reached ++ failed :: behind ∧
        turn.send reached.length failed update.serialize = .error error ∧
        publishNext observers server turn =
          ⟨.error .socketError, round reached update, server.afterCall turn.call⟩ := by
  have hcall : server.call turn.call = (.ok update, server.afterCall turn.call) :=
    Prod.ext h rfl
  have hpublish : publishNext observers server turn =
      ⟨(sendEach turn.send update.serialize 0 observers).1,
        round (sendEach turn.send update.serialize 0 observers).2 update,
        server.afterCall turn.call⟩ := by
    rw [publishNext, hcall]
    rfl
  rw [hpublish]
  rcases sendEach_cases turn.send update.serialize 0 observers with
    hall | ⟨reached, failed, behind, error, hsplit, herror, hsome⟩
  · left
    rw [hall, Nat.zero_add]
  · right
    rw [Nat.zero_add] at herror
    exact ⟨reached, failed, behind, error, hsplit, herror, by rw [hsome]⟩

-- ---------------------------------------------------------------------------
-- The run
-- ---------------------------------------------------------------------------

/-- A maximum cuts the turns off. -/
theorem serve_eq_due (maximumTicks : UInt64) (server : AuthoritativeServer) (ticks : Nat)
    (turns : List Turn) :
    serve observers maximumTicks server ticks turns =
      serve observers 0 server ticks (due maximumTicks ticks turns) := by
  by_cases hzero : maximumTicks = 0
  · rw [hzero, due, if_pos rfl]
  · induction turns generalizing server ticks with
    | nil => rw [due, if_neg hzero, List.take_nil, serve, serve]
    | cons turn rest ih =>
      rw [due, if_neg hzero]
      by_cases hmore : ticks < maximumTicks.toNat
      · obtain ⟨left, hleft⟩ : ∃ left, maximumTicks.toNat - ticks = left + 1 :=
          ⟨maximumTicks.toNat - (ticks + 1), by omega⟩
        have hrest : due maximumTicks (ticks + 1) rest = rest.take left := by
          rw [due, if_neg hzero]
          congr 1
          omega
        rw [hleft, List.take_succ_cons, serve, serve, if_pos (Or.inr hmore), if_pos (Or.inl rfl)]
        dsimp only
        rw [ih, hrest]
      · have hnone : maximumTicks.toNat - ticks = 0 := by omega
        rw [hnone, List.take_zero, serve, serve, if_neg (not_or.mpr ⟨hzero, hmore⟩)]

/-- **While all calls succeed, the loop sends whole rounds**, up to the first send that fails. -/
theorem serve_of_accepts (observers : List ObserverEndpoint) {server : AuthoritativeServer}
    {turns : List Turn} (h : EachStep afterCall Accepts server (turns.map Turn.call)) (ticks : Nat) :
    (server.updates (turns.map Turn.call)).length = turns.length ∧
      (Completed observers (server.updates (turns.map Turn.call)) ticks
          (serve observers 0 server ticks turns) ∨
        Interrupted observers turns (server.updates (turns.map Turn.call)) ticks
          (serve observers 0 server ticks turns)) := by
  induction turns generalizing server ticks with
  | nil => exact ⟨rfl, Or.inl rfl⟩
  | cons turn rest ih =>
    obtain ⟨haccepts, hrest⟩ := h
    obtain ⟨update, hok⟩ := (call_ok_iff server turn.call).mpr haccepts
    obtain ⟨hlength, hcases⟩ := ih hrest (ticks + 1)
    have hstream : server.updates ((turn :: rest).map Turn.call) =
        update :: (server.afterCall turn.call).updates (rest.map Turn.call) := by
      rw [List.map_cons, updates, hok]
    generalize (server.afterCall turn.call).updates (rest.map Turn.call) = stream at *
    rw [hstream, List.length_cons, List.length_cons, hlength]
    refine ⟨rfl, ?_⟩
    rw [serve, if_pos (Or.inl rfl)]
    rcases publishNext_cases observers hok with
      hround | ⟨reached, failed, behind, error, hsplit, herror, hpart⟩
    · dsimp only
      rw [hround]
      dsimp only
      rcases hcases with hcompleted | ⟨sent, last, later, reached, failed, behind, failing, error,
        hsent, hsplit, hturn, herror, hserved⟩
      · left
        rw [hcompleted, Completed, List.length_cons, List.flatMap_cons]
        dsimp only
        rw [Nat.add_right_comm, Nat.add_assoc]
      · right
        refine ⟨update :: sent, last, later, reached, failed, behind, failing, error, ?_, hsplit,
          ?_, herror, ?_⟩
        · rw [hsent, List.cons_append]
        · rw [List.length_cons, List.getElem?_cons_succ]
          exact hturn
        · rw [hserved, List.length_cons, List.flatMap_cons, List.append_assoc]
          dsimp only
          rw [Nat.add_right_comm, Nat.add_assoc]
    · right
      dsimp only
      rw [hpart]
      exact ⟨[], update, stream, reached, failed, behind, turn, error, rfl, hsplit, rfl, herror,
        rfl⟩

-- ---------------------------------------------------------------------------
-- What an observer is sent
-- ---------------------------------------------------------------------------

theorem received_append (observer : ObserverEndpoint) (first second : List Datagram) :
    received observer (first ++ second) = received observer first ++ received observer second := by
  rw [received, List.filter_append, List.map_append]
  rfl

/-- An observer gets an update once for each of its entries. -/
theorem received_round (observer : ObserverEndpoint) (observers : List ObserverEndpoint)
    (update : StateUpdate) :
    received observer (round observers update) =
      List.replicate (observers.count observer) update.serialize := by
  induction observers with
  | nil => rfl
  | cons head rest ih =>
    have hcons : round (head :: rest) update = [(head, update.serialize)] ++ round rest update :=
      rfl
    rw [hcons, received_append, ih, List.count_cons]
    by_cases hhead : head = observer
    · have hone : received observer [(head, update.serialize)] = [update.serialize] := by
        simp [received, hhead]
      rw [hone, if_pos (by simpa using hhead), List.replicate_succ]
      rfl
    · have hnone : received observer [(head, update.serialize)] = [] := by
        simp [received, hhead]
      rw [hnone, if_neg (by simpa using hhead)]
      rfl

theorem received_rounds {observer : ObserverEndpoint} (hmem : observer ∈ observers)
    (hnodup : observers.Nodup) (stream : List StateUpdate) :
    received observer (stream.flatMap (round observers)) = stream.map StateUpdate.serialize := by
  induction stream with
  | nil => rfl
  | cons update later ih =>
    rw [List.flatMap_cons, received_append, ih, received_round, hnodup.count, if_pos hmem]
    rfl

/-- Each observer has got the first updates of the stream: those of the ticks, or one more. -/
theorem received_prefix {observer : ObserverEndpoint} (hmem : observer ∈ observers)
    (hnodup : observers.Nodup) {turns : List Turn} {stream : List StateUpdate} {served : Served}
    (h : Completed observers stream 0 served ∨ Interrupted observers turns stream 0 served) :
    ∃ count, (count = served.ticks ∨ count = served.ticks + 1) ∧
      received observer served.datagrams = (stream.take count).map StateUpdate.serialize := by
  rcases h with hcompleted | ⟨sent, last, later, reached, failed, behind, _, _, hstream, hsplit,
    _, _, hserved⟩
  · refine ⟨stream.length, Or.inl ?_, ?_⟩
    · rw [hcompleted]
      exact (Nat.zero_add _).symm
    · rw [hcompleted, List.take_length]
      exact received_rounds hmem hnodup stream
  · have hreached : reached.Nodup := by
      rw [hsplit] at hnodup
      exact hnodup.of_append_left
    have hdatagrams : received observer served.datagrams = sent.map StateUpdate.serialize ++
        List.replicate (reached.count observer) last.serialize := by
      rw [hserved]
      dsimp only
      rw [received_append, received_rounds hmem hnodup, received_round]
    have hticks : served.ticks = sent.length := by
      rw [hserved]
      exact Nat.zero_add _
    by_cases hbefore : observer ∈ reached
    · refine ⟨sent.length + 1, Or.inr (by rw [hticks]), ?_⟩
      rw [hdatagrams, hreached.count, if_pos hbefore, hstream, List.take_length_add_append,
        List.map_append]
      rfl
    · refine ⟨sent.length, Or.inl hticks.symm, ?_⟩
      rw [hdatagrams, hreached.count, if_neg hbefore, hstream, List.take_left]
      exact List.append_nil _

-- ---------------------------------------------------------------------------
-- The loop on the backend that was chosen
-- ---------------------------------------------------------------------------

section Chosen

variable {backend : SimulationBackend} {sessionId snapshotInterval : UInt64}
  {hsession : sessionId ≠ 0} {config : SimulationConfig} {turns : List Turn}

/-- A call of a backend of the configuration meets a scene that fits, or never does. -/
theorem publishable_computed {kind : BackendKind} {computed : SimulationBackend}
    (h : kind.Computes computed) (tick : UInt64) :
    (computed tick).Publishable ↔ kind.config.count.toNat ≤ maximumObservers := by
  obtain ⟨place, hstep⟩ := h.eq_step
  rw [hstep tick]
  exact publishable_step_iff place ⟨kind.config⟩ tick

theorem accepts_of_fits
    (hturns : ∀ turn ∈ turns, ∃ kind : BackendKind,
      kind.config = config ∧ kind.Computes turn.call.backend)
    (hfits : config.count.toNat ≤ maximumObservers) (hfew : turns.length < 2 ^ 64) :
    EachStep afterCall Accepts (create backend sessionId snapshotInterval hsession)
      (turns.map Turn.call) := by
  refine (eachStep_accepts_iff (by decide : 0 < 2 ^ 64) rfl rfl _).mpr ⟨?_, ?_⟩
  · rw [List.length_map, Nat.zero_add]
    exact hfew
  · intro index next hnext
    rw [List.getElem?_map, Option.map_eq_some_iff] at hnext
    obtain ⟨turn, hturn, rfl⟩ := hnext
    obtain ⟨kind, hkind, hcomputes⟩ := hturns turn (List.mem_of_getElem? hturn)
    rw [publishable_computed hcomputes, hkind]
    exact hfits

/-- With too many observers, the first call fails, and the program with it. -/
theorem serve_of_many {turn : Turn} {rest : List Turn} {kind : BackendKind}
    (hcomputes : kind.Computes turn.call.backend)
    (hmany : maximumObservers < kind.config.count.toNat) :
    serve observers 0 (create backend sessionId snapshotInterval hsession) 0 (turn :: rest) =
      ⟨some .serializationFailed, 0, []⟩ := by
  generalize hserver : create backend sessionId snapshotInterval hsession = server
  have hrefused : ¬ Accepts server turn.call := by
    intro haccepts
    have hfits := (publishable_computed hcomputes _).mp haccepts.scene
    omega
  cases hcall : server.call turn.call with
  | mk result after =>
    cases result with
    | ok update =>
      exact absurd ((call_ok_iff server turn.call).mp ⟨update, by rw [hcall]⟩) hrefused
    | error error =>
      have herror : error = .serializationFailed := nextUpdate_error (congrArg Prod.fst hcall)
      rw [serve, if_pos (Or.inl rfl), publishNext_of_error hcall, herror]

/-- **The publishing loop.** On whatever backend the selection has given a server, and in any
run of fewer than `2 ^ 64` turns, the loop sends the updates of one gapless stream, each to all
observers in their order, until a send fails; that update has then reached the observers before,
and if the observers are distinct each has a prefix of the stream, of one length up to one. This
takes at most 1157 simulated observers; with more the first turn fails, and nothing is sent at
all. -/
theorem serve_rounds {platform : Platform} {requested : RuntimeMode} {runtime : SelectedRuntime}
    (hrequested : requested ≠ .observer)
    (hselect : selectRuntime platform requested config = .ok runtime)
    (backend : SimulationBackend) (hsession : sessionId ≠ 0) (snapshotInterval : UInt64)
    (observers : List ObserverEndpoint) (maximumTicks : UInt64)
    (hturns : ∀ turn ∈ turns, ∀ kind ∈ runtime.backend, kind.Computes turn.call.backend)
    (hfew : turns.length < 2 ^ 64) :
    let server := create backend sessionId snapshotInterval hsession
    let planned := due maximumTicks 0 turns
    let stream := server.updates (planned.map Turn.call)
    let served := serve observers maximumTicks server 0 turns
    (config.count.toNat ≤ maximumObservers →
      Gapless stream ∧ stream.length = planned.length ∧
        (Completed observers stream 0 served ∨ Interrupted observers planned stream 0 served) ∧
        (observers.Nodup → ∀ observer ∈ observers, ∃ count,
          (count = served.ticks ∨ count = served.ticks + 1) ∧
            received observer served.datagrams =
              (stream.take count).map StateUpdate.serialize)) ∧
      (maximumObservers < config.count.toNat → planned ≠ [] →
        served = ⟨some .serializationFailed, 0, []⟩) := by
  intro server planned stream served
  obtain ⟨kind, hkind, hconfig⟩ := selectRuntime_backend hrequested hselect
  have hsublist : planned.Sublist turns := by
    show (due maximumTicks 0 turns).Sublist turns
    unfold due
    split
    · exact List.Sublist.refl turns
    · exact List.take_sublist _ turns
  have hcomputes : ∀ turn ∈ planned, kind.Computes turn.call.backend := fun turn hturn =>
    hturns turn (hsublist.subset hturn) kind hkind
  have hserved : served = serve observers 0 server 0 planned := serve_eq_due ..
  constructor
  · intro hfits
    have haccepts : EachStep afterCall Accepts server (planned.map Turn.call) :=
      accepts_of_fits (fun turn hturn => ⟨kind, hconfig, hcomputes turn hturn⟩) hfits
        (hsublist.length_le.trans_lt hfew)
    obtain ⟨hlength, hcases⟩ := serve_of_accepts observers haccepts 0
    rw [← hserved] at hcases
    exact ⟨gapless_updates rfl haccepts, hlength, hcases,
      fun hnodup observer hmem => received_prefix hmem hnodup hcases⟩
  · intro hmany hne
    obtain ⟨turn, rest, hplanned⟩ := List.exists_cons_of_ne_nil hne
    rw [hserved, hplanned]
    refine serve_of_many (hcomputes turn ?_) (by rw [hconfig]; exact hmany)
    rw [hplanned]
    exact List.mem_cons_self

end Chosen

namespace PublishingExample

def listeners : List ObserverEndpoint :=
  [⟨asciiText "10.0.0.7", 9107⟩, ⟨asciiText "10.0.0.8", 9108⟩]

def config : SimulationConfig := ⟨2, 5⟩

/-- Everyone at the center. -/
def center : Placement := fun _ _ _ => (0, 0)

theorem session_ne : (77 : UInt64) ≠ 0 := by decide

def server : AuthoritativeServer := create (fun _ => TopologyScene.empty) 77 60 session_ne

/-- A turn in which the second listener is reachable, or not. -/
def turn (tick : UInt64) (reachable : Bool) : Turn where
  call := ⟨CpuBackend.step center ⟨config⟩, tick * 33333⟩
  send before _ bytes :=
    if before = 1 ∧ ¬ reachable then .error ⟨⟨101, "network is unreachable"⟩⟩ else .ok bytes.length

def turns : List Turn := [turn 1 true, turn 2 false, turn 3 true]

theorem computes_turns : ∀ turn ∈ turns, ∀ kind ∈ makeCpuBackend config,
    kind.Computes turn.call.backend := by
  rintro turn hturn kind ⟨⟩
  simp only [turns, List.mem_cons, List.not_mem_nil, or_false] at hturn
  rcases hturn with rfl | rfl | rfl
  · exact .cpu config center
  · exact .cpu config center
  · exact .cpu config center

end PublishingExample

open PublishingExample in
/-- The second listener is lost at the second tick; the first one has got that update. -/
theorem serve_rounds_unreachable :
    (serve listeners 0 server 0 turns).ticks = 1 ∧
      (serve listeners 0 server 0 turns).datagrams.length = 3 ∧
      ∀ observer ∈ listeners, ∃ count, (count = 1 ∨ count = 2) ∧
        received observer (serve listeners 0 server 0 turns).datagrams =
          ((server.updates (turns.map Turn.call)).take count).map StateUpdate.serialize := by
  have hticks : (serve listeners 0 server 0 turns).ticks = 1 := by decide +kernel
  have hselect : selectRuntime ⟨false, true⟩ .automatic config =
      .ok ⟨.cpu, makeCpuBackend config⟩ := rfl
  have hruns := (serve_rounds (by decide) hselect (fun _ => TopologyScene.empty) session_ne
    60 listeners 0 computes_turns (by decide)).1 (by decide)
  refine ⟨hticks, by decide +kernel, fun observer hmem => ?_⟩
  obtain ⟨count, hcount, hreceived⟩ := hruns.2.2.2 (by decide) observer hmem
  have hticks' : (serve listeners 0 (create (fun _ => TopologyScene.empty) 77 60 session_ne) 0
    turns).ticks = 1 := hticks
  rw [hticks'] at hcount
  exact ⟨count, hcount, hreceived⟩

end AuthoritativeServer

end SiliconSwitch.Simulation
