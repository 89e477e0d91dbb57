import SiliconSwitch.Library.Ownership
import SiliconSwitch.Library.Transition
import SiliconSwitch.Transport.Tcp
import SiliconSwitch.Transport.Udp

/-!
# Socket handles

`SocketHandle` of `socket_handle.cpp`, the classes that own one (`TcpConnection`,
`TcpServer`, `UdpSocket`) and the functions that make their objects. Objects are the places
of a program at which a handle lives; the operating system closes a descriptor that is open,
and takes note of a close of any other.

## Results

* `establish_spec` — a function that fails leaves the process as it was; one that succeeds
  has opened one descriptor, and the new object has it.
* `sound_step`     — every operation keeps the descriptors and their owners in step.
* `descriptors_owned` — over whole programs: no descriptor is closed twice, shared or lost.
-/

namespace SiliconSwitch.Transport

open SiliconSwitch.Library

abbrev NativeSocket : Type := Int

def invalidSocket : NativeSocket := -1

structure SocketHandle where
  handle : NativeSocket
deriving DecidableEq

namespace SocketHandle

def valid (self : SocketHandle) : Bool := self.handle ≠ invalidSocket

/-- The descriptor of a valid handle. -/
def descriptor? (self : SocketHandle) : Option NativeSocket :=
  if self.valid then some self.handle else none

end SocketHandle

/-- The handles of a program and what the operating system knows of its descriptors. -/
structure Process (ι : Type) where
  /-- The handle at each place, if an object lives there. -/
  objects : ι → Option SocketHandle
  opened : Finset NativeSocket
  /-- Arguments of `close` that were not open. -/
  misclosed : List NativeSocket

namespace Process

variable {ι : Type}

/-- `socket` or `accept`, which gives a descriptor. -/
def acquire (process : Process ι) (descriptor : NativeSocket) : Process ι :=
  { process with opened := insert descriptor process.opened }

/-- `close`. -/
def close (process : Process ι) (descriptor : NativeSocket) : Process ι :=
  if descriptor ∈ process.opened then
    { process with opened := process.opened.erase descriptor }
  else { process with misclosed := process.misclosed ++ [descriptor] }

/-- A descriptor that has just been opened is closed again. -/
theorem close_acquire (process : Process ι) {descriptor : NativeSocket}
    (h : descriptor ∉ process.opened) :
    (process.acquire descriptor).close descriptor = process := by
  have hopen : descriptor ∈ (process.acquire descriptor).opened := Finset.mem_insert_self ..
  rw [close, if_pos hopen, acquire]
  dsimp only
  rw [Finset.erase_insert h]

@[simp] theorem close_objects (process : Process ι) (descriptor : NativeSocket) :
    (process.close descriptor).objects = process.objects := by
  unfold close
  split <;> rfl

variable [DecidableEq ι]

def put (process : Process ι) (place : ι) (object : Option SocketHandle) : Process ι :=
  { process with objects := Function.update process.objects place object }

/-- `explicit SocketHandle(NativeSocket)`. -/
def construct (process : Process ι) (place : ι) (handle : NativeSocket) : Process ι :=
  process.put place (some ⟨handle⟩)

/-- `release`. -/
def release (process : Process ι) (place : ι) : NativeSocket × Process ι :=
  match process.objects place with
  | none => (invalidSocket, process)
  | some self => (self.handle, process.put place (some ⟨invalidSocket⟩))

/-- `reset`. -/
def reset (process : Process ι) (place : ι) (replacement : NativeSocket) : Process ι :=
  match process.objects place with
  | none => process
  | some self =>
    let closed := if self.valid then process.close self.handle else process
    closed.put place (some ⟨replacement⟩)

/-- `~SocketHandle`. -/
def destroy (process : Process ι) (place : ι) : Process ι :=
  (process.reset place invalidSocket).put place none

/-- `SocketHandle(SocketHandle&&)`. -/
def moveConstruct (process : Process ι) (target source : ι) : Process ι :=
  let released := process.release source
  released.2.construct target released.1

/-- `operator=(SocketHandle&&)`. -/
def moveAssign (process : Process ι) (target source : ι) : Process ι :=
  if target ≠ source then
    let released := process.release source
    released.2.reset target released.1
  else process

/-- The constructor of an owning class, whose parameter is a handle too. -/
def own (process : Process ι) (target parameter source : ι) : Process ι :=
  ((process.moveConstruct parameter source).moveConstruct target parameter).destroy parameter

end Process

-- ---------------------------------------------------------------------------
-- The functions that open sockets
-- ---------------------------------------------------------------------------

/-- Where a function makes its object: the local handle, the parameter of the constructor,
and the object that is returned. -/
structure Places (ι : Type) where
  socket : ι
  parameter : ι
  target : ι

def invalidAddress : SocketError := ⟨0, "invalid IPv4 address"⟩

section Opening

variable {ι : Type} [DecidableEq ι]

/-- What the functions have in common: `socket` gives `created`, `checks` is what the calls
on it come to, and every return destroys the local handle. -/
def establish (process : Process ι) (places : Places ι) (created : Except SocketError NativeSocket)
    (checks : Except SocketError Unit) : Except SocketError Unit × Process ι :=
  match created with
  | .error error =>
    (.error error, (process.construct places.socket invalidSocket).destroy places.socket)
  | .ok descriptor =>
    let process := (process.acquire descriptor).construct places.socket descriptor
    match checks with
    | .error error => (.error error, process.destroy places.socket)
    | .ok () =>
      (.ok (), (process.own places.target places.parameter places.socket).destroy places.socket)

def TcpConnection.connectIpv4 (process : Process ι) (places : Places ι)
    (created : Except SocketError NativeSocket) (addressValid : Bool)
    (connected : Except SocketError Unit) : Except TcpError Unit × Process ι :=
  let result := establish process places created
    (if ¬ addressValid then .error invalidAddress else connected)
  (result.1.mapError systemError, result.2)

def TcpServer.listenIpv4 (process : Process ι) (places : Places ι)
    (created : Except SocketError NativeSocket) (addressValid : Bool)
    (bound listening : Except SocketError Unit) : Except TcpError Unit × Process ι :=
  let result := establish process places created
    (if ¬ addressValid then .error invalidAddress else bound.bind fun _ => listening)
  (result.1.mapError systemError, result.2)

/-- Here the address comes first. -/
def UdpSocket.bindIpv4 (process : Process ι) (places : Places ι)
    (created : Except SocketError NativeSocket) (addressValid : Bool)
    (bound : Except SocketError Unit) : Except UdpError Unit × Process ι :=
  if ¬ addressValid then (.error ⟨invalidAddress⟩, process)
  else
    let result := establish process places created bound
    (result.1.mapError UdpError.mk, result.2)

/-- What one call of `accept` does. -/
inductive AcceptOutcome
  | accepted (descriptor : NativeSocket)
  | interrupted
  | failed (error : SocketError)

/-- `TcpServer::accept`; it is running when there is no further outcome. The handle of the
accepted descriptor is the parameter itself. -/
def TcpServer.accept (process : Process ι) (places : Places ι) :
    List AcceptOutcome → Progress TcpError Unit × Process ι
  | [] => (.running, process)
  | .interrupted :: rest => TcpServer.accept process places rest
  | .failed error :: _ => (.failed (systemError error), process)
  | .accepted descriptor :: _ =>
    let process := (process.acquire descriptor).construct places.parameter descriptor
    (.returned (),
     (process.moveConstruct places.target places.parameter).destroy places.parameter)

end Opening

-- ---------------------------------------------------------------------------
-- What the operations do
-- ---------------------------------------------------------------------------

namespace Process

variable {ι : Type} [DecidableEq ι]

@[simp] theorem put_objects_self (process : Process ι) (place : ι) (object : Option SocketHandle) :
    (process.put place object).objects place = object :=
  Function.update_self ..

theorem put_objects_of_ne (process : Process ι) {place other : ι} (object : Option SocketHandle)
    (h : other ≠ place) : (process.put place object).objects other = process.objects other :=
  Function.update_of_ne h ..

theorem put_put (process : Process ι) (place : ι) (first second : Option SocketHandle) :
    (process.put place first).put place second = process.put place second := by
  rw [put, put, put, Function.update_idem]

theorem put_comm (process : Process ι) {place other : ι} (first second : Option SocketHandle)
    (h : place ≠ other) :
    (process.put place first).put other second = (process.put other second).put place first := by
  rw [put, put, put, put, Function.update_comm h]

/-- An object that does not live is not there. -/
theorem put_none (process : Process ι) {place : ι} (h : process.objects place = none) :
    process.put place none = process := by
  rw [put, ← h, Function.update_eq_self]

theorem close_put (process : Process ι) (place : ι) (object : Option SocketHandle)
    (descriptor : NativeSocket) :
    (process.put place object).close descriptor = (process.close descriptor).put place object := by
  unfold close
  split
  · rename_i hopen
    rw [if_pos (show descriptor ∈ process.opened from hopen)]
    rfl
  · rename_i hclosed
    rw [if_neg (show descriptor ∉ process.opened from hclosed)]
    rfl

theorem release_eq {process : Process ι} {place : ι} {self : SocketHandle}
    (h : process.objects place = some self) :
    process.release place = (self.handle, process.put place (some ⟨invalidSocket⟩)) := by
  rw [release, h]

theorem moveConstruct_eq {process : Process ι} {target source : ι} {self : SocketHandle}
    (h : process.objects source = some self) :
    process.moveConstruct target source =
      (process.put source (some ⟨invalidSocket⟩)).put target (some self) := by
  rw [moveConstruct, release_eq h]
  rfl

/-- The destructor closes what the handle has, and the object is gone. -/
theorem destroy_eq {process : Process ι} {place : ι} {self : SocketHandle}
    (h : process.objects place = some self) :
    process.destroy place =
      (if self.valid then process.close self.handle else process).put place none := by
  rw [destroy, reset, h]
  dsimp only
  rw [put_put]

/-- Nothing is closed where the handle has been moved away. -/
theorem destroy_put_invalid (process : Process ι) (place : ι) :
    (process.put place (some ⟨invalidSocket⟩)).destroy place = process.put place none := by
  rw [destroy_eq (put_objects_self ..)]
  show (process.put place (some ⟨invalidSocket⟩)).put place none = _
  rw [put_put]

theorem destroy_put_valid (process : Process ι) (place : ι) {self : SocketHandle}
    (h : self.valid) :
    (process.put place (some self)).destroy place = (process.close self.handle).put place none := by
  rw [destroy_eq (put_objects_self ..), if_pos h, close_put, put_put]

end Process

-- ---------------------------------------------------------------------------
-- A function that opens a socket
-- ---------------------------------------------------------------------------

section Opening

variable {ι : Type} [DecidableEq ι]

/-- Three places at which no object lives yet. -/
structure Unused (process : Process ι) (places : Places ι) : Prop where
  socket : process.objects places.socket = none
  parameter : process.objects places.parameter = none
  target : process.objects places.target = none
  socket_ne_parameter : places.socket ≠ places.parameter
  socket_ne_target : places.socket ≠ places.target
  parameter_ne_target : places.parameter ≠ places.target

/-- The operating system gives no descriptor that is open. -/
def Fresh (process : Process ι) (descriptor : NativeSocket) : Prop :=
  descriptor ∉ process.opened ∧ descriptor ≠ invalidSocket

theorem valid_of_ne {descriptor : NativeSocket} (h : descriptor ≠ invalidSocket) :
    (SocketHandle.mk descriptor).valid :=
  decide_eq_true h

/-- The handle passes through the parameter into the object. -/
theorem own_eq {process : Process ι} {places : Places ι} (h : Unused process places)
    (self : SocketHandle) :
    (process.put places.socket (some self)).own places.target places.parameter places.socket =
      (process.put places.target (some self)).put places.socket (some ⟨invalidSocket⟩) := by
  have hparameter := h.parameter_ne_target
  rw [Process.own, Process.moveConstruct_eq (process.put_objects_self places.socket (some self)),
    Process.put_put, Process.moveConstruct_eq (Process.put_objects_self ..), Process.put_put,
    Process.put_comm _ _ _ hparameter, Process.destroy_put_invalid, Process.put_none,
    Process.put_comm _ _ _ h.socket_ne_target]
  rw [Process.put_objects_of_ne _ _ hparameter,
    Process.put_objects_of_ne _ _ h.socket_ne_parameter.symm, h.parameter]

/-- **A function that fails leaves the process as it was; one that succeeds has opened one
descriptor, and the new object has it.** -/
theorem establish_spec {process : Process ι} {places : Places ι} (h : Unused process places)
    {created : Except SocketError NativeSocket}
    (hcreated : ∀ descriptor, created = .ok descriptor → Fresh process descriptor)
    (checks : Except SocketError Unit) :
    (∃ error, establish process places created checks = (.error error, process)) ∨
    ∃ descriptor, Fresh process descriptor ∧
      establish process places created checks =
        (.ok (), (process.acquire descriptor).put places.target (some ⟨descriptor⟩)) := by
  cases created with
  | error error =>
    refine .inl ⟨error, ?_⟩
    rw [establish, Process.construct, Process.destroy_put_invalid, Process.put_none _ h.socket]
  | ok descriptor =>
    obtain ⟨hfresh, hvalid⟩ := hcreated descriptor rfl
    cases checks with
    | error error =>
      refine .inl ⟨error, ?_⟩
      rw [establish, Process.construct, Process.destroy_put_valid _ _ (valid_of_ne hvalid),
        Process.close_acquire _ hfresh, Process.put_none _ h.socket]
    | ok _ =>
      refine .inr ⟨descriptor, ⟨hfresh, hvalid⟩, ?_⟩
      have hunused : Unused (process.acquire descriptor) places :=
        ⟨h.socket, h.parameter, h.target, h.socket_ne_parameter, h.socket_ne_target,
          h.parameter_ne_target⟩
      rw [establish, Process.construct, own_eq hunused, Process.destroy_put_invalid,
        Process.put_none]
      rw [Process.put_objects_of_ne _ _ h.socket_ne_target]
      exact h.socket

/-- The handle of an accepted descriptor passes into the object. -/
theorem accept_spec {process : Process ι} {places : Places ι} (h : Unused process places)
    {outcomes : List AcceptOutcome}
    (houtcomes : ∀ descriptor, .accepted descriptor ∈ outcomes → Fresh process descriptor) :
    TcpServer.accept process places outcomes = (.running, process) ∨
    (∃ error, TcpServer.accept process places outcomes = (.failed (systemError error), process)) ∨
    ∃ descriptor, Fresh process descriptor ∧
      TcpServer.accept process places outcomes =
        (.returned (), (process.acquire descriptor).put places.target (some ⟨descriptor⟩)) := by
  induction outcomes with
  | nil => exact .inl rfl
  | cons outcome rest ih =>
    cases outcome with
    | interrupted =>
      exact ih fun descriptor hmem => houtcomes descriptor (List.mem_cons_of_mem _ hmem)
    | failed error => exact .inr (.inl ⟨error, rfl⟩)
    | accepted descriptor =>
      refine .inr (.inr ⟨descriptor, houtcomes descriptor List.mem_cons_self, ?_⟩)
      have hne := h.parameter_ne_target
      rw [TcpServer.accept, Process.construct,
        Process.moveConstruct_eq (Process.put_objects_self ..),
        Process.put_put, Process.put_comm _ _ _ hne, Process.destroy_put_invalid, Process.put_none]
      rw [Process.put_objects_of_ne _ _ hne]
      exact h.parameter

end Opening

-- ---------------------------------------------------------------------------
-- Descriptors and their owners
-- ---------------------------------------------------------------------------

section Programs

variable {ι : Type}

/-- The descriptor that the object at a place has. -/
def Process.held (process : Process ι) (place : ι) : Option NativeSocket :=
  (process.objects place).bind SocketHandle.descriptor?

/-- Every open descriptor has one owner, and no close has failed. -/
structure Sound (process : Process ι) : Prop where
  owned : Owned process.held process.opened
  closed : process.misclosed = []

/-- The error of a function, if it has failed, and the process after it. -/
def report {ε : Type} (socketError : ε → SocketError) :
    Except ε Unit × Process ι → Option SocketError × Process ι
  | (.ok (), after) => (none, after)
  | (.error error, after) => (some (socketError error), after)

/-- The error of a class keeps that of the socket. -/
theorem report_mapError {ε : Type} {f : SocketError → ε} {socketError : ε → SocketError}
    (h : ∀ error, socketError (f error) = error) (result : Except SocketError Unit × Process ι) :
    report socketError (result.1.mapError f, result.2) = report id result := by
  obtain ⟨outcome, after⟩ := result
  cases outcome with
  | error error =>
    show (some (socketError (f error)), after) = (some error, after)
    rw [h]
  | ok value => rfl

variable [DecidableEq ι]

theorem Process.held_put (process : Process ι) (place : ι) (object : Option SocketHandle) :
    (process.put place object).held =
      Function.update process.held place (object.bind SocketHandle.descriptor?) := by
  funext other
  by_cases hsame : other = place
  · subst hsame
    rw [Process.held, Process.put_objects_self, Function.update_self]
  · rw [Process.held, Process.put_objects_of_ne _ _ hsame, Function.update_of_ne hsame,
      Process.held]

/-- A new descriptor for a new object. -/
theorem Sound.acquire {process : Process ι} {place : ι} {descriptor : NativeSocket}
    (h : Sound process) (hplace : process.objects place = none)
    (hfresh : Fresh process descriptor) :
    Sound ((process.acquire descriptor).put place (some ⟨descriptor⟩)) := by
  have hidle : process.held place = none := by
    rw [Process.held, hplace]
    rfl
  have hdescriptor : (SocketHandle.mk descriptor).descriptor? = some descriptor := by
    rw [SocketHandle.descriptor?, if_pos (valid_of_ne hfresh.2)]
  refine ⟨?_, h.closed⟩
  rw [Process.held_put]
  show Owned (Function.update process.held place (SocketHandle.mk descriptor).descriptor?) _
  rw [hdescriptor]
  exact h.owned.acquire hidle hfresh.1

/-- A handle closes what it has, and then has nothing. -/
theorem Sound.vacate {process : Process ι} {place : ι} {self : SocketHandle}
    {object : Option SocketHandle} (h : Sound process) (hplace : process.objects place = some self)
    (hobject : object.bind SocketHandle.descriptor? = none) :
    Sound ((if self.valid then process.close self.handle else process).put place object) := by
  have hheld : process.held place = self.descriptor? := by
    rw [Process.held, hplace]
    rfl
  by_cases hvalid : self.valid
  · rw [SocketHandle.descriptor?, if_pos hvalid] at hheld
    have hopen := h.owned.live_of_held hheld
    rw [if_pos hvalid, Process.close, if_pos hopen]
    refine ⟨?_, h.closed⟩
    rw [Process.held_put, hobject]
    exact h.owned.drop hheld
  · rw [SocketHandle.descriptor?, if_neg hvalid] at hheld
    rw [if_neg hvalid]
    refine ⟨?_, h.closed⟩
    rw [Process.held_put, hobject, ← hheld, Function.update_eq_self]
    exact h.owned

/-- A handle passes from one object to another, which has none. -/
theorem Sound.move {process : Process ι} {target source : ι} {self : SocketHandle}
    (h : Sound process) (hsource : process.objects source = some self)
    (htarget : process.held target = none) :
    Sound ((process.put source (some ⟨invalidSocket⟩)).put target (some self)) := by
  have hheld : process.held source = self.descriptor? := by
    rw [Process.held, hsource]
    rfl
  refine ⟨?_, h.closed⟩
  rw [Process.held_put, Process.held_put]
  show Owned (Function.update (Function.update process.held source none) target self.descriptor?) _
  rw [← hheld]
  exact h.owned.transfer htarget

/-- Move assignment closes what the target had. -/
theorem Process.moveAssign_eq {process : Process ι} {target source : ι} {self old : SocketHandle}
    (hne : target ≠ source) (hsource : process.objects source = some self)
    (htarget : process.objects target = some old) :
    process.moveAssign target source =
      (((if old.valid then process.close old.handle else process).put target
        (some ⟨invalidSocket⟩)).put source (some ⟨invalidSocket⟩)).put target (some self) := by
  have htarget' : (process.put source (some ⟨invalidSocket⟩)).objects target = some old := by
    rw [Process.put_objects_of_ne _ _ hne, htarget]
  rw [Process.moveAssign, if_pos hne, Process.release_eq hsource]
  dsimp only
  rw [Process.reset, htarget', Process.put_comm _ _ _ hne, Process.put_put]
  dsimp only
  by_cases hvalid : old.valid
  · rw [if_pos hvalid, if_pos hvalid, Process.close_put]
  · rw [if_neg hvalid, if_neg hvalid]

-- ---------------------------------------------------------------------------
-- Programs
-- ---------------------------------------------------------------------------

inductive SocketStep (ι : Type)
  | connect (places : Places ι) (created : Except SocketError NativeSocket) (addressValid : Bool)
    (connected : Except SocketError Unit)
  | listen (places : Places ι) (created : Except SocketError NativeSocket) (addressValid : Bool)
    (bound listening : Except SocketError Unit)
  | bind (places : Places ι) (created : Except SocketError NativeSocket) (addressValid : Bool)
    (bound : Except SocketError Unit)
  | accept (places : Places ι) (outcomes : List AcceptOutcome)
  | moveConstruct (target source : ι)
  | moveAssign (target source : ι)
  | destroy (place : ι)

/-- What a step reports, and the process after it. -/
def SocketStep.perform (process : Process ι) : SocketStep ι → Option SocketError × Process ι
  | .connect places created addressValid connected =>
    report TcpError.socketError
      (TcpConnection.connectIpv4 process places created addressValid connected)
  | .listen places created addressValid bound listening =>
    report TcpError.socketError
      (TcpServer.listenIpv4 process places created addressValid bound listening)
  | .bind places created addressValid bound =>
    report UdpError.socketError (UdpSocket.bindIpv4 process places created addressValid bound)
  | .accept places outcomes =>
    match TcpServer.accept process places outcomes with
    | (.failed error, after) => (some error.socketError, after)
    | (_, after) => (none, after)
  | .moveConstruct target source => (none, process.moveConstruct target source)
  | .moveAssign target source => (none, process.moveAssign target source)
  | .destroy place => (none, process.destroy place)

/-- What the language and the operating system see to: an object is made where none lives and
used while it lives, and a descriptor that is given is not open. -/
def SocketStep.Allowed (process : Process ι) : SocketStep ι → Prop
  | .connect places created _ _ | .listen places created _ _ _ | .bind places created _ _ =>
    Unused process places ∧
      ∀ descriptor, created = .ok descriptor → Fresh process descriptor
  | .accept places outcomes =>
    Unused process places ∧
      ∀ descriptor, .accepted descriptor ∈ outcomes → Fresh process descriptor
  | .moveConstruct target source =>
    process.objects target = none ∧ (process.objects source).isSome
  | .moveAssign target source =>
    (process.objects target).isSome ∧ (process.objects source).isSome
  | .destroy place => (process.objects place).isSome

/-- What a step that may open a socket comes to. -/
inductive Attempt (process : Process ι) : Option SocketError × Process ι → Prop
  | unchanged (failure : Option SocketError) : Attempt process (failure, process)
  | opened {target : ι} {descriptor : NativeSocket} (htarget : process.objects target = none)
    (hfresh : Fresh process descriptor) :
    Attempt process (none, (process.acquire descriptor).put target (some ⟨descriptor⟩))

theorem attempt_establish {process : Process ι} {places : Places ι} (h : Unused process places)
    {created : Except SocketError NativeSocket}
    (hcreated : ∀ descriptor, created = .ok descriptor → Fresh process descriptor)
    (checks : Except SocketError Unit) :
    Attempt process (report id (establish process places created checks)) := by
  rcases establish_spec h hcreated checks with ⟨error, hfailed⟩ | ⟨descriptor, hfresh, hopened⟩
  · rw [hfailed]
    exact .unchanged (some error)
  · rw [hopened]
    exact .opened h.target hfresh

theorem attempt_accept {process : Process ι} {places : Places ι} (h : Unused process places)
    {outcomes : List AcceptOutcome}
    (houtcomes : ∀ descriptor, .accepted descriptor ∈ outcomes → Fresh process descriptor) :
    Attempt process ((SocketStep.accept places outcomes).perform process) := by
  rw [SocketStep.perform]
  rcases accept_spec h houtcomes with hwaiting | ⟨error, hfailed⟩ | ⟨descriptor, hfresh, hopened⟩
  · rw [hwaiting]
    exact .unchanged none
  · rw [hfailed]
    exact .unchanged (some error)
  · rw [hopened]
    exact .opened h.target hfresh

/-- A step that may open a socket opens one, or leaves the process as it was. -/
theorem attempt_bind {process : Process ι} {places : Places ι} (h : Unused process places)
    {created : Except SocketError NativeSocket}
    (hcreated : ∀ descriptor, created = .ok descriptor → Fresh process descriptor)
    (addressValid : Bool) (bound : Except SocketError Unit) :
    Attempt process ((SocketStep.bind places created addressValid bound).perform process) := by
  rw [SocketStep.perform, UdpSocket.bindIpv4]
  cases addressValid with
  | false => exact .unchanged (some invalidAddress)
  | true =>
    rw [if_neg (not_not.mpr rfl), report_mapError fun _ => rfl]
    exact attempt_establish h hcreated bound

theorem attempt_connect {process : Process ι} {places : Places ι} (h : Unused process places)
    {created : Except SocketError NativeSocket}
    (hcreated : ∀ descriptor, created = .ok descriptor → Fresh process descriptor)
    (addressValid : Bool) (connected : Except SocketError Unit) :
    Attempt process
      ((SocketStep.connect places created addressValid connected).perform process) := by
  rw [SocketStep.perform, TcpConnection.connectIpv4, report_mapError fun _ => rfl]
  exact attempt_establish h hcreated _

theorem attempt_listen {process : Process ι} {places : Places ι} (h : Unused process places)
    {created : Except SocketError NativeSocket}
    (hcreated : ∀ descriptor, created = .ok descriptor → Fresh process descriptor)
    (addressValid : Bool) (bound listening : Except SocketError Unit) :
    Attempt process
      ((SocketStep.listen places created addressValid bound listening).perform process) := by
  rw [SocketStep.perform, TcpServer.listenIpv4, report_mapError fun _ => rfl]
  exact attempt_establish h hcreated _

theorem Attempt.sound {process : Process ι} {result : Option SocketError × Process ι}
    (h : Attempt process result) (hsound : Sound process) : Sound result.2 := by
  cases h with
  | unchanged failure => exact hsound
  | opened htarget hfresh => exact hsound.acquire htarget hfresh

theorem Attempt.eq_of_error {process : Process ι} {result : Option SocketError × Process ι}
    (h : Attempt process result) (herror : result.1.isSome) : result.2 = process := by
  cases h with
  | unchanged failure => rfl
  | opened htarget hfresh => cases herror

/-- **Every step keeps the descriptors and their owners in step.** -/
theorem sound_step {process : Process ι} {step : SocketStep ι} (hsound : Sound process)
    (h : step.Allowed process) : Sound (step.perform process).2 := by
  cases step with
  | connect places created addressValid connected =>
    exact (attempt_connect h.1 h.2 addressValid connected).sound hsound
  | listen places created addressValid bound listening =>
    exact (attempt_listen h.1 h.2 addressValid bound listening).sound hsound
  | bind places created addressValid bound =>
    exact (attempt_bind h.1 h.2 addressValid bound).sound hsound
  | accept places outcomes => exact (attempt_accept h.1 h.2).sound hsound
  | moveConstruct target source =>
    obtain ⟨htarget, hsource⟩ := h
    obtain ⟨self, hself⟩ := Option.isSome_iff_exists.mp hsource
    show Sound (process.moveConstruct target source)
    rw [Process.moveConstruct_eq hself]
    refine hsound.move hself ?_
    rw [Process.held, htarget]
    rfl
  | moveAssign target source =>
    obtain ⟨htarget, hsource⟩ := h
    obtain ⟨old, hold⟩ := Option.isSome_iff_exists.mp htarget
    obtain ⟨self, hself⟩ := Option.isSome_iff_exists.mp hsource
    show Sound (process.moveAssign target source)
    by_cases hne : target ≠ source
    · have hvacated := @Sound.vacate _ _ _ _ _ (some ⟨invalidSocket⟩) hsound hold rfl
      rw [Process.moveAssign_eq hne hself hold]
      refine hvacated.move ?_ ?_
      · rw [Process.put_objects_of_ne _ _ (Ne.symm hne)]
        by_cases hvalid : old.valid
        · rw [if_pos hvalid, Process.close_objects, hself]
        · rw [if_neg hvalid, hself]
      · rw [Process.held_put, Function.update_self]
        rfl
    · rw [Process.moveAssign, if_neg hne]
      exact hsound
  | destroy place =>
    obtain ⟨self, hself⟩ := Option.isSome_iff_exists.mp h
    show Sound (process.destroy place)
    rw [Process.destroy_eq hself]
    exact hsound.vacate hself rfl

/-- A program: it starts without objects and takes steps in any order. -/
def program (ι : Type) [DecidableEq ι] : System (Process ι) (SocketStep ι) where
  initial process :=
    (∀ place, process.objects place = none) ∧ process.opened = ∅ ∧ process.misclosed = []
  step process step after := step.Allowed process ∧ after = (step.perform process).2

theorem sound_reachable {process : Process ι} (h : (program ι).Reachable process) :
    Sound process := by
  refine h.invariant (I := Sound) ?_ ?_
  · rintro process ⟨hobjects, hopened, hclosed⟩
    have hheld : process.held = fun _ => none := by
      funext place
      rw [Process.held, hobjects]
      rfl
    refine ⟨?_, hclosed⟩
    rw [hheld, hopened]
    exact Owned.none_held
  · rintro process step after hsound ⟨hallowed, rfl⟩
    exact sound_step hsound hallowed

/-- **Descriptors are owned.** In every state of every program, no `close` has been of a
descriptor that was not open; every open descriptor is that of exactly one object, and every
valid handle is open, so a number that the operating system gives again has no old owner left;
when no object lives nothing is open; and a function that reports an error has opened nothing
and changed nothing. -/
theorem descriptors_owned {process : Process ι} (h : (program ι).Reachable process) :
    process.misclosed = [] ∧
    (∀ descriptor ∈ process.opened, ∃! place, process.held place = some descriptor) ∧
    (∀ place self, process.objects place = some self → self.valid →
      self.handle ∈ process.opened) ∧
    ((∀ place, process.objects place = none) → process.opened = ∅) ∧
    ∀ step : SocketStep ι, step.Allowed process → (step.perform process).1.isSome →
      (step.perform process).2 = process := by
  have hsound := sound_reachable h
  refine ⟨hsound.closed, ?_, ?_, ?_, ?_⟩
  · intro descriptor hdescriptor
    obtain ⟨place, hplace⟩ := (hsound.owned.mem_iff descriptor).mp hdescriptor
    exact ⟨place, hplace, fun other hother => hsound.owned.unique other place _ hother hplace⟩
  · intro place self hself hvalid
    have hheld : process.held place = some self.handle := by
      rw [Process.held, hself]
      show self.descriptor? = _
      rw [SocketHandle.descriptor?, if_pos hvalid]
    exact hsound.owned.live_of_held hheld
  · intro hobjects
    refine Finset.eq_empty_of_forall_notMem fun descriptor hdescriptor => ?_
    obtain ⟨place, hplace⟩ := (hsound.owned.mem_iff descriptor).mp hdescriptor
    rw [Process.held, hobjects] at hplace
    cases hplace
  · intro step hallowed herror
    cases step with
    | connect places created addressValid connected =>
      exact (attempt_connect hallowed.1 hallowed.2 addressValid connected).eq_of_error herror
    | listen places created addressValid bound listening =>
      exact (attempt_listen hallowed.1 hallowed.2 addressValid bound listening).eq_of_error herror
    | bind places created addressValid bound =>
      exact (attempt_bind hallowed.1 hallowed.2 addressValid bound).eq_of_error herror
    | accept places outcomes => exact (attempt_accept hallowed.1 hallowed.2).eq_of_error herror
    | moveConstruct target source => cases herror
    | moveAssign target source => cases herror
    | destroy place => cases herror

end Programs

def started : Process Nat := ⟨fun _ => none, ∅, []⟩

/-- A server that listens, and a connection that it accepts after an interrupted call. -/
def listening : Process Nat :=
  ((SocketStep.listen ⟨0, 1, 2⟩ (.ok 3) true (.ok ()) (.ok ())).perform started).2

def connected : Process Nat :=
  ((SocketStep.accept ⟨0, 1, 5⟩ [.interrupted, .accepted 4]).perform listening).2

theorem reachable_connected : (program Nat).Reachable connected := by
  have hstarted : (program Nat).Reachable started := .initial ⟨fun _ => rfl, rfl, rfl⟩
  have hlistening : (program Nat).Reachable listening := by
    refine hstarted.step (.listen ⟨0, 1, 2⟩ (.ok 3) true (.ok ()) (.ok ())) ⟨⟨?_, ?_⟩, rfl⟩
    · exact ⟨rfl, rfl, rfl, by decide, by decide, by decide⟩
    · intro descriptor hcreated
      cases hcreated
      exact ⟨by decide, by decide⟩
  refine hlistening.step (.accept ⟨0, 1, 5⟩ [.interrupted, .accepted 4]) ⟨⟨?_, ?_⟩, rfl⟩
  · exact ⟨rfl, rfl, rfl, by decide, by decide, by decide⟩
  · intro descriptor houtcome
    simp only [List.mem_cons, List.not_mem_nil, or_false] at houtcome
    rcases houtcome with houtcome | houtcome
    · cases houtcome
    · cases houtcome
      exact ⟨by decide, by decide⟩

/-- The two sockets, and a connection to an address that is none. -/
theorem descriptors_owned_connected :
    connected.opened = {3, 4} ∧
    (∀ descriptor ∈ connected.opened, ∃! place, connected.held place = some descriptor) ∧
    ((SocketStep.connect ⟨0, 1, 7⟩ (.ok 6) false (.ok ())).perform connected).2 = connected := by
  obtain ⟨_, howners, _, _, hfailed⟩ := descriptors_owned reachable_connected
  refine ⟨by decide, howners, hfailed _ ⟨?_, ?_⟩ rfl⟩
  · exact ⟨rfl, rfl, rfl, by decide, by decide, by decide⟩
  · intro descriptor hcreated
    cases hcreated
    exact ⟨by decide, by decide⟩

end SiliconSwitch.Transport
