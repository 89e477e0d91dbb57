import SiliconSwitch.Library.Keyed

/-!
# The process orchestrator

`LabOrchestrator` of the Python package: `start`, `start_all`, `stop` and `stop_all`, over
the dictionary of managed processes. The orchestrator is taken with a record of what it has
done outside, in order; what the operating system answers is the `Host` and, for a launch,
the `Launching`.

* `start_error`             — a failed `start` leaves the managed processes alone;
* `stopAll_eq`              — `stop_all` stops all of them, the latest first;
* `startAll_rolledBack_iff` — when a failed `start_all` undoes its own work and no more.
-/

namespace SiliconSwitch.Orchestration

open SiliconSwitch.Library

structure ProcessSpec where
  name : String
  command : List String
  environment : List (String × String)
  workingDirectory : Option String
deriving DecidableEq

/-- A file of a directory, by the two operands of `/`: to `pathlib` two of them may be one
path. -/
structure LogPath where
  directory : String
  file : String
deriving DecidableEq

/-- What `Popen` is called with. -/
structure Launch where
  arguments : List String
  workingDirectory : Option String
  environment : List (String × String)
  output : LogPath
deriving DecidableEq

/-- A `_ManagedProcess`; children are numbered as they are launched. -/
structure ManagedProcess where
  process : Nat
  logPath : LogPath
deriving DecidableEq

inductive PythonException
  | valueError (message : String)
  | keyError (key : String)
  /-- Of the file system or of `Popen`. -/
  | raised (description : String)
deriving DecidableEq

inductive LabEvent
  | directoryMade (directory : String)
  | logOpened (path : LogPath)
  | launched (process : Nat) (launch : Launch)
  | terminated (process : Nat)
  | killed (process : Nat)
  | reaped (process : Nat) (returncode : Int)
  | logClosed (path : LogPath)
deriving DecidableEq

namespace LabEvent

/-- The event is about the process or its log. -/
def Touches (managed : ManagedProcess) : LabEvent → Prop
  | directoryMade _ => False
  | logOpened path => path = managed.logPath
  | launched process _ => process = managed.process
  | terminated process => process = managed.process
  | killed process => process = managed.process
  | reaped process _ => process = managed.process
  | logClosed path => path = managed.logPath

end LabEvent

-- ---------------------------------------------------------------------------
-- The operating system
-- ---------------------------------------------------------------------------

/-- How a child goes that is to be stopped: it is gone already, goes within the timeout of
`terminate`, or has to be killed. -/
inductive Departure
  | already (returncode : Int)
  | onTerminate (returncode : Int)
  | onKill (returncode : Int)
deriving DecidableEq

def Departure.returncode : Departure → Int
  | already returncode => returncode
  | onTerminate returncode => returncode
  | onKill returncode => returncode

def Departure.events (process : Nat) : Departure → List LabEvent
  | already returncode => [.reaped process returncode]
  | onTerminate returncode => [.terminated process, .reaped process returncode]
  | onKill returncode => [.terminated process, .killed process, .reaped process returncode]

structure Host where
  environ : List (String × String)
  departure : Nat → Departure

/-- How far `start` gets with a launch, once its own checks have passed. What is raised is an
`Exception`, as `start_all` catches. -/
inductive Launching
  | directoryRefused (exception : PythonException)
  | logRefused (exception : PythonException)
  | processRefused (exception : PythonException)
  | succeeds
deriving DecidableEq

-- ---------------------------------------------------------------------------
-- The orchestrator
-- ---------------------------------------------------------------------------

/-- The dictionary in the order of insertion, a child of its own under each name. -/
structure LabOrchestrator where
  logDirectory : String
  processes : List (String × ManagedProcess)
  launches : Nat
  events : List LabEvent
  names_nodup : (processes.map Prod.fst).Nodup
  children_nodup : (processes.map fun entry => entry.2.process).Nodup
  children_lt : ∀ entry ∈ processes, entry.2.process < launches

namespace LabOrchestrator

def create (logDirectory : String) : LabOrchestrator :=
  ⟨logDirectory, [], 0, [], List.nodup_nil, List.nodup_nil, by simp⟩

def names (lab : LabOrchestrator) : List String := lab.processes.map Prod.fst

def record (lab : LabOrchestrator) (events : List LabEvent) : LabOrchestrator :=
  { lab with events := lab.events ++ events }

def logPath (lab : LabOrchestrator) (name : String) : LogPath := ⟨lab.logDirectory, name ++ ".log"⟩

def launch (host : Host) (lab : LabOrchestrator) (spec : ProcessSpec) : Launch where
  arguments := spec.command
  workingDirectory := spec.workingDirectory
  environment := merge Prod.fst host.environ spec.environment
  output := lab.logPath spec.name

/-- The next child, under a new name. -/
def manage (lab : LabOrchestrator) (name : String) (hname : name ∉ lab.names) :
    LabOrchestrator where
  logDirectory := lab.logDirectory
  processes := lab.processes ++ [(name, ⟨lab.launches, lab.logPath name⟩)]
  launches := lab.launches + 1
  events := lab.events
  names_nodup := by
    rw [List.map_append, List.map_singleton, ← List.concat_eq_append]
    exact lab.names_nodup.concat hname
  children_nodup := by
    rw [List.map_append, List.map_singleton, ← List.concat_eq_append]
    refine lab.children_nodup.concat fun hmem => ?_
    obtain ⟨entry, hentry, heq⟩ := List.mem_map.mp hmem
    exact Nat.ne_of_lt (lab.children_lt entry hentry) heq
  children_lt := by
    intro entry hmem
    rcases List.mem_append.mp hmem with hold | hnew
    · exact Nat.lt_succ_of_lt (lab.children_lt entry hold)
    · rw [List.mem_singleton.mp hnew]
      exact Nat.lt_succ_self lab.launches

def start (host : Host) (lab : LabOrchestrator) (spec : ProcessSpec) (launching : Launching) :
    Except PythonException Unit × LabOrchestrator :=
  if hname : spec.name ∈ lab.names then
    (.error (.valueError ("process already exists: " ++ spec.name)), lab)
  else if spec.command = [] then (.error (.valueError "process command cannot be empty"), lab)
  else
    let path := lab.logPath spec.name
    match launching with
    | .directoryRefused exception => (.error exception, lab)
    | .logRefused exception => (.error exception, lab.record [.directoryMade lab.logDirectory])
    | .processRefused exception =>
      (.error exception,
        lab.record [.directoryMade lab.logDirectory, .logOpened path, .logClosed path])
    | .succeeds =>
      (.ok (), (lab.manage spec.name hname).record
        [.directoryMade lab.logDirectory, .logOpened path,
          .launched lab.launches (lab.launch host spec)])

def pop (lab : LabOrchestrator) (name : String) : LabOrchestrator :=
  have hsublist : (lab.processes.eraseP fun entry => entry.1 == name).Sublist lab.processes :=
    List.eraseP_sublist
  { lab with
    processes := lab.processes.eraseP fun entry => entry.1 == name
    names_nodup := lab.names_nodup.sublist (hsublist.map _)
    children_nodup := lab.children_nodup.sublist (hsublist.map _)
    children_lt := fun entry hmem => lab.children_lt entry (hsublist.subset hmem) }

/-- What stopping a process does outside. -/
def stopEvents (host : Host) (managed : ManagedProcess) : List LabEvent :=
  (host.departure managed.process).events managed.process ++ [.logClosed managed.logPath]

def stop (host : Host) (lab : LabOrchestrator) (name : String) :
    Except PythonException Int × LabOrchestrator :=
  match lab.processes.find? fun entry => entry.1 == name with
  | none => (.error (.keyError name), lab)
  | some (_, managed) =>
    (.ok (host.departure managed.process).returncode,
      (lab.pop name).record (stopEvents host managed))

/-- The comprehension of `stop_all`, over the names that are left. -/
def stopEach (host : Host) : List String → List (String × Int) → LabOrchestrator →
    Except PythonException (List (String × Int)) × LabOrchestrator
  | [], returncodes, lab => (.ok returncodes, lab)
  | name :: rest, returncodes, lab =>
    match lab.stop host name with
    | (.error exception, lab) => (.error exception, lab)
    | (.ok returncode, lab) =>
      stopEach host rest (upsert Prod.fst (name, returncode) returncodes) lab

def stopAll (host : Host) (lab : LabOrchestrator) :
    Except PythonException (List (String × Int)) × LabOrchestrator :=
  stopEach host lab.names.reverse [] lab

/-- The loop of `start_all`. -/
def startEach (host : Host) : List (ProcessSpec × Launching) → LabOrchestrator →
    Except PythonException Unit × LabOrchestrator
  | [], lab => (.ok (), lab)
  | (spec, launching) :: rest, lab =>
    match lab.start host spec launching with
    | (.error exception, lab) => (.error exception, lab)
    | (.ok (), lab) => startEach host rest lab

def startAll (host : Host) (lab : LabOrchestrator) (attempts : List (ProcessSpec × Launching)) :
    Except PythonException Unit × LabOrchestrator :=
  match startEach host attempts lab with
  | (.ok (), lab) => (.ok (), lab)
  | (.error exception, lab) =>
    match lab.stopAll host with
    | (.error other, lab) => (.error other, lab)
    | (.ok _, lab) => (.error exception, lab)

-- ---------------------------------------------------------------------------
-- Starting
-- ---------------------------------------------------------------------------

section Start

variable {host : Host} {lab : LabOrchestrator} {spec : ProcessSpec} {launching : Launching}

/-- A `start` goes through if the name is free, the command is something and the host agrees. -/
theorem start_ok_iff :
    (lab.start host spec launching).1 = .ok () ↔
      spec.name ∉ lab.names ∧ spec.command ≠ [] ∧ launching = .succeeds := by
  rw [start]
  by_cases hname : spec.name ∈ lab.names
  · rw [dif_pos hname]
    simp [hname]
  · rw [dif_neg hname]
    by_cases hcommand : spec.command = []
    · rw [if_pos hcommand]
      simp [hcommand]
    · rw [if_neg hcommand]
      cases launching <;> simp [hname, hcommand]

/-- **A failed `start` leaves the managed processes alone**, and launches nothing. -/
theorem start_error {exception : PythonException}
    (h : (lab.start host spec launching).1 = .error exception) :
    (lab.start host spec launching).2.processes = lab.processes ∧
      ∃ logged, (lab.start host spec launching).2.events = lab.events ++ logged ∧
        ∀ process launch, LabEvent.launched process launch ∉ logged := by
  rw [start] at h ⊢
  by_cases hname : spec.name ∈ lab.names
  · rw [dif_pos hname]
    exact ⟨rfl, [], by simp, by simp⟩
  · rw [dif_neg hname] at h ⊢
    by_cases hcommand : spec.command = []
    · rw [if_pos hcommand]
      exact ⟨rfl, [], by simp, by simp⟩
    · rw [if_neg hcommand] at h ⊢
      cases launching with
      | directoryRefused raised => exact ⟨rfl, [], by simp, by simp⟩
      | logRefused raised => exact ⟨rfl, _, rfl, by simp⟩
      | processRefused raised => exact ⟨rfl, _, rfl, by simp⟩
      | succeeds => simp at h

theorem start_ok (h : (lab.start host spec launching).1 = .ok ()) :
    (lab.start host spec launching).2.processes =
        lab.processes ++ [(spec.name, ⟨lab.launches, lab.logPath spec.name⟩)] ∧
      (lab.start host spec launching).2.events = lab.events ++
        [.directoryMade lab.logDirectory, .logOpened (lab.logPath spec.name),
          .launched lab.launches (lab.launch host spec)] := by
  obtain ⟨hname, hcommand, rfl⟩ := start_ok_iff.mp h
  rw [start, dif_neg hname, if_neg hcommand]
  exact ⟨rfl, rfl⟩

theorem names_start (h : (lab.start host spec launching).1 = .ok ()) :
    (lab.start host spec launching).2.names = lab.names ++ [spec.name] := by
  rw [names, (start_ok h).1, List.map_append]
  rfl

end Start

/-- Whatever has been launched since `before` is managed now. -/
def Accounted (before now : LabOrchestrator) : Prop :=
  ∃ logged, now.events = before.events ++ logged ∧
    ∀ process launch, .launched process launch ∈ logged →
      ∃ entry ∈ now.processes, entry.2.process = process

theorem Accounted.start {before lab : LabOrchestrator} (h : Accounted before lab) (host : Host)
    (spec : ProcessSpec) (launching : Launching) :
    Accounted before (lab.start host spec launching).2 := by
  obtain ⟨logged, hevents, hmanaged⟩ := h
  cases hresult : (lab.start host spec launching).1 with
  | error exception =>
    obtain ⟨hprocesses, more, hmore, hnone⟩ := start_error hresult
    refine ⟨logged ++ more, by rw [hmore, hevents, List.append_assoc], ?_⟩
    intro process launch hmem
    rw [hprocesses]
    rcases List.mem_append.mp hmem with hold | hnew
    · exact hmanaged process launch hold
    · exact absurd hnew (hnone process launch)
  | ok =>
    obtain ⟨hprocesses, hmore⟩ := start_ok hresult
    refine ⟨_, by rw [hmore, hevents, List.append_assoc], ?_⟩
    intro process launch hmem
    rw [hprocesses]
    rcases List.mem_append.mp hmem with hold | hnew
    · obtain ⟨entry, hentry, heq⟩ := hmanaged process launch hold
      exact ⟨entry, List.mem_append_left _ hentry, heq⟩
    · -- the one launch of this call
      have hlatest : process = lab.launches := by
        simp only [List.mem_cons, reduceCtorEq, LabEvent.launched.injEq, List.not_mem_nil,
          false_or, or_false] at hnew
        exact hnew.1
      exact ⟨_, List.mem_append_right _ (List.mem_singleton_self _), hlatest.symm⟩

theorem startEach_cons (host : Host) (spec : ProcessSpec) (launching : Launching)
    (rest : List (ProcessSpec × Launching)) (lab : LabOrchestrator) :
    startEach host ((spec, launching) :: rest) lab =
      match (lab.start host spec launching).1 with
      | .error exception => (.error exception, (lab.start host spec launching).2)
      | .ok () => startEach host rest (lab.start host spec launching).2 := by
  rw [startEach]
  rcases lab.start host spec launching with ⟨exception | ⟨⟩, after⟩ <;> rfl

theorem Accounted.startEach {before lab : LabOrchestrator} (h : Accounted before lab)
    (host : Host) (attempts : List (ProcessSpec × Launching)) :
    Accounted before (startEach host attempts lab).2 := by
  induction attempts generalizing lab with
  | nil => exact h
  | cons attempt rest ih =>
    obtain ⟨spec, launching⟩ := attempt
    have hstarted := h.start host spec launching
    rw [startEach_cons]
    split
    · exact hstarted
    · exact ih hstarted

/-- The sequence can be started on this state: new names, each used once, commands that are
something, and a host that agrees. -/
structure Startable (lab : LabOrchestrator) (attempts : List (ProcessSpec × Launching)) :
    Prop where
  names_nodup : (attempts.map fun attempt => attempt.1.name).Nodup
  names_free : ∀ attempt ∈ attempts, attempt.1.name ∉ lab.names
  commands : ∀ attempt ∈ attempts, attempt.1.command ≠ []
  launches : ∀ attempt ∈ attempts, attempt.2 = .succeeds

theorem startable_cons_iff (host : Host) {lab : LabOrchestrator} {spec : ProcessSpec}
    {launching : Launching} {rest : List (ProcessSpec × Launching)} :
    Startable lab ((spec, launching) :: rest) ↔
      (lab.start host spec launching).1 = .ok () ∧
        Startable (lab.start host spec launching).2 rest := by
  constructor
  · intro h
    have hok : (lab.start host spec launching).1 = .ok () := start_ok_iff.mpr
      ⟨h.names_free _ (List.mem_cons_self ..), h.commands _ (List.mem_cons_self ..),
        h.launches _ (List.mem_cons_self ..)⟩
    have hnames := names_start hok
    have hnodup := h.names_nodup
    rw [List.map_cons, List.nodup_cons] at hnodup
    refine ⟨hok, hnodup.2, ?_, fun attempt hmem => h.commands attempt (List.mem_cons_of_mem _ hmem),
      fun attempt hmem => h.launches attempt (List.mem_cons_of_mem _ hmem)⟩
    intro attempt hmem hused
    rw [hnames] at hused
    rcases List.mem_append.mp hused with hold | hnew
    · exact h.names_free attempt (List.mem_cons_of_mem _ hmem) hold
    · exact hnodup.1 (List.mem_map.mpr ⟨attempt, hmem, List.mem_singleton.mp hnew⟩)
  · rintro ⟨hok, h⟩
    have hnames := names_start hok
    obtain ⟨hname, hcommand, hlaunching⟩ := start_ok_iff.mp hok
    refine ⟨?_, List.forall_mem_cons.mpr ⟨hname, ?_⟩,
      List.forall_mem_cons.mpr ⟨hcommand, h.commands⟩,
      List.forall_mem_cons.mpr ⟨hlaunching, h.launches⟩⟩
    · rw [List.map_cons, List.nodup_cons]
      refine ⟨fun hmem => ?_, h.names_nodup⟩
      obtain ⟨attempt, hattempt, heq⟩ := List.mem_map.mp hmem
      apply h.names_free attempt hattempt
      rw [hnames, heq]
      exact List.mem_append_right _ (List.mem_singleton_self _)
    · intro attempt hmem hused
      apply h.names_free attempt hmem
      rw [hnames]
      exact List.mem_append_left _ hused

theorem startEach_ok_iff (host : Host) {attempts : List (ProcessSpec × Launching)}
    {lab : LabOrchestrator} :
    (startEach host attempts lab).1 = .ok () ↔ Startable lab attempts := by
  induction attempts generalizing lab with
  | nil => exact ⟨fun _ => ⟨List.nodup_nil, by simp, by simp, by simp⟩, fun _ => rfl⟩
  | cons attempt rest ih =>
    obtain ⟨spec, launching⟩ := attempt
    rw [startable_cons_iff host, startEach_cons, ← ih]
    cases (lab.start host spec launching).1 with
    | error exception => simp
    | ok => simp

-- ---------------------------------------------------------------------------
-- Stopping
-- ---------------------------------------------------------------------------

/-- Stopping the latest of the managed processes. -/
theorem stop_latest (host : Host) {lab : LabOrchestrator} {front : List (String × ManagedProcess)}
    {name : String} {managed : ManagedProcess}
    (h : lab.processes = front ++ [(name, managed)]) :
    (lab.stop host name).1 = .ok (host.departure managed.process).returncode ∧
      (lab.stop host name).2.processes = front ∧
      (lab.stop host name).2.events = lab.events ++ stopEvents host managed := by
  have hnames := lab.names_nodup
  rw [h, List.map_append, List.nodup_append] at hnames
  have hothers : ∀ entry ∈ front, (entry.1 == name) = false := by
    intro entry hmem
    rw [beq_eq_false_iff_ne]
    exact hnames.2.2 entry.1 (List.mem_map_of_mem hmem) name (by simp)
  have hfound : lab.processes.find? (fun entry => entry.1 == name) = some (name, managed) := by
    rw [h, List.find?_append, List.find?_eq_none.mpr fun entry hmem => by simp [hothers entry hmem]]
    simp
  have hpopped : (lab.pop name).processes = front := by
    show (lab.processes.eraseP fun entry => entry.1 == name) = front
    rw [h, List.eraseP_append_right _ fun entry hmem => by simp [hothers entry hmem]]
    simp
  rw [stop, hfound]
  exact ⟨rfl, hpopped, rfl⟩

theorem stopEach_eq (host : Host) {processes : List (String × ManagedProcess)}
    {lab : LabOrchestrator} (h : lab.processes = processes) (returncodes : List (String × Int)) :
    (stopEach host (processes.map Prod.fst).reverse returncodes lab).1 =
        .ok (merge Prod.fst returncodes (processes.reverse.map fun entry =>
          (entry.1, (host.departure entry.2.process).returncode))) ∧
      (stopEach host (processes.map Prod.fst).reverse returncodes lab).2.processes = [] ∧
      (stopEach host (processes.map Prod.fst).reverse returncodes lab).2.events =
        lab.events ++ processes.reverse.flatMap fun entry => stopEvents host entry.2 := by
  induction processes using List.reverseRecOn generalizing lab returncodes with
  | nil => exact ⟨rfl, h, by simp [stopEach]⟩
  | append_singleton front entry ih =>
    obtain ⟨name, managed⟩ := entry
    obtain ⟨hok, hfront, hevents⟩ := stop_latest host h
    have hrest := ih hfront
      (upsert Prod.fst (name, (host.departure managed.process).returncode) returncodes)
    have hnames : ((front ++ [(name, managed)]).map Prod.fst).reverse =
        name :: (front.map Prod.fst).reverse := by simp
    have hstep : ∀ names, stopEach host (name :: names) returncodes lab =
        stopEach host names
          (upsert Prod.fst (name, (host.departure managed.process).returncode) returncodes)
          (lab.stop host name).2 := by
      intro names
      rw [stopEach]
      generalize lab.stop host name = result at hok
      obtain ⟨outcome, after⟩ := result
      rw [show outcome = _ from hok]
    rw [hnames, hstep, List.reverse_append, List.reverse_singleton, List.singleton_append,
      List.map_cons, List.flatMap_cons, ← List.append_assoc, ← hevents]
    exact hrest

/-- **`stop_all` stops every managed process**, the latest first, and returns their codes. -/
theorem stopAll_eq (host : Host) (lab : LabOrchestrator) :
    (lab.stopAll host).1 = .ok (lab.processes.reverse.map fun entry =>
        (entry.1, (host.departure entry.2.process).returncode)) ∧
      (lab.stopAll host).2.processes = [] ∧
      (lab.stopAll host).2.events =
        lab.events ++ lab.processes.reverse.flatMap fun entry => stopEvents host entry.2 := by
  obtain ⟨hcodes, hprocesses, hevents⟩ := stopEach_eq host (rfl : lab.processes = _) []
  refine ⟨?_, hprocesses, hevents⟩
  have hnames : ((lab.processes.reverse.map fun entry =>
      (entry.1, (host.departure entry.2.process).returncode)).map Prod.fst).Nodup := by
    rw [List.map_map, List.map_reverse, List.nodup_reverse]
    exact lab.names_nodup
  rw [stopAll, names, hcodes, merge, foldl_upsert_fresh Prod.fst hnames, List.nil_append]

theorem reaped_mem_stopEvents (host : Host) (managed : ManagedProcess) :
    .reaped managed.process (host.departure managed.process).returncode ∈
      stopEvents host managed := by
  rw [stopEvents]
  apply List.mem_append_left
  cases host.departure managed.process <;> simp [Departure.events, Departure.returncode]

theorem launched_notMem_stopEvents (host : Host) (managed : ManagedProcess) (process : Nat)
    (launch : Launch) : .launched process launch ∉ stopEvents host managed := by
  rw [stopEvents]
  cases host.departure managed.process <;> simp [Departure.events]

-- ---------------------------------------------------------------------------
-- Rolling back
-- ---------------------------------------------------------------------------

/-- The events of a call. -/
def eventsSince (before after : LabOrchestrator) : List LabEvent :=
  after.events.drop before.events.length

/-- What was started by a call has been stopped and is not managed; what was managed before it
is managed as it was, and untouched. -/
structure RolledBack (before after : LabOrchestrator) : Prop where
  started : ∀ process launch, .launched process launch ∈ before.eventsSince after →
    (∃ returncode, .reaped process returncode ∈ before.eventsSince after) ∧
      ∀ entry ∈ after.processes, entry.2.process ≠ process
  managed : ∀ entry ∈ before.processes, entry ∈ after.processes ∧
    ∀ event ∈ before.eventsSince after, ¬ event.Touches entry.2

theorem startAll_ok_iff (host : Host) {lab : LabOrchestrator}
    {attempts : List (ProcessSpec × Launching)} :
    (lab.startAll host attempts).1 = .ok () ↔ Startable lab attempts := by
  rw [← startEach_ok_iff host, startAll]
  rcases startEach host attempts lab with ⟨exception | ⟨⟩, reached⟩
  · dsimp only
    rcases reached.stopAll host with ⟨other | codes, after⟩ <;> simp
  · simp

/-- A failed `start_all` ends with the `stop_all` of the state it has reached. -/
theorem startAll_error {host : Host} {lab : LabOrchestrator}
    {attempts : List (ProcessSpec × Launching)} (h : ¬ Startable lab attempts) :
    (lab.startAll host attempts).2 = ((startEach host attempts lab).2.stopAll host).2 := by
  rw [← startEach_ok_iff host] at h
  rw [startAll]
  generalize startEach host attempts lab = result at h
  obtain ⟨outcome, reached⟩ := result
  cases outcome with
  | ok => exact absurd rfl h
  | error exception =>
    dsimp only
    rcases reached.stopAll host with ⟨other | codes, after⟩ <;> rfl

/-- Its work is undone. -/
theorem startAll_undone {host : Host} {lab : LabOrchestrator}
    {attempts : List (ProcessSpec × Launching)} (h : ¬ Startable lab attempts) {process : Nat}
    {launch : Launch}
    (hlaunched : .launched process launch ∈ lab.eventsSince (lab.startAll host attempts).2) :
    ∃ returncode, .reaped process returncode ∈ lab.eventsSince (lab.startAll host attempts).2 := by
  have hstart : Accounted lab lab := ⟨[], by simp, by simp⟩
  obtain ⟨logged, hlogged, hmanaged⟩ := hstart.startEach host attempts
  obtain ⟨_, _, hevents⟩ := stopAll_eq host (startEach host attempts lab).2
  rw [eventsSince, startAll_error h, hevents, hlogged, List.append_assoc, List.drop_left]
    at hlaunched ⊢
  rcases List.mem_append.mp hlaunched with hold | hstop
  · obtain ⟨entry, hentry, rfl⟩ := hmanaged process launch hold
    exact ⟨_, List.mem_append_right _ (List.mem_flatMap.mpr
      ⟨entry, List.mem_reverse.mpr hentry, reaped_mem_stopEvents host entry.2⟩)⟩
  · obtain ⟨entry, _, hmem⟩ := List.mem_flatMap.mp hstop
    exact absurd hmem (launched_notMem_stopEvents host entry.2 process launch)

/-- **A failed `start_all` undoes its own work and no more exactly if there was nothing else.** -/
theorem startAll_rolledBack_iff (host : Host) (lab : LabOrchestrator)
    (attempts : List (ProcessSpec × Launching)) :
    (∀ exception, (lab.startAll host attempts).1 = .error exception →
        RolledBack lab (lab.startAll host attempts).2) ↔
      lab.processes = [] ∨ Startable lab attempts := by
  by_cases hstartable : Startable lab attempts
  · have hok := (startAll_ok_iff host).mpr hstartable
    rw [hok]
    simp [hstartable]
  · have hempty : (lab.startAll host attempts).2.processes = [] := by
      rw [startAll_error hstartable]
      exact (stopAll_eq host _).2.1
    obtain ⟨exception, hraised⟩ : ∃ exception,
        (lab.startAll host attempts).1 = .error exception := by
      cases hresult : (lab.startAll host attempts).1 with
      | error exception => exact ⟨exception, rfl⟩
      | ok => exact absurd ((startAll_ok_iff host).mp hresult) hstartable
    rw [or_iff_left hstartable]
    constructor
    · intro h
      rw [List.eq_nil_iff_forall_not_mem]
      intro entry hmem
      have hkept := ((h exception hraised).managed entry hmem).1
      rw [hempty] at hkept
      exact List.not_mem_nil hkept
    · intro hnothing _ _
      refine ⟨fun process launch hlaunched => ⟨startAll_undone hstartable hlaunched, ?_⟩, ?_⟩
      · rw [hempty]
        simp
      · rw [hnothing]
        simp

/-- A switch is running when a sequence fails at its second process; the switch is terminated. -/
theorem failed_start_all_stops_the_switch :
    let host : Host := ⟨[], fun _ => .onTerminate (-15)⟩
    let before := ((create "logs").start host ⟨"switch", ["switch"], [], none⟩ .succeeds).2
    let attempts := [(⟨"observer", ["observer"], [], none⟩, .succeeds),
      (⟨"monitor", [], [], none⟩, .succeeds)]
    (before.startAll host attempts).1 =
        .error (.valueError "process command cannot be empty") ∧
      .terminated 0 ∈ before.eventsSince (before.startAll host attempts).2 ∧
      ¬ RolledBack before (before.startAll host attempts).2 := by
  intro host before attempts
  have hswitch : ("switch", ⟨0, ⟨"logs", "switch.log"⟩⟩) ∈ before.processes := by decide
  have hnone : (before.startAll host attempts).2.processes = [] := by decide
  refine ⟨by decide, by decide, fun h => ?_⟩
  have hkept := (h.managed _ hswitch).1
  rw [hnone] at hkept
  exact List.not_mem_nil hkept

end LabOrchestrator

end SiliconSwitch.Orchestration
