import SiliconSwitch.Library.Transition
import SiliconSwitch.Orchestration.LabOrchestrator

/-!
# The ledger of a lab

What `LabOrchestrator` has done outside, read event by event by a ledger that knows the
children, the logs that are open and the child that writes to each, and that refuses an event
which cannot be meant: a launch into a log that another child has or that is not open, a signal
to a child that has been reaped, a second reaping, a log that is opened twice, closed twice or
closed under its child.

The ledger tells logs as `start` does, by the name of the process. To `pathlib` two names can
be one path (`a` and `./a`), but not two names without a slash.

## Results

* `joined_log`           — without slashes, the logs of two names are two paths;
* `replay_sound`         — a log that is open has been opened, and is open once;
* `Balanced`             — the ledger of the events is that of the managed processes;
* `Balanced.replay_stop` — stopping a process takes its child and its log out of the ledger;
* `ledger_balanced`      — so it is over any calls, whatever they raise.
-/

namespace SiliconSwitch.Orchestration

open SiliconSwitch.Library

-- ---------------------------------------------------------------------------
-- Paths
-- ---------------------------------------------------------------------------

/-- What `pathlib` keeps between slashes: not the empty part, and not the dot. -/
def pathParts (text : String) : List (List Char) :=
  (text.toList.splitOn '/').filter fun part => part ≠ [] ∧ part ≠ ['.']

namespace LogPath

/-- `directory / file` as `pathlib` has it, from the root or not, and its parts. An absolute
`file` stands alone; `//` is taken for the root. -/
def joined (path : LogPath) : Bool × List (List Char) :=
  if path.file.toList.head? = some '/' then (true, pathParts path.file)
  else (path.directory.toList.head? = some '/', pathParts path.directory ++ pathParts path.file)

def Plain (path : LogPath) : Prop := '/' ∉ path.file.toList

theorem pathParts_log {name : String} (h : '/' ∉ (name ++ ".log").toList) :
    pathParts (name ++ ".log") = [(name ++ ".log").toList] := by
  have hlong : 4 ≤ (name ++ ".log").toList.length := by
    rw [String.toList_append, List.length_append]
    exact Nat.le_add_left 4 _
  have hsome : (name ++ ".log").toList ≠ [] := by
    intro hnil
    rw [hnil] at hlong
    exact absurd hlong (by decide)
  have hdot : (name ++ ".log").toList ≠ ['.'] := by
    intro hnil
    rw [hnil] at hlong
    exact absurd hlong (by decide)
  rw [pathParts, List.splitOn_eq_singleton h]
  exact List.filter_cons_of_pos (decide_eq_true ⟨hsome, hdot⟩)

/-- **Without slashes, the logs of two names are two paths.** -/
theorem joined_log {directory first second : String}
    (hfirst : Plain ⟨directory, first ++ ".log"⟩) (hsecond : Plain ⟨directory, second ++ ".log"⟩)
    (h : joined ⟨directory, first ++ ".log"⟩ = joined ⟨directory, second ++ ".log"⟩) :
    first = second := by
  have hrelative : ∀ {name : String}, Plain ⟨directory, name ++ ".log"⟩ →
      (name ++ ".log").toList.head? ≠ some '/' :=
    fun hplain hroot => hplain (List.mem_of_mem_head? hroot)
  rw [joined, joined, if_neg (hrelative hfirst), if_neg (hrelative hsecond)] at h
  have hparts : pathParts (first ++ ".log") = pathParts (second ++ ".log") :=
    List.append_cancel_left (congrArg Prod.snd h)
  rw [pathParts_log hfirst, pathParts_log hsecond] at hparts
  exact (String.append_left_inj ".log").mp (String.toList_inj.mp (List.singleton_inj.mp hparts))

/-- With a slash they can be one. -/
example : joined ⟨"logs", "a.log"⟩ = joined ⟨"logs", "./a.log"⟩ := by decide +kernel

end LogPath

-- ---------------------------------------------------------------------------
-- The ledger
-- ---------------------------------------------------------------------------

structure OpenLog where
  path : LogPath
  /-- The child that has been launched into it. -/
  writer : Option Nat
deriving DecidableEq

structure LabLedger where
  /-- The children that have not been reaped. -/
  running : List Nat
  /-- Those that have been told to terminate. -/
  terminating : List Nat
  openLogs : List OpenLog
  launches : Nat
deriving DecidableEq

namespace LabLedger

def empty : LabLedger := ⟨[], [], [], 0⟩

def paths (ledger : LabLedger) : List LogPath := ledger.openLogs.map OpenLog.path

/-- Enter an event, unless it cannot be meant. -/
def enter (ledger : LabLedger) : LabEvent → Option LabLedger
  | .directoryMade _ => some ledger
  | .logOpened path =>
    if path ∈ ledger.paths then none
    else some { ledger with openLogs := ledger.openLogs ++ [⟨path, none⟩] }
  | .launched process launch =>
    -- into a log that is open and has no child yet
    if process = ledger.launches ∧ ⟨launch.output, none⟩ ∈ ledger.openLogs then
      some { ledger with
        running := ledger.running ++ [process]
        openLogs := ledger.openLogs.erase ⟨launch.output, none⟩ ++ [⟨launch.output, process⟩]
        launches := ledger.launches + 1 }
    else none
  | .terminated process =>
    if process ∈ ledger.running ∧ process ∉ ledger.terminating then
      some { ledger with terminating := ledger.terminating ++ [process] }
    else none
  | .killed process =>
    if process ∈ ledger.running ∧ process ∈ ledger.terminating then some ledger else none
  | .reaped process _ =>
    if process ∈ ledger.running then
      some { ledger with
        running := ledger.running.erase process
        terminating := ledger.terminating.erase process }
    else none
  | .logClosed path =>
    match ledger.openLogs.find? fun log => log.path == path with
    | none => none
    | some log =>
      if log.writer.any (· ∈ ledger.running) then none
      else some { ledger with openLogs := ledger.openLogs.erase log }

def replay (ledger : LabLedger) (events : List LabEvent) : Option LabLedger :=
  events.foldlM enter ledger

theorem replay_append (ledger : LabLedger) (front back : List LabEvent) :
    ledger.replay (front ++ back) = (ledger.replay front).bind fun after => after.replay back :=
  List.foldlM_append

theorem replay_cons (ledger : LabLedger) (event : LabEvent) (rest : List LabEvent) :
    ledger.replay (event :: rest) = (ledger.enter event).bind fun after => after.replay rest :=
  rfl

theorem replay_nil (ledger : LabLedger) : ledger.replay [] = some ledger := rfl

/-- A second child is not launched into the log of the first. -/
example :
    let observer : LogPath := ⟨"logs", "observer.log"⟩
    let monitor : LogPath := ⟨"logs", "monitor.log"⟩
    empty.replay [.logOpened observer, .launched 0 ⟨["observer"], none, [], observer⟩,
      .logOpened monitor, .launched 1 ⟨["monitor"], none, [], observer⟩] = none := by
  decide

section Entries

variable {running terminating : List Nat} {openLogs : List OpenLog} {launches : Nat}

theorem enter_logOpened {path : LogPath} (h : path ∉ openLogs.map OpenLog.path) :
    enter ⟨running, terminating, openLogs, launches⟩ (.logOpened path) =
      some ⟨running, terminating, openLogs ++ [⟨path, none⟩], launches⟩ :=
  if_neg h

theorem enter_logClosed {log : OpenLog}
    (hfound : openLogs.find? (fun other => other.path == log.path) = some log)
    (hwriter : ∀ child ∈ log.writer, child ∉ running) :
    enter ⟨running, terminating, openLogs, launches⟩ (.logClosed log.path) =
      some ⟨running, terminating, openLogs.erase log, launches⟩ := by
  have hleft : log.writer.any (· ∈ running) = false :=
    (Option.any_eq_false _ _).mpr fun child hchild => decide_eq_false (hwriter child hchild)
  rw [enter, hfound]
  dsimp only
  rw [hleft]
  rfl

theorem enter_launched {launch : Launch} (h : ⟨launch.output, none⟩ ∈ openLogs) :
    enter ⟨running, terminating, openLogs, launches⟩ (.launched launches launch) =
      some ⟨running ++ [launches], terminating,
        openLogs.erase ⟨launch.output, none⟩ ++ [⟨launch.output, launches⟩], launches + 1⟩ :=
  if_pos ⟨rfl, h⟩

theorem enter_reaped {process : Nat} (h : process ∈ running) (returncode : Int) :
    enter ⟨running, terminating, openLogs, launches⟩ (.reaped process returncode) =
      some ⟨running.erase process, terminating.erase process, openLogs, launches⟩ :=
  if_pos h

/-- A log without a child is put back as it was. -/
theorem erase_opened {path : LogPath} (h : path ∉ openLogs.map OpenLog.path) :
    (openLogs ++ [OpenLog.mk path none]).erase ⟨path, none⟩ = openLogs := by
  have hunused : ⟨path, none⟩ ∉ openLogs := fun hmem => h (List.mem_map.mpr ⟨_, hmem, rfl⟩)
  rw [List.erase_append_right _ hunused, List.erase_cons_head, List.append_nil]

/-- A launch that is refused leaves the ledger as it was. -/
theorem replay_refused {path : LogPath} (h : path ∉ openLogs.map OpenLog.path)
    (directory : String) :
    replay ⟨running, terminating, openLogs, launches⟩
        [.directoryMade directory, .logOpened path, .logClosed path] =
      some ⟨running, terminating, openLogs, launches⟩ := by
  let log : OpenLog := ⟨path, none⟩
  have hfound : (openLogs ++ [log]).find? (fun other => other.path == log.path) = some log := by
    have hnone : openLogs.find? (fun other => other.path == log.path) = none :=
      List.find?_eq_none.mpr fun other hmem heq =>
        h (List.mem_map.mpr ⟨other, hmem, beq_iff_eq.mp heq⟩)
    rw [List.find?_append, hnone, Option.none_or]
    exact List.find?_cons_of_pos (beq_self_eq_true path)
  have hclosed : enter ⟨running, terminating, openLogs ++ [log], launches⟩ (.logClosed path) =
      some ⟨running, terminating, (openLogs ++ [log]).erase log, launches⟩ :=
    enter_logClosed hfound fun child hchild => absurd hchild (Option.not_mem_none child)
  rw [replay_cons, enter, Option.bind_some, replay_cons, enter_logOpened h, Option.bind_some,
    replay_cons, hclosed, Option.bind_some, replay_nil, erase_opened h]

/-- A launch puts the next child in the ledger, and the log that has been opened for it. -/
theorem replay_launched {launch : Launch} (h : launch.output ∉ openLogs.map OpenLog.path)
    (directory : String) :
    replay ⟨running, terminating, openLogs, launches⟩
        [.directoryMade directory, .logOpened launch.output, .launched launches launch] =
      some ⟨running ++ [launches], terminating, openLogs ++ [⟨launch.output, launches⟩],
        launches + 1⟩ := by
  have hlaunched : enter ⟨running, terminating, openLogs ++ [⟨launch.output, none⟩], launches⟩
      (.launched launches launch) = some ⟨running ++ [launches], terminating,
        (openLogs ++ [OpenLog.mk launch.output none]).erase ⟨launch.output, none⟩ ++
          [⟨launch.output, launches⟩], launches + 1⟩ :=
    enter_launched (List.mem_append_right _ (List.mem_singleton_self _))
  rw [replay_cons, enter, Option.bind_some, replay_cons, enter_logOpened h, Option.bind_some,
    replay_cons, hlaunched, Option.bind_some, replay_nil, erase_opened h]

/-- However a child goes, it leaves the ledger. -/
theorem replay_departure {process : Nat} (h : process ∈ running) (departure : Departure) :
    replay ⟨running, [], openLogs, launches⟩ (departure.events process) =
      some ⟨running.erase process, [], openLogs, launches⟩ := by
  have hterminated : enter ⟨running, [], openLogs, launches⟩ (.terminated process) =
      some ⟨running, [process], openLogs, launches⟩ :=
    if_pos ⟨h, List.not_mem_nil⟩
  have hkilled : enter ⟨running, [process], openLogs, launches⟩ (.killed process) =
      some ⟨running, [process], openLogs, launches⟩ :=
    if_pos ⟨h, List.mem_singleton_self process⟩
  have hnone : [process].erase process = [] := List.erase_cons_head ..
  cases departure with
  | already returncode =>
    rw [Departure.events, replay_cons, enter_reaped h]
    rfl
  | onTerminate returncode =>
    rw [Departure.events, replay_cons, hterminated, Option.bind_some, replay_cons,
      enter_reaped h, Option.bind_some, replay_nil, hnone]
  | onKill returncode =>
    rw [Departure.events, replay_cons, hterminated, Option.bind_some, replay_cons, hkilled,
      Option.bind_some, replay_cons, enter_reaped h, Option.bind_some, replay_nil, hnone]

end Entries

-- ---------------------------------------------------------------------------
-- What is open
-- ---------------------------------------------------------------------------

/-- Every path that is open is open once, and is one of those that `opened` allows. -/
def Sound (opened : LogPath → Prop) (ledger : LabLedger) : Prop :=
  ledger.paths.Nodup ∧ ∀ path ∈ ledger.paths, opened path

variable {opened : LogPath → Prop}

theorem Sound.enter {ledger after : LabLedger} (h : Sound opened ledger) {event : LabEvent}
    (hopened : ∀ path, event = .logOpened path → opened path)
    (henter : ledger.enter event = some after) : Sound opened after := by
  obtain ⟨hnodup, hpaths⟩ := h
  cases event with
  | logOpened path =>
    rw [LabLedger.enter, Option.ite_none_left_eq_some] at henter
    obtain ⟨hfresh, hafter⟩ := henter
    have hmore : after.paths = ledger.paths ++ [path] := by
      rw [← Option.some.inj hafter, paths, List.map_append]
      rfl
    rw [Sound, hmore]
    refine ⟨List.nodup_append_comm.mp (List.nodup_cons.mpr ⟨hfresh, hnodup⟩), ?_⟩
    intro other hother
    rcases List.mem_append.mp hother with hold | hnew
    · exact hpaths other hold
    · exact List.mem_singleton.mp hnew ▸ hopened path rfl
  | launched process launch =>
    rw [LabLedger.enter, Option.ite_none_right_eq_some] at henter
    obtain ⟨⟨_, hfree⟩, hafter⟩ := henter
    -- the child is written next to the path, which stays
    have hsame : after.paths.Perm ledger.paths := by
      rw [← Option.some.inj hafter, paths, paths, List.map_append]
      refine List.perm_append_comm.trans ?_
      exact ((List.perm_cons_erase hfree).map OpenLog.path).symm
    exact ⟨hsame.nodup_iff.mpr hnodup, fun path hpath => hpaths path (hsame.mem_iff.mp hpath)⟩
  | logClosed path =>
    rw [LabLedger.enter] at henter
    cases hfound : ledger.openLogs.find? fun log => log.path == path with
    | none => rw [hfound] at henter; cases henter
    | some log =>
      rw [hfound] at henter
      dsimp only at henter
      rw [Option.ite_none_left_eq_some] at henter
      have hless : after.paths.Sublist ledger.paths := by
        rw [← Option.some.inj henter.2]
        exact List.erase_sublist.map OpenLog.path
      exact ⟨hnodup.sublist hless, fun path hpath => hpaths path (hless.subset hpath)⟩
  | directoryMade directory => exact Option.some.inj henter ▸ ⟨hnodup, hpaths⟩
  | terminated process =>
    rw [LabLedger.enter, Option.ite_none_right_eq_some] at henter
    exact Option.some.inj henter.2 ▸ ⟨hnodup, hpaths⟩
  | killed process =>
    rw [LabLedger.enter, Option.ite_none_right_eq_some] at henter
    exact Option.some.inj henter.2 ▸ ⟨hnodup, hpaths⟩
  | reaped process returncode =>
    rw [LabLedger.enter, Option.ite_none_right_eq_some] at henter
    exact Option.some.inj henter.2 ▸ ⟨hnodup, hpaths⟩

/-- **A log that is open has been opened, and is open once.** -/
theorem replay_sound {events : List LabEvent}
    (hopened : ∀ path, .logOpened path ∈ events → opened path) {ledger after : LabLedger}
    (h : Sound opened ledger) (hreplay : ledger.replay events = some after) :
    Sound opened after := by
  induction events generalizing ledger with
  | nil => exact Option.some.inj hreplay ▸ h
  | cons event rest ih =>
    rw [replay_cons, Option.bind_eq_some_iff] at hreplay
    obtain ⟨entered, henter, hrest⟩ := hreplay
    have hentered : Sound opened entered :=
      h.enter (fun path heq => hopened path (heq ▸ List.mem_cons_self ..)) henter
    exact ih (fun path hmem => hopened path (List.mem_cons_of_mem _ hmem)) hentered hrest

end LabLedger

-- ---------------------------------------------------------------------------
-- Balance
-- ---------------------------------------------------------------------------

namespace LabOrchestrator

/-- The children and the logs that the orchestrator has, each child in its own log. -/
def ledger (lab : LabOrchestrator) : LabLedger where
  running := lab.processes.map fun entry => entry.2.process
  terminating := []
  openLogs := lab.processes.map fun entry => ⟨entry.2.logPath, some entry.2.process⟩
  launches := lab.launches

theorem ledger_record (lab : LabOrchestrator) (events : List LabEvent) :
    (lab.record events).ledger = lab.ledger := rfl

theorem ledger_manage (lab : LabOrchestrator) {name : String} (hname : name ∉ lab.names) :
    (lab.manage name hname).ledger =
      ⟨lab.ledger.running ++ [lab.launches], [],
        lab.ledger.openLogs ++ [⟨lab.logPath name, lab.launches⟩], lab.launches + 1⟩ := by
  unfold ledger manage
  dsimp only
  rw [List.map_append, List.map_append]
  rfl

/-- The events are those of the managed processes, each of which has the log of its name, and
every log ever opened is one of a name. -/
structure Balanced (lab : LabOrchestrator) : Prop where
  replays : LabLedger.empty.replay lab.events = some lab.ledger
  logs : ∀ entry ∈ lab.processes, entry.2.logPath = lab.logPath entry.1
  opened : ∀ path, .logOpened path ∈ lab.events → ∃ name, path = lab.logPath name

theorem balanced_create (logDirectory : String) : Balanced (create logDirectory) :=
  ⟨rfl, by simp [create], by simp [create]⟩

theorem Balanced.record {lab : LabOrchestrator} (h : Balanced lab) {events : List LabEvent}
    (hevents : lab.ledger.replay events = some lab.ledger)
    (hopened : ∀ path, .logOpened path ∈ events → ∃ name, path = lab.logPath name) :
    Balanced (lab.record events) := by
  refine ⟨?_, h.logs, ?_⟩
  · show LabLedger.empty.replay (lab.events ++ events) = some lab.ledger
    rw [LabLedger.replay_append, h.replays, Option.bind_some, hevents]
  · intro path hmem
    rcases List.mem_append.mp hmem with hold | hnew
    · exact h.opened path hold
    · exact hopened path hnew

/-- The logs that are open are those of the names. -/
theorem Balanced.paths_eq {lab : LabOrchestrator} (h : Balanced lab) :
    lab.ledger.paths = lab.names.map lab.logPath := by
  rw [LabLedger.paths, ledger, names, List.map_map, List.map_map]
  exact List.map_congr_left h.logs

theorem logPath_inj (lab : LabOrchestrator) {first second : String} :
    lab.logPath first = lab.logPath second ↔ first = second :=
  ⟨fun h => (String.append_left_inj ".log").mp (congrArg LogPath.file h), fun h => h ▸ rfl⟩

/-- The log of a free name is not open. -/
theorem Balanced.log_closed {lab : LabOrchestrator} (h : Balanced lab) {name : String}
    (hname : name ∉ lab.names) : lab.logPath name ∉ lab.ledger.paths := by
  rw [h.paths_eq]
  intro hopen
  obtain ⟨other, hother, hpath⟩ := List.mem_map.mp hopen
  exact hname ((logPath_inj lab).mp hpath ▸ hother)

/-- Every log is open once. -/
theorem Balanced.logs_nodup {lab : LabOrchestrator} (h : Balanced lab) :
    lab.ledger.paths.Nodup := by
  rw [h.paths_eq]
  exact lab.names_nodup.map fun first second => (logPath_inj lab).mp

-- ---------------------------------------------------------------------------
-- The calls
-- ---------------------------------------------------------------------------

theorem Balanced.start {lab : LabOrchestrator} (h : Balanced lab) (host : Host)
    (spec : ProcessSpec) (launching : Launching) : Balanced (lab.start host spec launching).2 := by
  rw [LabOrchestrator.start]
  by_cases hname : spec.name ∈ lab.names
  · rw [dif_pos hname]
    exact h
  · rw [dif_neg hname]
    by_cases hcommand : spec.command = []
    · rw [if_pos hcommand]
      exact h
    · rw [if_neg hcommand]
      have hclosed : lab.logPath spec.name ∉ lab.ledger.paths := h.log_closed hname
      cases launching with
      | directoryRefused exception => exact h
      | logRefused exception => exact h.record rfl (by simp)
      | processRefused exception =>
        refine h.record (LabLedger.replay_refused hclosed lab.logDirectory) ?_
        intro path hmem
        exact ⟨spec.name, by simpa using hmem⟩
      | succeeds =>
        have hlaunched := @LabLedger.replay_launched lab.ledger.running [] lab.ledger.openLogs
          lab.launches (lab.launch host spec) hclosed lab.logDirectory
        refine ⟨?_, ?_, ?_⟩
        · dsimp only
          rw [ledger_record, ledger_manage]
          show LabLedger.empty.replay (lab.events ++ _) = _
          rw [LabLedger.replay_append, h.replays, Option.bind_some]
          exact hlaunched
        · intro entry hentry
          rcases List.mem_append.mp hentry with hold | hnew
          · exact h.logs entry hold
          · rw [List.mem_singleton.mp hnew]
            rfl
        · intro path hmem
          rcases List.mem_append.mp hmem with hold | hnew
          · exact h.opened path hold
          · have hpath : path = lab.logPath spec.name := by simpa using hnew
            exact ⟨spec.name, hpath⟩

/-- What is taken out of a list of entries is taken out of what they give. -/
theorem erase_map_eq {α β γ : Type} [DecidableEq β] [BEq γ] {entries : List α} {key : α → γ}
    {name : γ} {entry : α} (f : α → β)
    (hfound : entries.find? (fun other => key other == name) = some entry)
    (hnodup : (entries.map f).Nodup) :
    (entries.map f).erase (f entry) =
      (entries.eraseP fun other => key other == name).map f := by
  induction entries with
  | nil => cases hfound
  | cons head rest ih =>
    rw [List.map_cons, List.nodup_cons] at hnodup
    rw [List.find?_cons] at hfound
    cases hhead : key head == name with
    | true =>
      rw [hhead] at hfound
      cases hfound
      have hpopped : (entry :: rest).eraseP (fun other => key other == name) = rest :=
        List.eraseP_cons_of_pos hhead
      rw [List.map_cons, List.erase_cons_head, hpopped]
    | false =>
      rw [hhead] at hfound
      have hne : f head ≠ f entry := by
        intro hsame
        rw [hsame] at hnodup
        exact hnodup.1 (List.mem_map_of_mem (List.mem_of_find?_eq_some hfound))
      have hkept : (head :: rest).eraseP (fun other => key other == name) =
          head :: rest.eraseP fun other => key other == name :=
        List.eraseP_cons_of_neg (by simp [hhead])
      rw [List.map_cons, List.erase_cons_tail (by simpa using hne), hkept, List.map_cons,
        ih hfound hnodup.2]

/-- **Stopping a process takes its child and its log out of the ledger**, and nothing else. -/
theorem Balanced.replay_stop {lab : LabOrchestrator} (h : Balanced lab) (host : Host)
    {name : String} {entry : String × ManagedProcess}
    (hfound : lab.processes.find? (fun entry => entry.1 == name) = some entry) :
    lab.ledger.replay (stopEvents host entry.2) = some (lab.pop name).ledger := by
  have hmember := List.mem_of_find?_eq_some hfound
  let log : OpenLog := ⟨entry.2.logPath, some entry.2.process⟩
  have hrunning : entry.2.process ∈ lab.ledger.running := List.mem_map_of_mem hmember
  have hopen : log ∈ lab.ledger.openLogs := List.mem_map.mpr ⟨entry, hmember, rfl⟩
  have hchild : lab.ledger.running.erase entry.2.process = (lab.pop name).ledger.running :=
    erase_map_eq (fun entry : String × ManagedProcess => entry.2.process) hfound
      lab.children_nodup
  have hlog : lab.ledger.openLogs.erase log = (lab.pop name).ledger.openLogs :=
    erase_map_eq (fun entry : String × ManagedProcess =>
      OpenLog.mk entry.2.logPath (some entry.2.process)) hfound h.logs_nodup.of_map
  have hdeparted : lab.ledger.replay ((host.departure entry.2.process).events entry.2.process) =
      some ⟨lab.ledger.running.erase entry.2.process, [], lab.ledger.openLogs, lab.launches⟩ :=
    LabLedger.replay_departure hrunning (host.departure entry.2.process)
  -- the child has left when its log is closed
  have hgone : ∀ child ∈ log.writer, child ∉ lab.ledger.running.erase entry.2.process :=
    fun child hchild => Option.mem_some.mp hchild ▸ lab.children_nodup.not_mem_erase
  have hclosed : LabLedger.enter
      ⟨lab.ledger.running.erase entry.2.process, [], lab.ledger.openLogs, lab.launches⟩
      (.logClosed entry.2.logPath) = some ⟨lab.ledger.running.erase entry.2.process, [],
        lab.ledger.openLogs.erase log, lab.launches⟩ :=
    LabLedger.enter_logClosed
      ((find?_eq_some_of_nodup OpenLog.path h.logs_nodup).mpr ⟨hopen, rfl⟩) hgone
  rw [stopEvents, LabLedger.replay_append, hdeparted, Option.bind_some, LabLedger.replay_cons,
    hclosed, Option.bind_some, LabLedger.replay_nil, hchild, hlog]
  rfl

theorem logOpened_notMem_stopEvents (host : Host) (managed : ManagedProcess) (path : LogPath) :
    .logOpened path ∉ stopEvents host managed := by
  rw [stopEvents]
  cases host.departure managed.process <;> simp [Departure.events]

theorem Balanced.stop {lab : LabOrchestrator} (h : Balanced lab) (host : Host) (name : String) :
    Balanced (lab.stop host name).2 := by
  rw [LabOrchestrator.stop]
  cases hfound : lab.processes.find? fun entry => entry.1 == name with
  | none => exact h
  | some entry =>
    refine ⟨?_, ?_, ?_⟩
    · show LabLedger.empty.replay (lab.events ++ stopEvents host entry.2) = _
      rw [LabLedger.replay_append, h.replays, Option.bind_some, h.replay_stop host hfound]
      rfl
    · intro other hother
      exact h.logs other (List.eraseP_subset hother)
    · intro path hmem
      rcases List.mem_append.mp hmem with hold | hnew
      · exact h.opened path hold
      · exact absurd hnew (logOpened_notMem_stopEvents host entry.2 path)

theorem Balanced.stopEach {host : Host} {names : List String} {returncodes : List (String × Int)}
    {lab : LabOrchestrator} (h : Balanced lab) :
    Balanced (stopEach host names returncodes lab).2 := by
  induction names generalizing returncodes lab with
  | nil => exact h
  | cons name rest ih =>
    have hstopped := h.stop host name
    rw [LabOrchestrator.stopEach]
    generalize lab.stop host name = result at hstopped
    obtain ⟨outcome, after⟩ := result
    cases outcome with
    | error exception => exact hstopped
    | ok returncode => exact ih hstopped

theorem launches_stopEach (host : Host) (names : List String)
    (returncodes : List (String × Int)) (lab : LabOrchestrator) :
    (LabOrchestrator.stopEach host names returncodes lab).2.launches = lab.launches := by
  induction names generalizing returncodes lab with
  | nil => rfl
  | cons name rest ih =>
    have hstopped : (lab.stop host name).2.launches = lab.launches := by
      rw [LabOrchestrator.stop]
      split <;> rfl
    rw [LabOrchestrator.stopEach]
    generalize lab.stop host name = result at hstopped
    obtain ⟨outcome, after⟩ := result
    cases outcome with
    | error exception => exact hstopped
    | ok returncode => exact (ih _ after).trans hstopped

theorem Balanced.startEach {host : Host} {attempts : List (ProcessSpec × Launching)}
    {lab : LabOrchestrator} (h : Balanced lab) : Balanced (startEach host attempts lab).2 := by
  induction attempts generalizing lab with
  | nil => exact h
  | cons attempt rest ih =>
    obtain ⟨spec, launching⟩ := attempt
    have hstarted := h.start host spec launching
    rw [startEach_cons]
    split
    · exact hstarted
    · exact ih hstarted

theorem Balanced.startAll {host : Host} {attempts : List (ProcessSpec × Launching)}
    {lab : LabOrchestrator} (h : Balanced lab) : Balanced (startAll host lab attempts).2 := by
  by_cases hstartable : Startable lab attempts
  · have hok := (startEach_ok_iff host).mpr hstartable
    have hstarted : Balanced (LabOrchestrator.startEach host attempts lab).2 := h.startEach
    rw [LabOrchestrator.startAll]
    generalize LabOrchestrator.startEach host attempts lab = result at hok hstarted
    obtain ⟨outcome, after⟩ := result
    rw [show outcome = _ from hok]
    exact hstarted
  · rw [startAll_error hstartable]
    exact h.startEach.stopEach

/-- At no moment do two open logs of plain names have one path. -/
theorem Balanced.paths_apart {lab : LabOrchestrator} (h : Balanced lab) (front : List LabEvent)
    (hfront : front <+: lab.events) :
    ∃ now, LabLedger.empty.replay front = some now ∧
      now.paths.Pairwise fun first second =>
        first.Plain → second.Plain → first.joined ≠ second.joined := by
  obtain ⟨back, hback⟩ := hfront
  have hreplays := h.replays
  rw [← hback, LabLedger.replay_append, Option.bind_eq_some_iff] at hreplays
  obtain ⟨now, hnow, _⟩ := hreplays
  have hopened : ∀ path, .logOpened path ∈ front → ∃ name, path = lab.logPath name :=
    fun path hmem => h.opened path (hback ▸ List.mem_append_left back hmem)
  have hempty : LabLedger.empty.Sound fun path => ∃ name, path = lab.logPath name :=
    ⟨List.nodup_nil, fun path hmem => absurd hmem List.not_mem_nil⟩
  obtain ⟨hnodup, hpaths⟩ := LabLedger.replay_sound hopened hempty hnow
  refine ⟨now, hnow, hnodup.imp_of_mem ?_⟩
  intro first second hfirst hsecond hne hplain hplain' hsame
  obtain ⟨name, rfl⟩ := hpaths first hfirst
  obtain ⟨other, rfl⟩ := hpaths second hsecond
  exact hne (congrArg lab.logPath (LogPath.joined_log hplain hplain' hsame))

-- ---------------------------------------------------------------------------
-- Runs
-- ---------------------------------------------------------------------------

end LabOrchestrator

/-- A call on a lab, and what the host answers to it. -/
inductive LabCall
  | start (host : Host) (spec : ProcessSpec) (launching : Launching)
  | startAll (host : Host) (attempts : List (ProcessSpec × Launching))
  | stop (host : Host) (name : String)
  | stopAll (host : Host)

namespace LabOrchestrator

/-- The lab after a call, whether it raises or not. -/
def perform (lab : LabOrchestrator) : LabCall → LabOrchestrator
  | .start host spec launching => (lab.start host spec launching).2
  | .startAll host attempts => (lab.startAll host attempts).2
  | .stop host name => (lab.stop host name).2
  | .stopAll host => (lab.stopAll host).2

theorem Balanced.perform {lab : LabOrchestrator} (h : Balanced lab) (call : LabCall) :
    Balanced (lab.perform call) := by
  cases call with
  | start host spec launching => exact h.start host spec launching
  | startAll host attempts => exact h.startAll
  | stop host name => exact h.stop host name
  | stopAll host => exact h.stopEach

end LabOrchestrator

end SiliconSwitch.Orchestration
