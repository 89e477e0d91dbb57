import SiliconSwitch.Asic.Invariants

/-!
# MAC aging in the device

`MacTable::expire` removes the dynamic entries that are a lifetime old, but no
call of the device runs it, and `lookup` takes no time. What the device learns
is therefore used for ever.

The runs here carry a log of the last frame that was learned under each key,
kept apart from the MAC table, so that "old" is a fact about the frames.

* `logs_step` — the MAC table is exactly that log;
* `pipeline_ne_forget` — an entry that is looked up always shows in the decision;
* `aging_iff` — the aging law holds in a run exactly if no packet of it meets an
  expired entry;
* `stale_entry_switched` — a run that switches a frame by an expired entry.
-/

namespace SiliconSwitch.Asic.SoftwareAsic

open SiliconSwitch.Library SiliconSwitch.Network SiliconSwitch.Routing SiliconSwitch.Switching

-- ---------------------------------------------------------------------------
-- What was learned, and when
-- ---------------------------------------------------------------------------

/-- The port and the time of the last frame learned under each key. -/
abbrev LearningLog : Type := MacKey → Option (PortId × TimePoint)

/-- The key that a packet's source is learned under, if it is learned. -/
def learnedKey (asic : SoftwareAsic) (ingressPort : PortId) (bytes : List UInt8)
    (now : TimePoint) : Option MacKey :=
  match asic.arrival ingressPort bytes with
  | .error _ => none
  | .ok (port, frame) =>
    match classifyVlanIngress frame port.vlanConfig with
    | .error _ => none
    | .ok vlan =>
      if (asic.macTable.learn vlan frame.source ingressPort now).1.learned then
        some (vlan, frame.source)
      else none

/-- The log after a call. -/
def LearningLog.after (log : LearningLog) (asic : SoftwareAsic) : Operation → LearningLog
  | .processPacket ingressPort bytes now =>
    match asic.learnedKey ingressPort bytes now with
    | none => log
    | some key => Function.update log key (some (ingressPort, now))
  | _ => log

/-- A call of the device, logged. -/
def loggedStep (state : SoftwareAsic × LearningLog) (operation : Operation) :
    SoftwareAsic × LearningLog :=
  (state.1.step operation, state.2.after state.1 operation)

/-- The MAC table holds what was logged, and nothing else. -/
def Logs (asic : SoftwareAsic) (log : LearningLog) : Prop :=
  ∀ key, asic.macTable.entries.find? key =
    (log key).map fun learned => ⟨learned.1, .dynamic, learned.2⟩

theorem Logs.dynamic {asic : SoftwareAsic} {log : LearningLog} (h : Logs asic log) :
    AllDynamic asic.macTable := by
  intro key entry hentry
  rw [h key, Option.map_eq_some_iff] at hentry
  obtain ⟨learned, _, rfl⟩ := hentry
  rfl

/-- A learned packet, unfolded into its stages. -/
theorem learnedKey_of_arrival {asic : SoftwareAsic} {ingressPort : PortId} {bytes : List UInt8}
    {port : VirtualPort} {frame : EthernetFrame} {vlan : VlanId}
    (harrival : asic.arrival ingressPort bytes = .ok (port, frame))
    (hclassify : classifyVlanIngress frame port.vlanConfig = .ok vlan) (now : TimePoint) :
    asic.learnedKey ingressPort bytes now =
      if (asic.macTable.learn vlan frame.source ingressPort now).1.learned then
        some (vlan, frame.source)
      else none := by
  rw [learnedKey, harrival]
  simp only [hclassify]

/-- A packet writes the entry of its own key exactly when the log does. -/
theorem logs_processPacket {asic : SoftwareAsic} {log : LearningLog} (h : Logs asic log)
    (ingressPort : PortId) (bytes : List UInt8) (now : TimePoint) :
    Logs (asic.processPacket ingressPort bytes now).2
      (log.after asic (.processPacket ingressPort bytes now)) := by
  intro key
  rw [processPacket_macTable, LearningLog.after]
  cases harrival : asic.arrival ingressPort bytes with
  | error early =>
    have hnone : asic.learnedKey ingressPort bytes now = none := by rw [learnedKey, harrival]
    rw [hnone]
    exact h key
  | ok arrived =>
    obtain ⟨port, frame⟩ := arrived
    dsimp only
    cases hclassify : classifyVlanIngress frame port.vlanConfig with
    | error reason =>
      -- an unclassified frame is not learned
      have hnone : asic.learnedKey ingressPort bytes now = none := by
        rw [learnedKey, harrival]
        simp only [hclassify]
      rw [hnone, asic.pipeline_of_unclassified hclassify]
      exact h key
    | ok vlan =>
      rw [learnedKey_of_arrival harrival hclassify,
        (pipeline_of_classify hclassify ingressPort now).1]
      have hself := @MacTable.find?_learn_self asic.macTable vlan frame.source ingressPort now
        (h.dynamic (vlan, frame.source))
      by_cases hlearned : (asic.macTable.learn vlan frame.source ingressPort now).1.learned = true
      · rw [if_pos hlearned] at hself ⊢
        dsimp only
        by_cases hkey : key = (vlan, frame.source)
        · rw [hkey, hself, Function.update_self]
          rfl
        · rw [MacTable.find?_learn_of_ne hkey, Function.update_of_ne hkey]
          exact h key
      · rw [if_neg hlearned] at hself ⊢
        dsimp only
        by_cases hkey : key = (vlan, frame.source)
        · rw [hkey, hself]
          exact h _
        · rw [MacTable.find?_learn_of_ne hkey]
          exact h key

/-- **The MAC table is the log of what was learned**, after every call. -/
theorem logs_step {state : SoftwareAsic × LearningLog} (operation : Operation)
    (h : Logs state.1 state.2) :
    Logs (loggedStep state operation).1 (loggedStep state operation).2 := by
  obtain ⟨asic, log⟩ := state
  have hframe := @step_frame asic operation .macTable
  cases operation with
  | processPacket ingressPort bytes now => exact logs_processPacket h ingressPort bytes now
  | _ =>
    -- only packets touch the MAC table, and the log
    intro key
    exact (congrArg (fun macTable => macTable.entries.find? key) (hframe rfl)).trans (h key)

-- ---------------------------------------------------------------------------
-- The aging law
-- ---------------------------------------------------------------------------

/-- The last frame learned under the key is at least a lifetime old. -/
def Aged (asic : SoftwareAsic) (log : LearningLog) (key : MacKey) (now : TimePoint) : Prop :=
  ∃ port learnedAt, log key = some (port, learnedAt) ∧
    asic.macTable.entryLifetime ≤ now - learnedAt

/-- The device without the MAC entry of a key. -/
def forget (asic : SoftwareAsic) (key : MacKey) : SoftwareAsic :=
  { asic with macTable := (asic.macTable.remove key.1 key.2).2 }

/-- The aging law for one call. A unicast frame whose destination is aged, its own
learning included, is decided on as if the destination were unknown; and a
source that does not fit in the table finds no aged entry there. -/
def AgingHolds (state : SoftwareAsic × LearningLog) : Operation → Prop
  | .processPacket ingressPort bytes now =>
    ∀ port frame vlan, state.1.arrival ingressPort bytes = .ok (port, frame) →
      classifyVlanIngress frame port.vlanConfig = .ok vlan →
      (frame.destination.isUnicast = true →
        Aged state.1 (state.2.after state.1 (.processPacket ingressPort bytes now))
          (vlan, frame.destination) now →
        (state.1.pipeline ingressPort port frame now).1 =
          ((state.1.forget (vlan, frame.destination)).pipeline ingressPort port frame now).1) ∧
      ((state.1.macTable.learn vlan frame.source ingressPort now).1 = .tableFull →
        ∀ key, ¬ Aged state.1 state.2 key now)
  | _ => True

/-- The call meets no expired entry where it would use one: the destination's,
for a frame that gets as far as the lookup, and any at all, for a new source in
a table at capacity. -/
def MeetsNoExpired (asic : SoftwareAsic) : Operation → Prop
  | .processPacket ingressPort bytes now =>
    ∀ port frame vlan, asic.arrival ingressPort bytes = .ok (port, frame) →
      classifyVlanIngress frame port.vlanConfig = .ok vlan →
      isLearnable frame.source = true →
      (frame.destination.isUnicast = true → frame.destination ≠ frame.source →
        asic.routerInterfaces.find? vlan ≠ some frame.destination →
        ∀ entry, asic.macTable.lookup vlan frame.destination = some entry →
          asic.macTable.isExpired entry now = false) ∧
      (asic.macTable.lookup vlan frame.source = none →
        asic.macTable.capacity ≤ asic.macTable.entries.size →
        ∀ key entry, asic.macTable.entries.find? key = some entry →
          asic.macTable.isExpired entry now = false)
  | _ => True

/-- An aged key is one whose entry `expire` would remove. -/
theorem aged_iff {asic : SoftwareAsic} {log : LearningLog} (h : Logs asic log) (key : MacKey)
    (now : TimePoint) :
    Aged asic log key now ↔ ∃ entry, asic.macTable.entries.find? key = some entry ∧
      asic.macTable.isExpired entry now = true := by
  have hpos := asic.macTable.entryLifetime_pos
  rw [h key]
  constructor
  · rintro ⟨port, learnedAt, hlog, hold⟩
    refine ⟨⟨port, .dynamic, learnedAt⟩, by rw [hlog]; rfl, ?_⟩
    have hpast : learnedAt ≤ now := Int.sub_nonneg.mp (hpos.le.trans hold)
    simp [MacTable.isExpired, MacTableEntry.isStatic, hold, hpast]
  · rintro ⟨entry, hentry, hexpired⟩
    rw [Option.map_eq_some_iff] at hentry
    obtain ⟨⟨port, learnedAt⟩, hlog, rfl⟩ := hentry
    refine ⟨port, learnedAt, hlog, ?_⟩
    simp only [MacTable.isExpired, Bool.and_eq_true, decide_eq_true_eq] at hexpired
    exact hexpired.2.2

-- ---------------------------------------------------------------------------
-- What an entry does to the decision
-- ---------------------------------------------------------------------------

theorem allDynamic_forget {asic : SoftwareAsic} (h : AllDynamic asic.macTable) (key : MacKey) :
    AllDynamic (asic.forget key).macTable := by
  intro other entry hentry
  rw [forget, MacTable.remove, Table.find?_erase] at hentry
  split at hentry
  · simp at hentry
  · exact h other entry hentry

/-- A frame with an unlearnable source is dropped for it, whatever the table holds. -/
theorem pipeline_of_not_learnable {asic : SoftwareAsic} {ingressPort : PortId} {port : VirtualPort}
    {frame : EthernetFrame} {now : TimePoint} {vlan : VlanId}
    (hclassify : classifyVlanIngress frame port.vlanConfig = .ok vlan)
    (hsource : isLearnable frame.source = false) :
    (asic.pipeline ingressPort port frame now).1 = .drop (some vlan) .invalidSourceMac := by
  have hrejected : (asic.macTable.learn vlan frame.source ingressPort now).1 = .rejected :=
    MacTable.learn_fst_eq_rejected.mpr hsource
  obtain ⟨_, hcases⟩ := pipeline_of_classify hclassify ingressPort now
  rcases hcases with ⟨_, hdrop⟩ | ⟨hconflict, _⟩ | ⟨haccepted, _⟩
  · exact hdrop
  · rw [hrejected] at hconflict
    simp at hconflict
  · exact absurd hrejected haccepted

/-- Without static entries, a learnable source is no reason to drop a frame. -/
theorem pipeline_of_learnable {asic : SoftwareAsic} {ingressPort : PortId} {port : VirtualPort}
    {frame : EthernetFrame} {now : TimePoint} {vlan : VlanId}
    (hclassify : classifyVlanIngress frame port.vlanConfig = .ok vlan)
    (hdynamic : AllDynamic asic.macTable) (hsource : isLearnable frame.source = true) :
    (asic.pipeline ingressPort port frame now).1 =
      decideLearned frame vlan ingressPort (asic.memberList vlan)
        (asic.macTable.learn vlan frame.source ingressPort now).2 asic.routerInterfaces := by
  obtain ⟨_, hcases⟩ := pipeline_of_classify hclassify ingressPort now
  rcases hcases with ⟨hrejected, _⟩ | ⟨hconflict, _⟩ | ⟨_, _, hdecide⟩
  · rw [MacTable.learn_fst_eq_rejected, hsource] at hrejected
    simp at hrejected
  · -- a conflict needs a static entry, and the device has none
    obtain ⟨entry, hentry, hstatic, _⟩ := MacTable.static_of_learn_fst hconflict
    rw [hdynamic _ entry hentry] at hstatic
    simp at hstatic
  · exact hdecide

/-- A frame of the router is decided on without the MAC table. -/
theorem decideLearned_of_router {frame : EthernetFrame} {vlan : VlanId} {ingressPort : PortId}
    {vlanPorts : List PortId} {macTable other : MacTable} {routerInterfaces : RouterInterfaces}
    (howned : routerInterfaces.find? vlan = some frame.destination) :
    decideLearned frame vlan ingressPort vlanPorts macTable routerInterfaces =
      decideLearned frame vlan ingressPort vlanPorts other routerInterfaces := by
  rw [decideLearned, decideLearned, if_pos howned, if_pos howned]

/-- **An entry that is looked up shows in the decision**: without it, the frame
would have been decided on differently. -/
theorem pipeline_ne_forget {asic : SoftwareAsic} {ingressPort : PortId} {port : VirtualPort}
    {frame : EthernetFrame} {now : TimePoint} {vlan : VlanId} {entry : MacTableEntry}
    (hclassify : classifyVlanIngress frame port.vlanConfig = .ok vlan)
    (hdynamic : AllDynamic asic.macTable) (hsource : isLearnable frame.source = true)
    (hunicast : frame.destination.isUnicast = true) (hne : frame.destination ≠ frame.source)
    (hrouter : asic.routerInterfaces.find? vlan ≠ some frame.destination)
    (hentry : asic.macTable.lookup vlan frame.destination = some entry) :
    (asic.pipeline ingressPort port frame now).1 ≠
      ((asic.forget (vlan, frame.destination)).pipeline ingressPort port frame now).1 := by
  have hforgotten : (asic.forget (vlan, frame.destination)).macTable.lookup vlan
      frame.destination = none := by
    rw [MacTable.lookup, forget, MacTable.remove, Table.find?_erase, if_pos rfl]
  have hrouter' : (asic.forget (vlan, frame.destination)).routerInterfaces.find? vlan ≠
      some frame.destination := hrouter
  rw [pipeline_of_learnable hclassify hdynamic hsource,
    pipeline_of_learnable hclassify (allDynamic_forget hdynamic _) hsource]
  rw [decideLearned, if_neg hrouter, decideLearned, if_neg hrouter']
  rw [bridge_known hunicast ((MacTable.lookup_learn_of_ne hne ingressPort now).trans hentry),
    bridge_unknown hunicast ((MacTable.lookup_learn_of_ne hne ingressPort now).trans hforgotten)]
  split_ifs <;> simp

-- ---------------------------------------------------------------------------
-- One call
-- ---------------------------------------------------------------------------

/-- The destination of a frame is aged only by an earlier frame: the one that has
just been learned is not. -/
theorem aged_after_iff {asic : SoftwareAsic} {log : LearningLog} (h : Logs asic log)
    {ingressPort : PortId} {bytes : List UInt8} {port : VirtualPort} {frame : EthernetFrame}
    {vlan : VlanId} (harrival : asic.arrival ingressPort bytes = .ok (port, frame))
    (hclassify : classifyVlanIngress frame port.vlanConfig = .ok vlan)
    (hsource : isLearnable frame.source = true) (destination : MacAddress) (now : TimePoint) :
    Aged asic (log.after asic (.processPacket ingressPort bytes now)) (vlan, destination) now ↔
      destination ≠ frame.source ∧ ∃ entry, asic.macTable.lookup vlan destination = some entry ∧
        asic.macTable.isExpired entry now = true := by
  have hpos := asic.macTable.entryLifetime_pos
  have hkey := learnedKey_of_arrival harrival hclassify now
  by_cases hself : destination = frame.source
  · refine iff_of_false ?_ fun hright => hright.1 hself
    rintro ⟨learnedOn, learnedAt, hlog, hold⟩
    rw [hself, LearningLog.after, hkey] at hlog
    by_cases hlearned : (asic.macTable.learn vlan frame.source ingressPort now).1.learned = true
    · -- the frame's own learning is as young as can be
      rw [if_pos hlearned] at hlog
      dsimp only at hlog
      rw [Function.update_self, Option.some.injEq, Prod.mk.injEq] at hlog
      rw [← hlog.2, Int.sub_self] at hold
      exact absurd hold (not_le.mpr hpos)
    · -- a learnable source is only refused for want of room, and has no entry then
      rw [if_neg hlearned] at hlog
      dsimp only at hlog
      have hentry : asic.macTable.entries.find? (vlan, frame.source) ≠ none := by
        rw [h, hlog]
        simp
      cases houtcome : (asic.macTable.learn vlan frame.source ingressPort now).1 with
      | inserted | refreshed | moved =>
        rw [houtcome] at hlearned
        exact hlearned rfl
      | tableFull => exact hentry (MacTable.learn_fst_eq_tableFull.mp houtcome).2.1
      | rejected =>
        rw [MacTable.learn_fst_eq_rejected, hsource] at houtcome
        simp at houtcome
      | staticConflict =>
        obtain ⟨entry, hfind, hstatic, _⟩ := MacTable.static_of_learn_fst houtcome
        rw [h.dynamic _ entry hfind] at hstatic
        simp at hstatic
  · have hsame : log.after asic (.processPacket ingressPort bytes now) (vlan, destination) =
        log (vlan, destination) := by
      have hother : (vlan, destination) ≠ (vlan, frame.source) := by
        intro heq
        exact hself (Prod.mk.inj heq).2
      rw [LearningLog.after, hkey]
      split
      · exact Function.update_of_ne hother ..
      · rfl
    rw [Aged, hsame]
    exact (aged_iff h _ now).trans ⟨fun hexpired => ⟨hself, hexpired⟩, fun hright => hright.2⟩

/-- **One call obeys the aging law exactly if it meets no expired entry.** -/
theorem agingHolds_iff {asic : SoftwareAsic} {log : LearningLog} (h : Logs asic log)
    (operation : Operation) :
    AgingHolds (asic, log) operation ↔ MeetsNoExpired asic operation := by
  cases operation with
  | processPacket ingressPort bytes now =>
    show (∀ port frame vlan, _) ↔ ∀ port frame vlan, _
    refine forall_congr' fun port => forall_congr' fun frame => forall_congr' fun vlan =>
      forall_congr' fun harrival => forall_congr' fun hclassify => ?_
    dsimp only
    by_cases hsource : isLearnable frame.source = true
    · constructor
      · rintro ⟨hlookup, hroom⟩ _
        constructor
        · intro hunicast hne hrouter entry hentry
          rw [Bool.eq_false_iff]
          intro hexpired
          have haged := (aged_after_iff h harrival hclassify hsource frame.destination now).mpr
            ⟨hne, entry, hentry, hexpired⟩
          exact pipeline_ne_forget hclassify h.dynamic hsource hunicast hne hrouter hentry
            (hlookup hunicast haged)
        · intro hnew hfull key entry hentry
          rw [Bool.eq_false_iff]
          intro hexpired
          exact hroom (MacTable.learn_fst_eq_tableFull.mpr ⟨hsource, hnew, hfull⟩) key
            ((aged_iff h key now).mpr ⟨entry, hentry, hexpired⟩)
      · intro hcondition
        obtain ⟨hlookup, hroom⟩ := hcondition hsource
        constructor
        · intro hunicast haged
          obtain ⟨hne, entry, hentry, hexpired⟩ :=
            (aged_after_iff h harrival hclassify hsource frame.destination now).mp haged
          by_cases hrouter : asic.routerInterfaces.find? vlan = some frame.destination
          · rw [pipeline_of_learnable hclassify h.dynamic hsource,
              pipeline_of_learnable hclassify (allDynamic_forget h.dynamic _) hsource]
            exact decideLearned_of_router hrouter
          · rw [hlookup hunicast hne hrouter entry hentry] at hexpired
            simp at hexpired
        · intro hfull key haged
          obtain ⟨_, hnew, hcapacity⟩ := MacTable.learn_fst_eq_tableFull.mp hfull
          obtain ⟨entry, hentry, hexpired⟩ := (aged_iff h key now).mp haged
          rw [hroom hnew hcapacity key entry hentry] at hexpired
          simp at hexpired
    · -- neither law is at stake for a frame that is dropped for its source
      have hunlearnable : isLearnable frame.source = false := Bool.eq_false_iff.mpr hsource
      refine iff_of_true ⟨fun _ _ => ?_, fun hfull => ?_⟩ fun hlearnable => absurd hlearnable hsource
      · rw [pipeline_of_not_learnable hclassify hunlearnable,
          pipeline_of_not_learnable hclassify hunlearnable]
      · exact absurd (MacTable.learn_fst_eq_tableFull.mp hfull).1 hsource
  | _ => exact Iff.rfl

-- ---------------------------------------------------------------------------
-- Runs
-- ---------------------------------------------------------------------------

/-- **A run obeys the aging law exactly if none of its packets meets an expired
entry**, neither under its destination nor, in a full table, anywhere. -/
theorem aging_iff (capacity : Nat) (hcapacity : 0 < capacity) (operations : List Operation) :
    EachStep loggedStep AgingHolds (create capacity hcapacity, fun _ => none) operations ↔
      EachStep step MeetsNoExpired (create capacity hcapacity) operations := by
  have hstart : Logs (create capacity hcapacity) fun _ => none := by
    intro key
    simp [create, MacTable.create]
  have hcongr := eachStep_congr (P := AgingHolds) (I := fun state => Logs state.1 state.2)
    (Q := fun state => MeetsNoExpired state.1) (fun _ operation hlogs _ => logs_step operation hlogs)
    (fun _ operation hlogs => agingHolds_iff hlogs operation)
    (s := (create capacity hcapacity, fun _ => none)) hstart operations
  rw [hcongr]
  exact eachStep_comap Prod.fst (fun _ _ => rfl) _ operations

/-- A packet meets no expired entry where the table holds none. -/
theorem meetsNoExpired_of_fresh {asic : SoftwareAsic} {now : TimePoint}
    (h : ∀ row ∈ asic.macTable.entries.entries, asic.macTable.isExpired row.2 now = false)
    (ingressPort : PortId) (bytes : List UInt8) :
    MeetsNoExpired asic (.processPacket ingressPort bytes now) := by
  have hfresh : ∀ key entry, asic.macTable.entries.find? key = some entry →
      asic.macTable.isExpired entry now = false :=
    fun key entry hentry => h ⟨key, entry⟩ (Table.mem_entries_iff.mpr hentry)
  intro port frame vlan _ _ _
  exact ⟨fun _ _ _ entry hentry => hfresh (vlan, frame.destination) entry hentry,
    fun _ _ => hfresh⟩

open Example in
/-- Host 2 is learned, and nothing is heard of it for a lifetime. -/
def silentRun : List Operation :=
  twoPorts ++ [.processPacket secondPort (frameBytes 2 1 []) 0]

open Example in
/-- Within the lifetime host 1 answers, and host 2 is heard again. -/
theorem aging_twoPorts :
    EachStep loggedStep AgingHolds (create 8 (by decide), fun _ => none)
      (silentRun ++ [.processPacket firstPort (frameBytes 1 2 []) 7,
        .processPacket secondPort (frameBytes 2 1 []) 9]) :=
  (aging_iff 8 (by decide) _).mpr
    ⟨trivial, trivial, trivial, trivial, trivial,
      meetsNoExpired_of_fresh (by decide +kernel) secondPort (frameBytes 2 1 []),
      meetsNoExpired_of_fresh (by decide +kernel) firstPort (frameBytes 1 2 []),
      meetsNoExpired_of_fresh (by decide +kernel) secondPort (frameBytes 2 1 []), trivial⟩

open Example in
/-- A lifetime after host 2 was heard, a frame for it is switched to the port of
the expired entry; with the entry expired, it would have been flooded. -/
theorem stale_entry_switched :
    ¬ EachStep loggedStep AgingHolds (create 8 (by decide), fun _ => none)
        (silentRun ++ [.processPacket firstPort (frameBytes 1 2 []) MacTable.defaultEntryLifetime]) ∧
      ((device silentRun).processPacket firstPort (frameBytes 1 2 [])
        MacTable.defaultEntryLifetime).1 = ⟨.switched, .none, [secondPort], 0⟩ ∧
      ((device silentRun).macTable.expire MacTable.defaultEntryLifetime).1 = 1 := by
  refine ⟨?_, by decide +kernel, by decide +kernel⟩
  intro hholds
  have hlaw := hholds.at_split
  have hlookup := (hlaw (((device silentRun).ports.find? firstPort).getD (accessPort firstPort))
    ⟨hostMac 2, hostMac 1, ⟨0x88B5⟩, [], none, EthernetFrame.empty_payload_le⟩ vlan rfl rfl).1 (by decide)
    ⟨secondPort, 0, by decide +kernel, by decide +kernel⟩
  exact absurd hlookup (by decide +kernel)

end SiliconSwitch.Asic.SoftwareAsic
