import SiliconSwitch.Asic.Invariants

/-!
# References to ports

Members, routes and MAC entries name ports. `remove_port` takes the port out of
the member lists only, so a route or a MAC entry may outlive its port and apply
to the next port that is created under the same identifier.

* `referencesExist_step_iff` — a call keeps every reference valid exactly if it
  is not the removal of a port that a route or a MAC entry names;
* `referencesSafe_iff` — the same for whole runs;
* `stale_references` — a run in which a frame is switched to a port on the
  strength of an entry learned on its predecessor.
-/

namespace SiliconSwitch.Asic.SoftwareAsic

open SiliconSwitch.Library SiliconSwitch.Network SiliconSwitch.Routing SiliconSwitch.Switching

/-- Some table of the device names the port. -/
inductive Names (asic : SoftwareAsic) (id : PortId) : Prop
  | member {vlan : VlanId} (h : id ∈ asic.memberList vlan)
  | route {route : RouteEntry} (h : route ∈ asic.routeTable.entries) (hport : route.outputPort = id)
  | macEntry {key : MacKey} {entry : MacTableEntry}
      (h : asic.macTable.entries.find? key = some entry) (hport : entry.port = id)

/-- Every stored reference to a port names a port that exists. -/
def ReferencesExist (asic : SoftwareAsic) : Prop := ∀ id, Names asic id → asic.hasPort id = true

/-- The call does not remove a port that a route or a MAC entry names. -/
def RemovesUnreferenced (asic : SoftwareAsic) : Operation → Prop
  | .removePort id =>
    (∀ route ∈ asic.routeTable.entries, route.outputPort ≠ id) ∧
      ∀ key entry, asic.macTable.entries.find? key = some entry → entry.port ≠ id
  | _ => True

theorem hasPort_iff {asic : SoftwareAsic} {id : PortId} :
    asic.hasPort id = true ↔ ∃ port, asic.ports.find? id = some port :=
  Option.isSome_iff_exists

/-- Under the invariant only routes and MAC entries can dangle. -/
theorem referencesExist_of {asic : SoftwareAsic} (h : Programmed asic)
    (hroutes : ∀ route ∈ asic.routeTable.entries, asic.hasPort route.outputPort = true)
    (hmac : ∀ key entry, asic.macTable.entries.find? key = some entry →
      asic.hasPort entry.port = true) : ReferencesExist asic := by
  intro id hnames
  cases hnames with
  | member hmember =>
    obtain ⟨_, port, hport, _⟩ := h.members _ id hmember
    exact hasPort_iff.mpr ⟨port, hport⟩
  | route hroute hport =>
    rw [← hport]
    exact hroutes _ hroute
  | macEntry hentry hport =>
    rw [← hport]
    exact hmac _ _ hentry

/-- Routes and MAC entries that were there before, or name a port, are no harm
where no port goes. -/
theorem referencesExist_grow {before after : SoftwareAsic} (h : ReferencesExist before)
    (hprogrammed : Programmed after)
    (hports : ∀ id, before.hasPort id = true → after.hasPort id = true)
    (hroutes : ∀ route ∈ after.routeTable.entries, route ∈ before.routeTable.entries ∨
      before.hasPort route.outputPort = true)
    (hmac : ∀ key entry, after.macTable.entries.find? key = some entry →
      before.macTable.entries.find? key = some entry ∨ before.hasPort entry.port = true) :
    ReferencesExist after := by
  refine referencesExist_of hprogrammed ?_ ?_
  · intro route hmem
    rcases hroutes route hmem with hold | hnew
    · exact hports _ (h _ (.route hold rfl))
    · exact hports _ hnew
  · intro key entry hfind
    rcases hmac key entry hfind with hold | hnew
    · exact hports _ (h _ (.macEntry hold rfl))
    · exact hports _ hnew

theorem hasPort_of_sameProgramming {before after : SoftwareAsic} (h : SameProgramming before after)
    {id : PortId} (hport : before.hasPort id = true) : after.hasPort id = true := by
  obtain ⟨port, hfind⟩ := hasPort_iff.mp hport
  obtain ⟨current, hcurrent, _⟩ := h.port_of_some hfind
  exact hasPort_iff.mpr ⟨current, hcurrent⟩

/-- A new MAC entry names the port that its frame arrived on. -/
theorem find?_learn_cases {macTable : MacTable} (h : AllDynamic macTable) {vlan : VlanId}
    {mac : MacAddress} {port : PortId} {now : TimePoint} {key : MacKey} {entry : MacTableEntry}
    (hfind : (macTable.learn vlan mac port now).2.entries.find? key = some entry) :
    macTable.entries.find? key = some entry ∨ entry.port = port := by
  by_cases hkey : key = (vlan, mac)
  · rw [hkey, MacTable.find?_learn_self (h (vlan, mac))] at hfind
    split at hfind
    · exact Or.inr (by rw [← Option.some.inj hfind])
    · exact Or.inl (by rw [hkey]; exact hfind)
  · rw [MacTable.find?_learn_of_ne hkey] at hfind
    exact Or.inl hfind

theorem referencesExist_processPacket {asic : SoftwareAsic} (hprogrammed : Programmed asic)
    (h : ReferencesExist asic) (ingressPort : PortId) (bytes : List UInt8) (now : TimePoint) :
    ReferencesExist (asic.processPacket ingressPort bytes now).2 := by
  have hsame := sameProgramming_processPacket asic ingressPort bytes now
  refine referencesExist_grow h (programmed_processPacket hprogrammed ingressPort bytes now)
    (fun _ => hasPort_of_sameProgramming hsame) ?_ ?_
  · intro route hmem
    rw [hsame.routeTable] at hmem
    exact Or.inl hmem
  · intro key entry hfind
    rcases processPacket_macTable_cases asic ingressPort bytes now with
      hkeep | ⟨port, frame, vlan, harrival, _, hlearn⟩
    · rw [hkeep] at hfind
      exact Or.inl hfind
    · rw [hlearn] at hfind
      refine (find?_learn_cases hprogrammed.dynamic hfind).imp_right fun hport => ?_
      rw [hport]
      exact hasPort_iff.mpr ⟨port, (arrival_ok harrival).1⟩

/-- Removing a port that exists keeps the references valid exactly if no route
and no MAC entry names it. -/
theorem referencesExist_removePort_iff {asic : SoftwareAsic} (hprogrammed : Programmed asic)
    (h : ReferencesExist asic) (id : PortId) :
    ReferencesExist (asic.removePort id).2 ↔ RemovesUnreferenced asic (.removePort id) := by
  have hafter := programmed_removePort hprogrammed id
  cases hport : asic.ports.find? id with
  | none =>
    -- nothing is removed, and no reference names a missing port
    have habsent : asic.hasPort id = false := by rw [hasPort, hport]; rfl
    have hunchanged : (asic.removePort id).2 = asic := by rw [removePort, hport]
    rw [hunchanged]
    refine ⟨fun _ => ⟨?_, ?_⟩, fun _ => h⟩
    · rintro route hroute rfl
      rw [h _ (.route hroute rfl)] at habsent
      simp at habsent
    · rintro key entry hentry rfl
      rw [h _ (.macEntry hentry rfl)] at habsent
      simp at habsent
  | some port =>
    rw [removePort_eq hprogrammed hport] at hafter ⊢
    have hremaining : ∀ other, hasPort
        { asic with
          vlanMembers := asic.vlanMembers.mapValues fun list => list.filter fun other => other ≠ id
          queues := asic.queues.erase id
          ports := asic.ports.erase id } other = true ↔ asic.hasPort other = true ∧ other ≠ id := by
      intro other
      rw [hasPort, Table.find?_erase]
      by_cases heq : other = id
      · simp [heq]
      · simp [heq, hasPort]
    constructor
    · intro hexist
      refine ⟨?_, ?_⟩
      · intro route hroute
        exact ((hremaining _).mp (hexist _ (.route hroute rfl))).2
      · intro key entry hentry
        exact ((hremaining _).mp (hexist _ (.macEntry hentry rfl))).2
    · rintro ⟨hroutes, hmac⟩
      refine referencesExist_of hafter ?_ ?_
      · intro route hroute
        exact (hremaining _).mpr ⟨h _ (.route hroute rfl), hroutes route hroute⟩
      · intro key entry hentry
        exact (hremaining _).mpr ⟨h _ (.macEntry hentry rfl), hmac key entry hentry⟩

/-- What most calls do to the references: ports may appear, routes and MAC
entries stay. -/
structure KeepsReferences (before after : SoftwareAsic) : Prop where
  ports : ∀ id, before.hasPort id = true → after.hasPort id = true
  routeTable : after.routeTable = before.routeTable
  macTable : after.macTable = before.macTable

theorem KeepsReferences.of_eq {before after : SoftwareAsic} (hports : after.ports = before.ports)
    (hroutes : after.routeTable = before.routeTable) (hmac : after.macTable = before.macTable) :
    KeepsReferences before after where
  ports := by
    intro id hid
    rw [hasPort, hports]
    exact hid
  routeTable := hroutes
  macTable := hmac

theorem KeepsReferences.referencesExist {before after : SoftwareAsic}
    (hkeeps : KeepsReferences before after) (hprogrammed : Programmed after)
    (h : ReferencesExist before) : ReferencesExist after := by
  refine referencesExist_grow h hprogrammed hkeeps.ports ?_ ?_
  · intro route hroute
    rw [hkeeps.routeTable] at hroute
    exact Or.inl hroute
  · intro key entry hentry
    rw [hkeeps.macTable] at hentry
    exact Or.inl hentry

theorem keepsReferences_createPort (asic : SoftwareAsic) (port : VirtualPort) (capacity : Nat) :
    KeepsReferences asic (asic.createPort port capacity).2 := by
  rw [createPort]
  split
  · exact .of_eq rfl rfl rfl
  · split
    · exact .of_eq rfl rfl rfl
    · refine ⟨?_, rfl, rfl⟩
      intro id hid
      rw [hasPort, Table.find?_emplace]
      split
      · rfl
      · exact hid

theorem keepsReferences_setPortState (asic : SoftwareAsic) (id : PortId) (admin link : Bool) :
    KeepsReferences asic (asic.setPortState id admin link).2 := by
  rw [setPortState]
  split
  · exact .of_eq rfl rfl rfl
  · refine ⟨?_, rfl, rfl⟩
    intro other hother
    rw [hasPort, Table.find?_set]
    split
    · rfl
    · exact hother

theorem keepsReferences_dequeuePacket (asic : SoftwareAsic) (id : PortId) :
    KeepsReferences asic (asic.dequeuePacket id).2 := by
  have hsame := sameForwarding_dequeuePacket asic id
  exact ⟨fun _ => hasPort_of_sameProgramming hsame.toSameProgramming, hsame.routeTable,
    hsame.macTable⟩

/-- `add_or_replace_route` checks the port it stores. -/
theorem referencesExist_addOrReplaceRoute {asic : SoftwareAsic} (hprogrammed : Programmed asic)
    (h : ReferencesExist asic) (route : RouteEntry) :
    ReferencesExist (asic.addOrReplaceRoute route).2 := by
  have hafter := programmed_step (.addOrReplaceRoute route) hprogrammed
  rw [step, addOrReplaceRoute] at hafter
  rw [addOrReplaceRoute]
  cases hfind : asic.ports.find? route.outputPort with
  | none => exact h
  | some existing =>
    rw [hfind] at hafter
    refine referencesExist_grow h hafter (fun _ => id) ?_ fun _ _ => Or.inl
    intro other hother
    rcases Ipv4RouteTable.mem_addOrReplace hother with rfl | hold
    · exact Or.inr (hasPort_iff.mpr ⟨existing, hfind⟩)
    · exact Or.inl hold

/-- **A call keeps every reference valid exactly if it does not remove a port
that a route or a MAC entry names.** -/
theorem referencesExist_step_iff {asic : SoftwareAsic} (operation : Operation)
    (hprogrammed : Programmed asic) (h : ReferencesExist asic) :
    ReferencesExist (asic.step operation) ↔ RemovesUnreferenced asic operation := by
  have hafter := programmed_step operation hprogrammed
  have hkeeps : KeepsReferences asic (asic.step operation) →
      ReferencesExist (asic.step operation) := fun hkeeps => hkeeps.referencesExist hafter h
  have hports := @step_frame asic operation .ports
  have hroutes := @step_frame asic operation .routeTable
  have hmac := @step_frame asic operation .macTable
  cases operation with
  | removePort id => exact referencesExist_removePort_iff hprogrammed h id
  | processPacket ingressPort bytes now =>
    exact iff_of_true (referencesExist_processPacket hprogrammed h ingressPort bytes now) trivial
  | addOrReplaceRoute route =>
    exact iff_of_true (referencesExist_addOrReplaceRoute hprogrammed h route) trivial
  | removeRoute routePrefix =>
    exact iff_of_true (referencesExist_grow h hafter (fun _ => id)
      (fun _ hmem => Or.inl (Ipv4RouteTable.mem_remove hmem)) fun _ _ => Or.inl) trivial
  | createPort port queueCapacity =>
    exact iff_of_true (hkeeps (keepsReferences_createPort asic port queueCapacity)) trivial
  | setPortState id admin link =>
    exact iff_of_true (hkeeps (keepsReferences_setPortState asic id admin link)) trivial
  | dequeuePacket id => exact iff_of_true (hkeeps (keepsReferences_dequeuePacket asic id)) trivial
  | _ => exact iff_of_true (hkeeps (.of_eq (hports rfl) (hroutes rfl) (hmac rfl))) trivial

-- ---------------------------------------------------------------------------
-- Runs
-- ---------------------------------------------------------------------------

/-- Throughout a run from a fresh device every reference is valid, and a port
that a call creates is not named by any table yet. -/
def ReferencesSafe (capacity : Nat) (hcapacity : 0 < capacity) (operations : List Operation) :
    Prop :=
  (∀ front back, operations = front ++ back →
    ReferencesExist (run step (create capacity hcapacity) front)) ∧
  ∀ front port queueCapacity back,
    operations = front ++ .createPort port queueCapacity :: back →
    ((run step (create capacity hcapacity) front).createPort port queueCapacity).1 = .success →
    ¬ Names (run step (create capacity hcapacity) front) port.id

/-- **The references of a run are valid exactly if it never removes a port that a
route or a MAC entry names.** -/
theorem referencesSafe_iff (capacity : Nat) (hcapacity : 0 < capacity)
    (operations : List Operation) :
    ReferencesSafe capacity hcapacity operations ↔
      EachStep step RemovesUnreferenced (create capacity hcapacity) operations := by
  have hstart : ReferencesExist (create capacity hcapacity) := by
    refine referencesExist_of (programmed_create capacity hcapacity) ?_ ?_
    · simp [create, Ipv4RouteTable.empty]
    · simp [create, MacTable.create]
  rw [← throughout_iff_eachStep (fun _ operation => programmed_step operation)
    (fun _ operation => referencesExist_step_iff operation)
    (programmed_create capacity hcapacity) hstart, throughout_iff]
  refine ⟨fun hsafe => hsafe.1, fun hthroughout => ⟨hthroughout, ?_⟩⟩
  intro front port queueCapacity back hsplit hcreated hnames
  have hexists := hthroughout front _ hsplit port.id hnames
  obtain ⟨existing, hfind⟩ := hasPort_iff.mp hexists
  rw [createPort] at hcreated
  split at hcreated
  · simp at hcreated
  · rw [hfind] at hcreated
    simp at hcreated

open Example in
/-- Host 2 is learned on a port to which a route points as well. -/
def learnedRun : List Operation :=
  twoPorts ++
    [.addOrReplaceRoute ⟨⟨⟨0x0A000000⟩, 8, by decide, by decide⟩, none, secondPort,
      RouteEntry.connected_valid⟩,
     .processPacket secondPort (frameBytes 2 1 []) 0]

open Example in
/-- The other port, which no route and no MAC entry names, is removed and created again. -/
theorem referencesSafe_twoPorts :
    ReferencesSafe 8 (by decide)
      (learnedRun ++ [.removePort firstPort, .createPort (accessPort firstPort) 4]) := by
  have hroutes : ∀ route ∈ (device learnedRun).routeTable.entries,
      route.outputPort ≠ firstPort := by decide +kernel
  have hrows : ∀ row ∈ (device learnedRun).macTable.entries.entries,
      row.2.port ≠ firstPort := by decide +kernel
  have hremoved : RemovesUnreferenced (device learnedRun) (.removePort firstPort) :=
    ⟨hroutes, fun key entry hentry => hrows ⟨key, entry⟩ (Table.mem_entries_iff.mpr hentry)⟩
  exact (referencesSafe_iff 8 (by decide) _).mpr
    ⟨trivial, trivial, trivial, trivial, trivial, trivial, trivial, hremoved, trivial, trivial⟩

open Example in
/-- The port is removed and created again. -/
def recreatedRun : List Operation :=
  learnedRun ++
    [.removePort secondPort, .createPort (accessPort secondPort) 4,
     .addVlanMember vlan secondPort]

open Example in
/-- After the removal a route and a MAC entry name a missing port, and the port
created in its place is sent a frame for the host learned on its predecessor. -/
theorem stale_references :
    ¬ ReferencesSafe 8 (by decide) recreatedRun ∧
      (∃ route ∈ (device (learnedRun ++ [.removePort secondPort])).routeTable.entries,
        (device (learnedRun ++ [.removePort secondPort])).hasPort route.outputPort = false) ∧
      ((device recreatedRun).processPacket firstPort (frameBytes 1 2 []) 1).1 =
        ⟨.switched, .none, [secondPort], 0⟩ := by
  refine ⟨?_, by decide +kernel, by decide +kernel⟩
  intro hsafe
  have hentry : (device (learnedRun ++ [.removePort secondPort])).macTable.entries.find?
      (vlan, hostMac 2) = some ⟨secondPort, .dynamic, 0⟩ := by decide +kernel
  have hnames : Names (device (learnedRun ++ [.removePort secondPort])) secondPort :=
    .macEntry hentry rfl
  have hmissing : (device (learnedRun ++ [.removePort secondPort])).hasPort secondPort = false := by
    decide +kernel
  have hexists : (device (learnedRun ++ [.removePort secondPort])).hasPort secondPort = true :=
    hsafe.1 (learnedRun ++ [.removePort secondPort]) _ rfl secondPort hnames
  rw [hmissing] at hexists
  simp at hexists

end SiliconSwitch.Asic.SoftwareAsic
