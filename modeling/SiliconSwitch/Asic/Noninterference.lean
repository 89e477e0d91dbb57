import SiliconSwitch.Asic.View
import SiliconSwitch.Library.Unwinding
import SiliconSwitch.Switching.VlanNoninterference

/-!
# A VLAN does not notice the others

The device as its access ports of one VLAN see it, over whole runs. An observer there
makes control calls and queries, sends packets into those ports and takes packets out of
them; packets of other ports, and the shared counters, are hidden from it.

The VLANs share the MAC table, the fault injector, the routes and trunk ports. `Isolates`
says when these carry nothing from one VLAN to another: the VLAN has ports of its own, no
router interface is up, no fault depends on the count of packets, and the MAC table has
room.

* `VlanView`                  — two states that the observer cannot tell apart now.
* `vlanView_hidden`           — hidden calls keep the view.
* `vlanView_shown`            — the observer's calls answer alike, and keep it.
* `vlan_runs_noninterference` — so runs that differ in hidden calls only answer alike.
-/

namespace SiliconSwitch.Asic.SoftwareAsic

open SiliconSwitch.Library SiliconSwitch.Network SiliconSwitch.Routing SiliconSwitch.Switching
open SiliconSwitch.Switching.VirtualPort (SameConfiguration)

-- ---------------------------------------------------------------------------
-- The observer
-- ---------------------------------------------------------------------------

/-- The configuration of an access port of the VLAN. -/
def isAccess (vlan : VlanId) (config : VlanPortConfig) : Bool := config.accessVlan == some vlan

/-- Whether `id` is an access port of the VLAN. -/
abbrev hasAccessPort (asic : SoftwareAsic) (vlan : VlanId) (id : PortId) : Bool :=
  asic.watches (isAccess vlan) id

/-- The calls that an observer in the VLAN makes or sees. -/
def visibleTo (vlan : VlanId) (asic : SoftwareAsic) : Call → Bool
  | .operation (.processPacket ingressPort _ _) => asic.hasAccessPort vlan ingressPort
  | .operation (.dequeuePacket port) => asic.hasAccessPort vlan port
  | .counters => false
  | _ => true

/-- Nothing that the VLANs share carries traffic of one into the other. -/
structure Isolates (vlan : VlanId) (asic : SoftwareAsic) : Prop where
  dedicated : ∀ id port, asic.ports.find? id = some port → port.vlanConfig.allows vlan = true →
    port.vlanConfig.accessVlan = some vlan
  bridging : ∀ other, asic.routerInterfaces.find? other = none
  unpaced : Unpaced asic.faultInjector.config
  room : asic.macTable.HasRoom

/-- Two states that look the same from the access ports of the VLAN. -/
abbrev VlanView (vlan : VlanId) : SoftwareAsic → SoftwareAsic → Prop :=
  SameView (SameVlan vlan) (isAccess vlan)

section Relations

variable {vlan : VlanId} {first second : SoftwareAsic}

theorem hasAccessPort_eq_true {asic : SoftwareAsic} {id : PortId} :
    asic.hasAccessPort vlan id = true ↔
      ∃ port, asic.ports.find? id = some port ∧ port.vlanConfig.accessVlan = some vlan := by
  rw [watches_eq_true]
  simp only [isAccess, beq_iff_eq]

/-- An access port allows its VLAN and no other. -/
theorem eq_of_allows {config : VlanPortConfig} {other : VlanId}
    (haccess : config.accessVlan = some vlan) (hallows : config.allows other = true) :
    other = vlan := by
  cases config with
  | access own =>
    obtain rfl : own = vlan := Option.some.inj haccess
    simpa [VlanPortConfig.allows, VlanPortConfig.allowedVlans] using hallows
  | trunk => simp [VlanPortConfig.accessVlan] at haccess

theorem VlanView.symm (h : VlanView vlan first second) : VlanView vlan second first :=
  SameView.symm (fun hentries mac => (hentries mac).symm) h

end Relations

-- ---------------------------------------------------------------------------
-- Packets without routing
-- ---------------------------------------------------------------------------

section Bridging

variable {asic : SoftwareAsic} {ingressPort : PortId} {bytes : List UInt8} {now : TimePoint}

/-- Without router interfaces a packet is dropped or bridged in its own VLAN. -/
theorem verdict_of_bridging (hbridging : ∀ other, asic.routerInterfaces.find? other = none)
    {disposition : PacketDisposition} {requested : List PortId} {frame : List UInt8}
    (h : asic.verdict ingressPort bytes now = .egress disposition requested frame) :
    ∃ port received own, asic.arrival ingressPort bytes = .ok (port, received) ∧
      classifyVlanIngress received port.vlanConfig = .ok own ∧
      ∀ id ∈ requested, id ∈ asic.memberList own := by
  obtain ⟨port, received, harrival, hdecision⟩ := verdict_egress h
  have hbridged : ∀ own, (asic.pipeline ingressPort port received now).1 = .flood own requested ∨
      (asic.pipeline ingressPort port received now).1 = .switchKnownUnicast own requested →
      classifyVlanIngress received port.vlanConfig = .ok own ∧
        ∀ id ∈ requested, id ∈ asic.memberList own := by
    intro own hpipeline
    obtain ⟨hclassify, _, _, hports, _⟩ := processL2L3Ingress_bridged hpipeline
    rw [memberLookupVlan_of_classify hclassify] at hports
    exact ⟨hclassify, fun id hid => (hports id hid).1⟩
  rcases hdecision with ⟨own, hflood, _⟩ | ⟨own, hswitch, _⟩ | ⟨own, hroute, _⟩
  · obtain ⟨hclassify, hmembers⟩ := hbridged own (Or.inl hflood)
    exact ⟨port, received, own, harrival, hclassify, hmembers⟩
  · obtain ⟨hclassify, hmembers⟩ := hbridged own (Or.inr hswitch)
    exact ⟨port, received, own, harrival, hclassify, hmembers⟩
  · obtain ⟨own', _, _, hdecide⟩ := pipeline_of_not_drop hroute (by simp)
    rw [decideLearned, hbridging] at hdecide
    simp only [reduceCtorEq, if_false] at hdecide
    rw [bridge] at hdecide
    split at hdecide <;> simp at hdecide

/-- Without router interfaces the control plane hears nothing. -/
theorem heardNeighbor_of_bridging (hbridging : ∀ other, asic.routerInterfaces.find? other = none) :
    asic.heardNeighbor ingressPort bytes now = none := by
  rw [heardNeighbor]
  cases harrival : asic.arrival ingressPort bytes with
  | error early => rfl
  | ok arrived =>
    obtain ⟨port, frame⟩ := arrived
    dsimp only
    cases hdecision : (asic.pipeline ingressPort port frame now).1 with
    | deliverToControlPlane own =>
      obtain ⟨own', _, _, hdecide⟩ := pipeline_of_not_drop hdecision (by simp)
      rw [decideLearned, hbridging] at hdecide
      simp only [reduceCtorEq, if_false] at hdecide
      rw [bridge] at hdecide
      split at hdecide <;> simp at hdecide
    | _ => rfl

end Bridging

-- ---------------------------------------------------------------------------
-- Hidden calls
-- ---------------------------------------------------------------------------

section Hidden

variable {vlan : VlanId} {asic : SoftwareAsic}

/-- A frame that another port receives is not of the VLAN. -/
theorem ne_of_hidden (hisolates : Isolates vlan asic) {ingressPort : PortId} {bytes : List UInt8}
    (hhidden : asic.hasAccessPort vlan ingressPort = false) {port : VirtualPort}
    {frame : EthernetFrame} {own : VlanId}
    (harrival : asic.arrival ingressPort bytes = .ok (port, frame))
    (hclassify : classifyVlanIngress frame port.vlanConfig = .ok own) : own ≠ vlan := by
  rintro rfl
  have hfound := (arrival_ok harrival).1
  have haccess := hisolates.dedicated ingressPort port hfound
    (allows_of_classifyVlanIngress hclassify)
  rw [hasAccessPort_eq_true.mpr ⟨port, hfound, haccess⟩] at hhidden
  simp at hhidden

/-- A packet of another port leaves the view of the VLAN alone. -/
theorem vlanView_processPacket_hidden (hprogrammed : Programmed asic)
    (hisolates : Isolates vlan asic) {ingressPort : PortId}
    (hhidden : asic.hasAccessPort vlan ingressPort = false) (bytes : List UInt8)
    (now : TimePoint) : VlanView vlan asic (asic.processPacket ingressPort bytes now).2 where
  toSameProgramming := sameProgramming_processPacket asic ingressPort bytes now
  arpCache := by
    rw [processPacket_arpCache, heardNeighbor_of_bridging hisolates.bridging]
    rfl
  entries := by
    intro mac
    rcases processPacket_macTable_cases asic ingressPort bytes now with
      hsame | ⟨port, frame, own, harrival, hclassify, hlearn⟩
    · rw [hsame]
    · have hne := ne_of_hidden hisolates hhidden harrival hclassify
      have hkey : (vlan, mac) ≠ (own, frame.source) := by
        intro heq
        exact hne (Prod.mk.inj heq).1.symm
      rw [hlearn]
      exact (MacTable.find?_learn_of_ne hkey).symm
  viewed := by
    intro id hid
    cases hverdict : asic.verdict ingressPort bytes now with
    | egress disposition requested frame =>
      obtain ⟨port, received, own, harrival, hclassify, hmembers⟩ :=
        verdict_of_bridging hisolates.bridging hverdict
      have hne := ne_of_hidden hisolates hhidden harrival hclassify
      refine ((processPacket_tables hverdict).2 id fun hrequested => hne ?_).2
      obtain ⟨found, hfound, haccess⟩ := hasAccessPort_eq_true.mp hid
      obtain ⟨_, member, hmember, hallows⟩ := hprogrammed.members own id (hmembers id hrequested)
      rw [hfound, Option.some.injEq] at hmember
      subst hmember
      exact eq_of_allows haccess hallows
    | _ => rw [processPacket_queues (by simp [hverdict])]

/-- So does taking a packet from another port's queue. -/
theorem vlanView_dequeuePacket_hidden {port : PortId}
    (hhidden : asic.hasAccessPort vlan port = false) :
    VlanView vlan asic (asic.dequeuePacket port).2 where
  toSameProgramming := (sameForwarding_dequeuePacket asic port).toSameProgramming
  arpCache := (sameForwarding_dequeuePacket asic port).arpCache
  entries := fun mac => by rw [(sameForwarding_dequeuePacket asic port).macTable]
  viewed := by
    intro id hid
    rw [dequeuePacket]
    cases asic.queues.find? port with
    | none => rfl
    | some queue =>
      refine Table.find?_set_of_ne ?_
      rintro rfl
      rw [show asic.hasAccessPort vlan id = true from hid] at hhidden
      simp at hhidden

/-- **Hidden calls keep the view.** -/
theorem vlanView_hidden (hprogrammed : Programmed asic) (hisolates : Isolates vlan asic)
    {call : Call} (hhidden : visibleTo vlan asic call = false) :
    VlanView vlan asic (asic.respond call).2 := by
  cases call with
  | operation operation =>
    cases operation with
    | processPacket ingressPort bytes now =>
      exact vlanView_processPacket_hidden hprogrammed hisolates hhidden bytes now
    | dequeuePacket port => exact vlanView_dequeuePacket_hidden hhidden
    | _ => simp [visibleTo] at hhidden
  | counters => exact SameView.refl (fun _ _ => rfl) asic
  | _ => simp [visibleTo] at hhidden

end Hidden

-- ---------------------------------------------------------------------------
-- Packets of the VLAN
-- ---------------------------------------------------------------------------

section Shown

variable {vlan : VlanId} {first second : SoftwareAsic}

/-- A frame of the VLAN meets the same decision, and is learned alike. -/
theorem pipeline_of_vlanView (h : VlanView vlan first second) (hfirst : first.macTable.HasRoom)
    (hsecond : second.macTable.HasRoom) {port current : VirtualPort}
    (hsame : SameConfiguration port current) (haccess : port.vlanConfig.accessVlan = some vlan)
    (ingressPort : PortId) (frame : EthernetFrame) (now : TimePoint) :
    (second.pipeline ingressPort current frame now).1 =
        (first.pipeline ingressPort port frame now).1 ∧
      SameVlan vlan (first.pipeline ingressPort port frame now).2
        (second.pipeline ingressPort current frame now).2 := by
  rw [pipeline, pipeline, hsame.vlanConfig, h.toSameProgramming.memberList, h.routerInterfaces]
  cases hclassify : classifyVlanIngress frame port.vlanConfig with
  | error reason =>
    rw [processL2L3Ingress, processL2L3Ingress, hclassify]
    exact ⟨rfl, h.entries⟩
  | ok own =>
    obtain rfl : own = vlan := eq_of_allows haccess (allows_of_classifyVlanIngress hclassify)
    obtain ⟨hreport, hafter⟩ :=
      learn_sameVlan h.entries hfirst hsecond frame.source ingressPort now
    rw [processL2L3Ingress_of_classify hclassify, processL2L3Ingress_of_classify hclassify,
      hreport]
    exact ⟨(decideAfter_sameVlan hafter ..).symm, hafter⟩

/-- What is neither routed nor delivered takes its exit from the decision alone. -/
theorem decisionVerdict_of_bridging
    (hbridging : ∀ other, first.routerInterfaces.find? other = none) {ingressPort : PortId}
    {port : VirtualPort} {frame : EthernetFrame} {now : TimePoint} {decision : PipelineDecision}
    (hdecision : (first.pipeline ingressPort port frame now).1 = decision) :
    second.decisionVerdict decision frame now = first.decisionVerdict decision frame now := by
  have hinterface : ∀ own, decision ≠ .routeIpv4 own := by
    rintro own rfl
    obtain ⟨own', _, _, hdecide⟩ := pipeline_of_not_drop hdecision (by simp)
    rw [decideLearned, hbridging] at hdecide
    simp only [reduceCtorEq, if_false] at hdecide
    rw [bridge] at hdecide
    split at hdecide <;> simp at hdecide
  cases decision with
  | routeIpv4 own => exact absurd rfl (hinterface own)
  | drop | deliverToControlPlane | flood | switchKnownUnicast => rfl

theorem verdict_of_vlanView (h : VlanView vlan first second) (hfirst : Isolates vlan first)
    (hsecond : Isolates vlan second) {ingressPort : PortId}
    (hshown : first.hasAccessPort vlan ingressPort = true) (bytes : List UInt8)
    (now : TimePoint) :
    second.verdict ingressPort bytes now = first.verdict ingressPort bytes now := by
  obtain ⟨hearly, hok⟩ :=
    arrival_of_sameProgramming h.toSameProgramming hfirst.unpaced ingressPort bytes
  rw [verdict, verdict]
  cases harrival : first.arrival ingressPort bytes with
  | error early => rw [hearly early harrival]
  | ok arrived =>
    obtain ⟨port, frame⟩ := arrived
    obtain ⟨current, hcurrent, hsame⟩ := hok port frame harrival
    obtain ⟨found, hfound, haccess⟩ := hasAccessPort_eq_true.mp hshown
    rw [(arrival_ok harrival).1, Option.some.injEq] at hfound
    subst hfound
    rw [hcurrent]
    dsimp only
    rw [(pipeline_of_vlanView h hfirst.room hsecond.room hsame haccess ingressPort frame now).1]
    exact decisionVerdict_of_bridging hfirst.bridging rfl

/-- The copies of a packet of the VLAN are for access ports of it. -/
theorem hasAccessPort_of_requested (hprogrammed : Programmed first)
    (hisolates : Isolates vlan first) {ingressPort : PortId}
    (hshown : first.hasAccessPort vlan ingressPort = true) {bytes : List UInt8} {now : TimePoint}
    {disposition : PacketDisposition} {requested : List PortId} {frame : List UInt8}
    (hverdict : first.verdict ingressPort bytes now = .egress disposition requested frame) :
    ∀ id ∈ requested, first.hasAccessPort vlan id = true := by
  intro id hid
  obtain ⟨port, received, own, harrival, hclassify, hmembers⟩ :=
    verdict_of_bridging hisolates.bridging hverdict
  obtain ⟨found, hfound, haccess⟩ := hasAccessPort_eq_true.mp hshown
  rw [(arrival_ok harrival).1, Option.some.injEq] at hfound
  subst hfound
  obtain rfl : own = vlan := eq_of_allows haccess (allows_of_classifyVlanIngress hclassify)
  obtain ⟨_, member, hmember, hallows⟩ := hprogrammed.members own id (hmembers id hid)
  exact hasAccessPort_eq_true.mpr ⟨member, hmember, hisolates.dedicated id member hmember hallows⟩

/-- **A packet of the VLAN has the same result, and leaves the views alike.** -/
theorem vlanView_processPacket_shown (h : VlanView vlan first second)
    (hprogrammed : Programmed first) (hfirst : Isolates vlan first)
    (hsecond : Isolates vlan second) {ingressPort : PortId}
    (hshown : first.hasAccessPort vlan ingressPort = true) (bytes : List UInt8)
    (now : TimePoint) :
    (first.processPacket ingressPort bytes now).1 =
        (second.processPacket ingressPort bytes now).1 ∧
      VlanView vlan (first.processPacket ingressPort bytes now).2
        (second.processPacket ingressPort bytes now).2 := by
  have hverdict := verdict_of_vlanView h hfirst hsecond hshown bytes now
  obtain ⟨hresult, hqueues⟩ := processPacket_alike h.toSameProgramming hfirst.unpaced hverdict
    fun _ _ _ hexit id hid =>
      h.viewed id (hasAccessPort_of_requested hprogrammed hfirst hshown hexit id hid)
  refine ⟨hresult, ?_⟩
  exact {
    toSameProgramming :=
      ((sameProgramming_processPacket first ingressPort bytes now).symm.trans
        h.toSameProgramming).trans (sameProgramming_processPacket second ingressPort bytes now)
    arpCache := by
      rw [processPacket_arpCache, processPacket_arpCache,
        heardNeighbor_of_bridging hfirst.bridging, heardNeighbor_of_bridging hsecond.bridging]
      exact h.arpCache
    entries := by
      obtain ⟨hearly, hok⟩ := arrival_of_sameProgramming h.toSameProgramming hfirst.unpaced
        ingressPort bytes
      rw [processPacket_macTable, processPacket_macTable]
      cases harrival : first.arrival ingressPort bytes with
      | error early =>
        rw [hearly early harrival]
        exact h.entries
      | ok arrived =>
        obtain ⟨port, frame⟩ := arrived
        obtain ⟨current, hcurrent, hsame⟩ := hok port frame harrival
        obtain ⟨found, hfound, haccess⟩ := hasAccessPort_eq_true.mp hshown
        rw [(arrival_ok harrival).1, Option.some.injEq] at hfound
        subst hfound
        rw [hcurrent]
        exact (pipeline_of_vlanView h hfirst.room hsecond.room hsame haccess ingressPort frame
          now).2
    viewed := by
      intro id hid
      rw [watches_congr (sameProgramming_processPacket first ingressPort bytes now)] at hid
      exact hqueues id (h.viewed id hid) }

end Shown

-- ---------------------------------------------------------------------------
-- Runs
-- ---------------------------------------------------------------------------

/-- **The observer's calls answer alike, and keep the view.** -/
theorem vlanView_shown {vlan : VlanId} {first second : SoftwareAsic}
    (h : VlanView vlan first second) (hfirst : Programmed first) (hsecond : Programmed second)
    (hisolates : Isolates vlan first) (hothers : Isolates vlan second) {call : Call}
    (hshown : visibleTo vlan first call = true) :
    (first.respond call).1 = (second.respond call).1 ∧
      VlanView vlan (first.respond call).2 (second.respond call).2 := by
  have hquery := @sameView_query _ _ _ _ h call
  cases call with
  | operation operation =>
    have hcontrol := @sameView_control _ _ _ _ h hfirst hsecond operation
    cases operation with
    | processPacket ingressPort bytes now =>
      obtain ⟨hresult, hview⟩ :=
        vlanView_processPacket_shown h hfirst hisolates hothers hshown bytes now
      exact ⟨congrArg Answer.packet hresult, hview⟩
    | dequeuePacket port =>
      obtain ⟨hbytes, hview⟩ := sameView_dequeuePacket h (h.viewed port hshown)
      exact ⟨congrArg Answer.bytes hbytes, hview⟩
    | _ => exact hcontrol (by simp) (by simp)
  | counters => simp [visibleTo] at hshown
  | hasPort | hasVlan | findRoute | findNeighbor => exact hquery (by simp) (by simp)

theorem unwinding_vlanView (vlan : VlanId) :
    Unwinding respond (visibleTo vlan) (fun asic => Programmed asic ∧ Isolates vlan asic)
      (VlanView vlan) where
  symm := VlanView.symm
  hidden := fun _ hI h hhidden => SameView.trans
    (fun hentries hothers mac => (hentries mac).trans (hothers mac))
    (VlanView.symm (vlanView_hidden hI.1 hI.2 hhidden)) h
  shown := fun _ hfirst hsecond h hshown =>
    vlanView_shown h hfirst.1 hsecond.1 hfirst.2 hsecond.2 hshown

/-- A run whose states all isolate the VLAN, with the invariant beside it. -/
theorem eachStep_programmed {vlan : VlanId} {asic : SoftwareAsic} (h : Programmed asic)
    {calls : List Call}
    (hisolates : EachStep (afterCall respond) (fun asic _ => Isolates vlan asic) asic calls) :
    EachStep (afterCall respond) (fun asic _ => Programmed asic ∧ Isolates vlan asic) asic
      calls := by
  induction calls generalizing asic with
  | nil => trivial
  | cons call rest ih => exact ⟨⟨h, hisolates.1⟩, ih (programmed_respond h call) hisolates.2⟩

/-- **Traffic of other VLANs is invisible over whole runs.** From any reachable state, two
runs in which the VLAN stays isolated and which make the same calls as far as its access
ports see get the same answers to them, down to the ports, drop reasons and latencies of
every packet result and every byte taken from a queue, whatever packets the two runs send
and take at other ports in between. -/
theorem vlan_runs_noninterference {asic : SoftwareAsic} (h : asic.Reachable) (vlan : VlanId)
    {first second : List Call}
    (hfirst : EachStep (afterCall respond) (fun asic _ => Isolates vlan asic) asic first)
    (hsecond : EachStep (afterCall respond) (fun asic _ => Isolates vlan asic) asic second)
    (hcalls : (transcript respond (visibleTo vlan) asic first).map Prod.fst =
      (transcript respond (visibleTo vlan) asic second).map Prod.fst) :
    transcript respond (visibleTo vlan) asic first =
      transcript respond (visibleTo vlan) asic second :=
  (unwinding_vlanView vlan).transcript_eq (SameView.refl (fun _ _ => rfl) asic)
    (eachStep_programmed h.programmed hfirst) (eachStep_programmed h.programmed hsecond) hcalls

/-- Packets end the isolation of a VLAN by filling the MAC table only. -/
theorem Isolates.of_sameProgramming {vlan : VlanId} {before after : SoftwareAsic}
    (h : Isolates vlan before) (hsame : SameProgramming before after)
    (hroom : after.macTable.HasRoom) : Isolates vlan after where
  dedicated := by
    intro id port hport hallows
    obtain ⟨original, horiginal, hconfig⟩ := hsame.port_of_some' hport
    rw [hconfig.vlanConfig] at hallows ⊢
    exact h.dedicated id original horiginal hallows
  bridging := by rw [hsame.routerInterfaces]; exact h.bridging
  unpaced := by rw [hsame.faultConfig]; exact h.unpaced
  room := hroom

namespace GuestExample

open Example

def guestVlan : VlanId := ⟨37, by decide, by decide⟩
def guestPort : PortId := ⟨11, by decide⟩

/-- The small device with a port in another VLAN. -/
def withGuest : List Operation :=
  twoPorts ++ [.createPort { accessPort guestPort with vlanConfig := .access guestVlan } 4,
    .createVlan guestVlan, .addVlanMember guestVlan guestPort]

theorem isolates_withGuest : Isolates vlan (device withGuest) where
  dedicated := by
    have hall : ∀ entry ∈ AList.entries (device withGuest).ports,
        entry.2.vlanConfig.allows vlan = true → entry.2.vlanConfig.accessVlan = some vlan := by
      decide +kernel
    intro id port hport
    exact hall ⟨id, port⟩ (Table.mem_entries_iff.mpr hport)
  bridging := fun other => Table.find?_empty other
  unpaced := ⟨rfl, rfl⟩
  room := by decide +kernel

/-- A frame of the guest, with the addresses of the host that the VLAN hears next. -/
def guestPacket : Call := .operation (.processPacket guestPort (frameBytes 1 2 [7, 7, 7]) 0)

def hostPacket : Call := .operation (.processPacket firstPort (frameBytes 1 2 [5]) 3)

end GuestExample

open Example GuestExample in
/-- The host's frame meets the same result after the guest's as without it. -/
theorem vlan_runs_noninterference_guest :
    transcript respond (visibleTo vlan) (device withGuest) [guestPacket, hostPacket] =
      transcript respond (visibleTo vlan) (device withGuest) [hostPacket] :=
  vlan_runs_noninterference (reachable_device withGuest) vlan
    ⟨isolates_withGuest, isolates_withGuest.of_sameProgramming
      (sameProgramming_processPacket _ guestPort (frameBytes 1 2 [7, 7, 7]) 0)
      (by decide +kernel), trivial⟩
    ⟨isolates_withGuest, trivial⟩ rfl

end SiliconSwitch.Asic.SoftwareAsic
