import SiliconSwitch.Library.BigEndian
import SiliconSwitch.Library.Keyed

/-!
# Topology scenes

`TopologyScene`: its upserts, the snapshot codec and `apply_delta`. Nodes are
keyed by their identifier and links by their end points; the upserts are the
only way to fill a scene, so the structure carries that its keys are distinct.

A coordinate is the bit pattern that `memcpy` moves.

* `parse_serialize` — a serialized scene parses back to itself;
* `applyDelta_serialize` — a delta over a scene with the same keys replaces it.
-/

namespace SiliconSwitch.Visualization

open SiliconSwitch.Library

/-- The bit pattern of a `float`. -/
abbrev FloatBits : Type := UInt32

structure TopologyNode where
  id : UInt32
  x : FloatBits
  y : FloatBits
  vlan : UInt16
  packets : UInt64
  operational : Bool
  label : List UInt8
deriving DecidableEq

structure TopologyLink where
  source : UInt32
  destination : UInt32
  packets : UInt64
  operational : Bool
deriving DecidableEq

namespace TopologyLink

/-- What `upsert_link` compares. -/
def endpoints (link : TopologyLink) : UInt32 × UInt32 := (link.source, link.destination)

end TopologyLink

structure TopologyScene where
  nodes : List TopologyNode
  links : List TopologyLink
  nodes_nodup : (nodes.map TopologyNode.id).Nodup
  links_nodup : (links.map TopologyLink.endpoints).Nodup
deriving DecidableEq

def topologyMagic : UInt32 := 0x544F5031

-- ---------------------------------------------------------------------------
-- Reader
-- ---------------------------------------------------------------------------

structure Reader where
  bytes : List UInt8
  offset : Nat

namespace Reader

def integer (α : Type) [WireInteger α] (reader : Reader) : Option (α × Reader) :=
  match readBigEndian α reader.bytes reader.offset with
  | none => none
  | some value => some (value, { reader with offset := reader.offset + WireInteger.size α })

def floating (reader : Reader) : Option (FloatBits × Reader) := reader.integer UInt32

def string (reader : Reader) (size : Nat) : Option (List UInt8 × Reader) :=
  if reader.offset > reader.bytes.length ∨ size > reader.bytes.length - reader.offset then none
  else
    some ((reader.bytes.drop reader.offset).take size, { reader with offset := reader.offset + size })

def finished (reader : Reader) : Bool := reader.offset == reader.bytes.length

end Reader

namespace TopologyScene

-- ---------------------------------------------------------------------------
-- Upserts
-- ---------------------------------------------------------------------------

def empty : TopologyScene := ⟨[], [], List.nodup_nil, List.nodup_nil⟩

def upsertNode (scene : TopologyScene) (node : TopologyNode) : TopologyScene :=
  { scene with
    nodes := upsert TopologyNode.id node scene.nodes
    nodes_nodup := nodup_upsert TopologyNode.id scene.nodes_nodup }

def upsertLink (scene : TopologyScene) (link : TopologyLink) : TopologyScene :=
  { scene with
    links := upsert TopologyLink.endpoints link scene.links
    links_nodup := nodup_upsert TopologyLink.endpoints scene.links_nodup }

-- ---------------------------------------------------------------------------
-- Parsing
-- ---------------------------------------------------------------------------

/-- One turn of the node loop of `parse_snapshot`. -/
def readNode (reader : Reader) : Option (TopologyNode × Reader) := do
  let (id, reader) ← reader.integer UInt32
  let (x, reader) ← reader.floating
  let (y, reader) ← reader.floating
  let (vlan, reader) ← reader.integer UInt16
  let (flags, reader) ← reader.integer UInt8
  let (labelSize, reader) ← reader.integer UInt8
  let (packets, reader) ← reader.integer UInt64
  let (label, reader) ← reader.string labelSize.toNat
  return (⟨id, x, y, vlan, packets, (flags &&& 1) != 0, label⟩, reader)

/-- One turn of the link loop of `parse_snapshot`. -/
def readLink (reader : Reader) : Option (TopologyLink × Reader) := do
  let (source, reader) ← reader.integer UInt32
  let (destination, reader) ← reader.integer UInt32
  let (packets, reader) ← reader.integer UInt64
  let (flags, reader) ← reader.integer UInt8
  return (⟨source, destination, packets, (flags &&& 1) != 0⟩, reader)

/-- A counted loop of `parse_snapshot`: read a record, put it into the scene. -/
def readAll {α : Type} (read : Reader → Option (α × Reader))
    (put : TopologyScene → α → TopologyScene) :
    Nat → TopologyScene → Reader → Option (TopologyScene × Reader)
  | 0, scene, reader => some (scene, reader)
  | count + 1, scene, reader =>
    match read reader with
    | none => none
    | some (record, reader) => readAll read put count (put scene record) reader

def parseSnapshot (bytes : List UInt8) : Option TopologyScene := do
  let reader : Reader := ⟨bytes, 0⟩
  let (magic, reader) ← reader.integer UInt32
  let (nodeCount, reader) ← reader.integer UInt16
  let (linkCount, reader) ← reader.integer UInt16
  if magic ≠ topologyMagic then none
  else
    let (scene, reader) ← readAll readNode upsertNode nodeCount.toNat empty reader
    let (scene, reader) ← readAll readLink upsertLink linkCount.toNat scene reader
    if reader.finished then some scene else none

-- ---------------------------------------------------------------------------
-- Serializing
-- ---------------------------------------------------------------------------

/-- `append_integer`: grow the buffer by zeros and write over them. -/
def appendInteger {α : Type} [WireInteger α] (bytes : List UInt8) (value : α) : List UInt8 :=
  putBigEndian value (bytes ++ zeros (WireInteger.size α)) bytes.length

/-- `append_float`. -/
def appendFloat (bytes : List UInt8) (value : FloatBits) : List UInt8 := appendInteger bytes value

def appendFlags (bytes : List UInt8) (operational : Bool) : List UInt8 :=
  appendInteger bytes (if operational then (1 : UInt8) else 0)

/-- One turn of the node loop of `serialize_snapshot`, which gives up on a label
that its length byte cannot count. -/
def appendNode (bytes : List UInt8) (node : TopologyNode) : Option (List UInt8) :=
  if node.label.length > 255 then none
  else
    let bytes := appendInteger bytes node.id
    let bytes := appendFloat bytes node.x
    let bytes := appendFloat bytes node.y
    let bytes := appendInteger bytes node.vlan
    let bytes := appendFlags bytes node.operational
    let bytes := appendInteger bytes (UInt8.ofNat node.label.length)
    let bytes := appendInteger bytes node.packets
    some (bytes ++ node.label)

/-- One turn of the link loop of `serialize_snapshot`. -/
def appendLink (bytes : List UInt8) (link : TopologyLink) : List UInt8 :=
  let bytes := appendInteger bytes link.source
  let bytes := appendInteger bytes link.destination
  let bytes := appendInteger bytes link.packets
  appendFlags bytes link.operational

/-- `serialize_snapshot`; the empty buffer is its failure. -/
def serializeSnapshot (scene : TopologyScene) : List UInt8 :=
  if scene.nodes.length > 65535 ∨ scene.links.length > 65535 then []
  else
    let bytes := appendInteger [] topologyMagic
    let bytes := appendInteger bytes (UInt16.ofNat scene.nodes.length)
    let bytes := appendInteger bytes (UInt16.ofNat scene.links.length)
    match scene.nodes.foldlM appendNode bytes with
    | none => []
    | some bytes => scene.links.foldl appendLink bytes

/-- `apply_delta`, with the scene it leaves. -/
def applyDelta (scene : TopologyScene) (bytes : List UInt8) : Option TopologyScene :=
  match parseSnapshot bytes with
  | none => none
  | some delta => some (delta.links.foldl upsertLink (delta.nodes.foldl upsertNode scene))

-- ---------------------------------------------------------------------------
-- The wire layout
-- ---------------------------------------------------------------------------

/-- The octet of an operational flag. -/
def flagBytes (operational : Bool) : List UInt8 := encode (if operational then (1 : UInt8) else 0)

/-- The octets of a node, its label last. -/
def nodeBytes (node : TopologyNode) : List UInt8 :=
  encode node.id ++ (encode node.x ++ (encode node.y ++ (encode node.vlan ++
    (flagBytes node.operational ++ (encode (UInt8.ofNat node.label.length) ++
      (encode node.packets ++ node.label))))))

/-- The octets of a link. -/
def linkBytes (link : TopologyLink) : List UInt8 :=
  encode link.source ++ (encode link.destination ++ (encode link.packets ++
    flagBytes link.operational))

/-- The octets before the records. -/
def headerBytes (scene : TopologyScene) : List UInt8 :=
  encode topologyMagic ++ (encode (UInt16.ofNat scene.nodes.length) ++
    encode (UInt16.ofNat scene.links.length))

/-- The counts of a scene fit their fields. -/
structure Countable (scene : TopologyScene) : Prop where
  nodes_le : scene.nodes.length ≤ 65535
  links_le : scene.links.length ≤ 65535
  label_le : ∀ node ∈ scene.nodes, node.label.length ≤ 255

theorem appendInteger_eq {α : Type} [WireInteger α] (bytes : List UInt8) (value : α) :
    appendInteger bytes value = bytes ++ encode value := by
  unfold appendInteger
  rw [putBigEndian_zeros value rfl (Nat.le_refl _), Nat.sub_self, zeros_zero, List.append_nil]

theorem appendLink_eq (bytes : List UInt8) (link : TopologyLink) :
    appendLink bytes link = bytes ++ linkBytes link := by
  simp [appendLink, appendFlags, appendInteger_eq, linkBytes, flagBytes]

theorem appendNode_eq_some {bytes out : List UInt8} {node : TopologyNode} :
    appendNode bytes node = some out ↔
      node.label.length ≤ 255 ∧ out = bytes ++ nodeBytes node := by
  unfold appendNode
  by_cases hlarge : node.label.length > 255
  · rw [if_pos hlarge]
    simp only [reduceCtorEq, false_iff, not_and]
    omega
  · rw [if_neg hlarge]
    simp only [appendFloat, appendFlags, appendInteger_eq, Option.some.injEq, nodeBytes,
      flagBytes, List.append_assoc]
    constructor
    · intro h
      exact ⟨Nat.le_of_not_gt hlarge, h.symm⟩
    · intro h
      exact h.2.symm

/-- The node loop appends the octets of every node, if all labels can be counted. -/
theorem foldlM_appendNode {nodes : List TopologyNode} {bytes out : List UInt8} :
    nodes.foldlM appendNode bytes = some out ↔
      (∀ node ∈ nodes, node.label.length ≤ 255) ∧ out = bytes ++ nodes.flatMap nodeBytes := by
  induction nodes generalizing bytes with
  | nil =>
    simp only [List.foldlM_nil, List.flatMap_nil, List.append_nil]
    constructor
    · intro h
      exact ⟨by simp, (Option.some.inj h).symm⟩
    · intro h
      rw [h.2]
      rfl
  | cons node nodes ih =>
    rw [List.foldlM_cons, Option.bind_eq_bind, Option.bind_eq_some_iff]
    constructor
    · rintro ⟨written, hnode, hrest⟩
      rw [appendNode_eq_some] at hnode
      rw [ih, hnode.2] at hrest
      refine ⟨List.forall_mem_cons.mpr ⟨hnode.1, hrest.1⟩, ?_⟩
      rw [hrest.2, List.flatMap_cons, List.append_assoc]
    · rintro ⟨hlabels, hout⟩
      rw [List.forall_mem_cons] at hlabels
      refine ⟨bytes ++ nodeBytes node, appendNode_eq_some.mpr ⟨hlabels.1, rfl⟩, ?_⟩
      rw [ih, hout, List.flatMap_cons, List.append_assoc]
      exact ⟨hlabels.2, rfl⟩

theorem foldl_appendLink (links : List TopologyLink) (bytes : List UInt8) :
    links.foldl appendLink bytes = bytes ++ links.flatMap linkBytes := by
  induction links generalizing bytes with
  | nil => simp
  | cons link links ih =>
    rw [List.foldl_cons, ih, appendLink_eq, List.flatMap_cons, List.append_assoc]

theorem appendHeader_eq (scene : TopologyScene) :
    appendInteger (appendInteger (appendInteger [] topologyMagic)
      (UInt16.ofNat scene.nodes.length)) (UInt16.ofNat scene.links.length) =
        scene.headerBytes := by
  simp [appendInteger_eq, headerBytes]

/-- A scene whose counts fit serializes to its records behind their header. -/
theorem serializeSnapshot_of_countable {scene : TopologyScene} (h : Countable scene) :
    scene.serializeSnapshot =
      scene.headerBytes ++ (scene.nodes.flatMap nodeBytes ++ scene.links.flatMap linkBytes) := by
  have hcounts : ¬ (scene.nodes.length > 65535 ∨ scene.links.length > 65535) := by
    have hnodes := h.nodes_le
    have hlinks := h.links_le
    omega
  have hwritten := foldlM_appendNode.mpr
    (show _ ∧ scene.headerBytes ++ scene.nodes.flatMap nodeBytes = _ from ⟨h.label_le, rfl⟩)
  unfold serializeSnapshot
  rw [if_neg hcounts]
  dsimp only
  rw [appendHeader_eq, hwritten]
  dsimp only
  rw [foldl_appendLink, List.append_assoc]

/-- A scene serializes exactly if its counts fit, and then to its records behind
their header. -/
theorem serializeSnapshot_eq (scene : TopologyScene) (h : scene.serializeSnapshot ≠ []) :
    Countable scene ∧ scene.serializeSnapshot =
      scene.headerBytes ++ (scene.nodes.flatMap nodeBytes ++ scene.links.flatMap linkBytes) := by
  have hcountable : Countable scene := by
    unfold serializeSnapshot at h
    by_cases hlarge : scene.nodes.length > 65535 ∨ scene.links.length > 65535
    · rw [if_pos hlarge] at h
      exact absurd rfl h
    · rw [if_neg hlarge] at h
      dsimp only at h
      rw [appendHeader_eq] at h
      cases hnodes : scene.nodes.foldlM appendNode scene.headerBytes with
      | none =>
        rw [hnodes] at h
        exact absurd rfl h
      | some written =>
        obtain ⟨hlabels, -⟩ := foldlM_appendNode.mp hnodes
        exact ⟨by omega, by omega, hlabels⟩
  exact ⟨hcountable, serializeSnapshot_of_countable hcountable⟩

end TopologyScene

-- ---------------------------------------------------------------------------
-- Reading the layout back
-- ---------------------------------------------------------------------------

namespace Reader

/-- A reader that has `rest` before it. -/
def before (done rest : List UInt8) : Reader := ⟨done ++ rest, done.length⟩

theorem integer_before {α : Type} [WireInteger α] (done rest : List UInt8) (value : α) :
    (before done (encode value ++ rest)).integer α =
      some (value, before (done ++ encode value) rest) := by
  unfold integer before
  simp [readBigEndian_append_right]

theorem string_before (done rest label : List UInt8) {size : Nat} (hsize : size = label.length) :
    (before done (label ++ rest)).string size = some (label, before (done ++ label) rest) := by
  subst hsize
  unfold string before
  have hfits : ¬ (done.length > (done ++ (label ++ rest)).length ∨
      label.length > (done ++ (label ++ rest)).length - done.length) := by
    simp only [List.length_append]
    omega
  dsimp only
  rw [if_neg hfits, List.drop_left, List.take_left, List.length_append, List.append_assoc]

end Reader

namespace TopologyScene

theorem flag_of_flagBytes (operational : Bool) :
    (((if operational then (1 : UInt8) else 0) &&& 1) != 0) = operational := by
  cases operational <;> decide

theorem readNode_before {node : TopologyNode} (hlabel : node.label.length ≤ 255)
    (done rest : List UInt8) :
    readNode (.before done (nodeBytes node ++ rest)) =
      some (node, .before (done ++ nodeBytes node) rest) := by
  have hcount : node.label.length = (UInt8.ofNat node.label.length).toNat := by
    rw [UInt8.toNat_ofNat']
    omega
  unfold readNode nodeBytes flagBytes
  simp only [List.append_assoc, Reader.floating, Reader.integer_before, Option.bind_eq_bind,
    Option.bind_some, Reader.string_before _ _ _ hcount.symm, flag_of_flagBytes]
  rfl

theorem readLink_before (link : TopologyLink) (done rest : List UInt8) :
    readLink (.before done (linkBytes link ++ rest)) =
      some (link, .before (done ++ linkBytes link) rest) := by
  unfold readLink linkBytes flagBytes
  simp only [List.append_assoc, Reader.integer_before, Option.bind_eq_bind, Option.bind_some,
    flag_of_flagBytes]
  rfl

/-- A counted loop reads its records back, whatever the scene it puts them into. -/
theorem readAll_before {α : Type} {read : Reader → Option (α × Reader)}
    {put : TopologyScene → α → TopologyScene} {layout : α → List UInt8} {records : List α}
    (hread : ∀ record ∈ records, ∀ done rest,
      read (.before done (layout record ++ rest)) =
        some (record, .before (done ++ layout record) rest))
    (scene : TopologyScene) (done rest : List UInt8) :
    readAll read put records.length scene (.before done (records.flatMap layout ++ rest)) =
      some (records.foldl put scene, .before (done ++ records.flatMap layout) rest) := by
  induction records generalizing scene done with
  | nil => simp [readAll]
  | cons record records ih =>
    rw [List.forall_mem_cons] at hread
    rw [List.length_cons, readAll, List.flatMap_cons, List.append_assoc, hread.1]
    dsimp only
    rw [ih hread.2, List.foldl_cons, List.append_assoc]

theorem foldl_upsertNode (nodes : List TopologyNode) (scene : TopologyScene) :
    (nodes.foldl upsertNode scene).nodes =
        nodes.foldl (fun acc node => upsert TopologyNode.id node acc) scene.nodes ∧
      (nodes.foldl upsertNode scene).links = scene.links := by
  induction nodes generalizing scene with
  | nil => exact ⟨rfl, rfl⟩
  | cons node nodes ih =>
    rw [List.foldl_cons, List.foldl_cons]
    exact ih (scene.upsertNode node)

theorem foldl_upsertLink (links : List TopologyLink) (scene : TopologyScene) :
    (links.foldl upsertLink scene).links =
        links.foldl (fun acc link => upsert TopologyLink.endpoints link acc) scene.links ∧
      (links.foldl upsertLink scene).nodes = scene.nodes := by
  induction links generalizing scene with
  | nil => exact ⟨rfl, rfl⟩
  | cons link links ih =>
    rw [List.foldl_cons, List.foldl_cons]
    exact ih (scene.upsertLink link)

theorem ext_lists {first second : TopologyScene} (hnodes : first.nodes = second.nodes)
    (hlinks : first.links = second.links) : first = second := by
  cases first
  cases second
  subst hnodes
  subst hlinks
  rfl

/-- **A serialized scene parses back to itself.** -/
theorem parse_serialize {scene : TopologyScene} (h : scene.serializeSnapshot ≠ []) :
    parseSnapshot scene.serializeSnapshot = some scene := by
  obtain ⟨hcountable, hlayout⟩ := serializeSnapshot_eq scene h
  have hnodeCount : (UInt16.ofNat scene.nodes.length).toNat = scene.nodes.length := by
    rw [UInt16.toNat_ofNat']
    have := hcountable.nodes_le
    omega
  have hlinkCount : (UInt16.ofNat scene.links.length).toNat = scene.links.length := by
    rw [UInt16.toNat_ofNat']
    have := hcountable.links_le
    omega
  have hnodes := fun done rest => @readAll_before TopologyNode readNode upsertNode nodeBytes
    scene.nodes (fun node hnode => readNode_before (hcountable.label_le node hnode)) empty done rest
  have hlinks := fun done start => @readAll_before TopologyLink readLink upsertLink linkBytes
    scene.links (fun link _ => readLink_before link) start done []
  have hstart : (⟨scene.serializeSnapshot, 0⟩ : Reader) =
      .before [] (scene.headerBytes ++
        (scene.nodes.flatMap nodeBytes ++ (scene.links.flatMap linkBytes ++ []))) := by
    rw [hlayout, List.append_nil]
    rfl
  unfold parseSnapshot
  rw [hstart, headerBytes]
  simp only [List.append_assoc, Reader.integer_before, Option.bind_eq_bind, Option.bind_some,
    hnodeCount, hlinkCount, ne_eq, not_true_eq_false, if_false, hnodes, hlinks]
  rw [if_pos (by simp [Reader.finished, Reader.before])]
  refine congrArg some (ext_lists ?_ ?_)
  · rw [(foldl_upsertLink ..).2, (foldl_upsertNode ..).1]
    exact foldl_upsert_fresh TopologyNode.id scene.nodes_nodup
  · rw [(foldl_upsertLink ..).1, (foldl_upsertNode ..).2]
    exact foldl_upsert_fresh TopologyLink.endpoints scene.links_nodup

/-- Two scenes list the same nodes and the same links, in the same order. -/
structure SameShape (first second : TopologyScene) : Prop where
  nodes : first.nodes.map TopologyNode.id = second.nodes.map TopologyNode.id
  links : first.links.map TopologyLink.endpoints = second.links.map TopologyLink.endpoints

/-- **A delta over a scene of the same shape replaces it.** -/
theorem applyDelta_serialize {scene new : TopologyScene} (hshape : SameShape scene new)
    (h : new.serializeSnapshot ≠ []) : scene.applyDelta new.serializeSnapshot = some new := by
  unfold applyDelta
  rw [parse_serialize h]
  refine congrArg some (ext_lists ?_ ?_)
  · rw [(foldl_upsertLink ..).2, (foldl_upsertNode ..).1]
    exact foldl_upsert_of_keys_eq TopologyNode.id hshape.nodes scene.nodes_nodup
  · rw [(foldl_upsertLink ..).1, (foldl_upsertNode ..).2]
    exact foldl_upsert_of_keys_eq TopologyLink.endpoints hshape.links scene.links_nodup

/-- `apply_delta` fails exactly where the parser does. -/
theorem applyDelta_isSome (scene : TopologyScene) (bytes : List UInt8) :
    (scene.applyDelta bytes).isSome = (parseSnapshot bytes).isSome := by
  unfold applyDelta
  split
  · rename_i hparse
    rw [hparse]
  · rename_i delta hparse
    rw [hparse]
    rfl

end TopologyScene

end SiliconSwitch.Visualization
