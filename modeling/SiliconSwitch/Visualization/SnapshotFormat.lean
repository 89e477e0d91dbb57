import SiliconSwitch.Library.Codec
import SiliconSwitch.Visualization.Topology

/-!
# The snapshot format

Scenes over the runs that build them, and what the snapshot codec makes of them.

* `steady_readNode`, `steady_readAll` — a read that succeeds does not see what
  follows the buffer;
* `selfDelimiting_parseSnapshot` — so nothing can follow an accepted snapshot;
* `serializeSnapshot_eq_nil` — when a scene does not serialize;
* `snapshot_format` — the format over every scene that a run builds.
-/

namespace SiliconSwitch.Visualization

open SiliconSwitch.Library

-- ---------------------------------------------------------------------------
-- Reads that do not look ahead
-- ---------------------------------------------------------------------------

namespace Reader

variable {α : Type}

/-- The reader with more bytes behind those it has. -/
def extend (reader : Reader) (extra : List UInt8) : Reader :=
  { reader with bytes := reader.bytes ++ extra }

/-- What the read finds, it finds with more bytes behind it. -/
def Steady (read : Reader → Option (α × Reader)) : Prop :=
  ∀ reader value after, read reader = some (value, after) →
    ∀ extra, read (reader.extend extra) = some (value, after.extend extra)

theorem steady_integer (α : Type) [WireInteger α] : Steady (integer α) := by
  intro reader value after h extra
  unfold integer at h ⊢
  split at h
  · simp at h
  · rename_i found hfound
    rw [Option.some.injEq, Prod.mk.injEq] at h
    obtain ⟨rfl, rfl⟩ := h
    have hsame := readBigEndian_append_left hfound extra
    simp only [extend, hsame]

theorem steady_string (size : Nat) : Steady fun reader => reader.string size := by
  intro reader value after h extra
  dsimp only at h ⊢
  unfold string at h ⊢
  split at h
  · simp at h
  · rename_i hfits
    rw [Option.some.injEq, Prod.mk.injEq] at h
    obtain ⟨rfl, rfl⟩ := h
    have hroom : ¬ (reader.offset > (reader.bytes ++ extra).length ∨
        size > (reader.bytes ++ extra).length - reader.offset) := by
      rw [List.length_append]
      omega
    have hinside : reader.offset + size ≤ reader.bytes.length := by omega
    rw [extend, if_neg hroom, slice_of_append hinside]
    rfl

end Reader

namespace TopologyScene

open Reader

theorem steady_readNode : Steady readNode := by
  intro reader node after h extra
  unfold readNode at h ⊢
  simp only [Option.bind_eq_bind, Option.bind_eq_some_iff] at h
  obtain ⟨⟨id, _⟩, hid, ⟨x, _⟩, hx, ⟨y, _⟩, hy, ⟨vlan, _⟩, hvlan, ⟨flags, _⟩, hflags,
    ⟨labelSize, _⟩, hlabelSize, ⟨packets, _⟩, hpackets, ⟨label, _⟩, hlabel, h⟩ := h
  obtain ⟨rfl, rfl⟩ := Prod.mk.inj (Option.some.inj h)
  -- every field is found again, from the place where the one before it ends
  simp only [steady_integer _ _ _ _ hid extra, floating, steady_integer _ _ _ _ hx extra,
    steady_integer _ _ _ _ hy extra, steady_integer _ _ _ _ hvlan extra,
    steady_integer _ _ _ _ hflags extra, steady_integer _ _ _ _ hlabelSize extra,
    steady_integer _ _ _ _ hpackets extra, steady_string _ _ _ _ hlabel extra,
    Option.bind_eq_bind, Option.bind_some]
  rfl

theorem steady_readLink : Steady readLink := by
  intro reader link after h extra
  unfold readLink at h ⊢
  simp only [Option.bind_eq_bind, Option.bind_eq_some_iff] at h
  obtain ⟨⟨source, _⟩, hsource, ⟨destination, _⟩, hdestination, ⟨packets, _⟩, hpackets,
    ⟨flags, _⟩, hflags, h⟩ := h
  obtain ⟨rfl, rfl⟩ := Prod.mk.inj (Option.some.inj h)
  simp only [steady_integer _ _ _ _ hsource extra, steady_integer _ _ _ _ hdestination extra,
    steady_integer _ _ _ _ hpackets extra, steady_integer _ _ _ _ hflags extra,
    Option.bind_eq_bind, Option.bind_some]
  rfl

theorem steady_readAll {α : Type} {read : Reader → Option (α × Reader)}
    (hread : Steady read) (put : TopologyScene → α → TopologyScene) (count : Nat)
    (scene : TopologyScene) : Steady (readAll read put count scene) := by
  induction count generalizing scene with
  | zero =>
    intro reader built after h extra
    rw [readAll] at h ⊢
    obtain ⟨rfl, rfl⟩ := Prod.mk.inj (Option.some.inj h)
    rfl
  | succ count ih =>
    intro reader built after h extra
    rw [readAll] at h ⊢
    split at h
    · simp at h
    · rename_i record middle hrecord
      rw [hread reader record middle hrecord extra]
      exact ih (put scene record) middle built after h extra

/-- **Nothing can follow an accepted snapshot**: the reader that has come to the end of
the bytes has not come to the end of more. -/
theorem selfDelimiting_parseSnapshot : SelfDelimiting parseSnapshot := by
  intro bytes scene h extra hextra
  unfold parseSnapshot at h ⊢
  simp only [Option.bind_eq_bind, Option.bind_eq_some_iff] at h
  obtain ⟨⟨magic, _⟩, hmagic, ⟨nodeCount, _⟩, hnodeCount, ⟨linkCount, _⟩, hlinkCount, h⟩ := h
  dsimp only at h
  split at h
  · simp at h
  rename_i hknown
  rw [Option.bind_eq_some_iff] at h
  obtain ⟨⟨nodes, _⟩, hnodes, h⟩ := h
  rw [Option.bind_eq_some_iff] at h
  obtain ⟨⟨built, last⟩, hlinks, h⟩ := h
  split at h
  · rename_i hfinished
    have hunfinished : (last.extend extra).finished = false := by
      have hlonger : 0 < extra.length := List.length_pos_iff.mpr hextra
      have hlast : last.offset = last.bytes.length := beq_iff_eq.mp hfinished
      rw [finished, beq_eq_false_iff_ne]
      show last.offset ≠ (last.bytes ++ extra).length
      rw [hlast, List.length_append]
      omega
    have hstart : (⟨bytes ++ extra, 0⟩ : Reader) = Reader.extend ⟨bytes, 0⟩ extra := rfl
    rw [hstart]
    simp only [steady_integer _ _ _ _ hmagic extra, steady_integer _ _ _ _ hnodeCount extra,
      steady_integer _ _ _ _ hlinkCount extra, Option.bind_eq_bind, Option.bind_some,
      if_neg hknown, steady_readAll steady_readNode _ _ _ _ _ _ hnodes extra,
      steady_readAll steady_readLink _ _ _ _ _ _ hlinks extra, hunfinished]
    rfl
  · simp at h

-- ---------------------------------------------------------------------------
-- Runs
-- ---------------------------------------------------------------------------

end TopologyScene

/-- The calls that change a scene. `parse_snapshot` makes a new one; a call that fails
leaves the scene as it is. -/
inductive SceneOperation
  | upsertNode (node : TopologyNode)
  | upsertLink (link : TopologyLink)
  | parseSnapshot (bytes : List UInt8)
  | applyDelta (bytes : List UInt8)

namespace SceneOperation

def apply (scene : TopologyScene) : SceneOperation → TopologyScene
  | upsertNode node => scene.upsertNode node
  | upsertLink link => scene.upsertLink link
  | parseSnapshot bytes => (TopologyScene.parseSnapshot bytes).getD scene
  | applyDelta bytes => (scene.applyDelta bytes).getD scene

/-- The scene that the calls build, one after the other, from the empty one. -/
def run (operations : List SceneOperation) : TopologyScene :=
  operations.foldl apply TopologyScene.empty

theorem foldl_upsertNode (nodes : List TopologyNode) (scene : TopologyScene) :
    (nodes.map upsertNode).foldl apply scene = nodes.foldl TopologyScene.upsertNode scene := by
  rw [List.foldl_map]
  rfl

theorem foldl_upsertLink (links : List TopologyLink) (scene : TopologyScene) :
    (links.map upsertLink).foldl apply scene = links.foldl TopologyScene.upsertLink scene := by
  rw [List.foldl_map]
  rfl

/-- Every scene with distinct keys is built by a run: the invariant of the structure is
that of the runs. -/
theorem exists_run (scene : TopologyScene) : ∃ operations, run operations = scene := by
  refine ⟨scene.nodes.map upsertNode ++ scene.links.map upsertLink, ?_⟩
  rw [run, List.foldl_append, foldl_upsertNode, foldl_upsertLink]
  refine TopologyScene.ext_lists ?_ ?_
  · rw [(TopologyScene.foldl_upsertLink ..).2, (TopologyScene.foldl_upsertNode ..).1]
    exact foldl_upsert_fresh TopologyNode.id scene.nodes_nodup
  · rw [(TopologyScene.foldl_upsertLink ..).1, (TopologyScene.foldl_upsertNode ..).2]
    exact foldl_upsert_fresh TopologyLink.endpoints scene.links_nodup

end SceneOperation

-- ---------------------------------------------------------------------------
-- The format
-- ---------------------------------------------------------------------------

namespace TopologyScene

/-- A scene fails to serialize exactly if a count does not fit its field. -/
theorem serializeSnapshot_eq_nil (scene : TopologyScene) :
    scene.serializeSnapshot = [] ↔
      scene.nodes.length > 65535 ∨ scene.links.length > 65535 ∨
        ∃ node ∈ scene.nodes, node.label.length > 255 := by
  constructor
  · intro hnil
    by_contra hfits
    simp only [not_or, not_exists, not_and, Nat.not_lt] at hfits
    obtain ⟨hnodes, hlinks, hlabels⟩ := hfits
    rw [serializeSnapshot_of_countable ⟨hnodes, hlinks, hlabels⟩, headerBytes] at hnil
    have hlength := congrArg List.length hnil
    simp at hlength
  · intro hlarge
    by_contra hne
    obtain ⟨⟨hnodes, hlinks, hlabels⟩, -⟩ := serializeSnapshot_eq scene hne
    rcases hlarge with hmany | hmany | ⟨node, hnode, hlong⟩
    · omega
    · omega
    · have hshort := hlabels node hnode
      omega

end TopologyScene

open TopologyScene in
/-- **The snapshot format is lossless and self-delimiting.** Every scene that a run builds has
distinct nodes and distinct links. It fails to serialize exactly if a count does not fit its
field, and otherwise is what its snapshot parses to, of which no proper prefix and no proper
extension is accepted. -/
theorem snapshot_format (operations : List SceneOperation) :
    ((SceneOperation.run operations).nodes.map TopologyNode.id).Nodup ∧
    ((SceneOperation.run operations).links.map TopologyLink.endpoints).Nodup ∧
    ((SceneOperation.run operations).serializeSnapshot = [] ↔
      (SceneOperation.run operations).nodes.length > 65535 ∨
        (SceneOperation.run operations).links.length > 65535 ∨
        ∃ node ∈ (SceneOperation.run operations).nodes, node.label.length > 255) ∧
    ((SceneOperation.run operations).serializeSnapshot ≠ [] →
      parseSnapshot (SceneOperation.run operations).serializeSnapshot =
        some (SceneOperation.run operations) ∧
      ∀ bytes : List UInt8, bytes ≠ (SceneOperation.run operations).serializeSnapshot →
        bytes <+: (SceneOperation.run operations).serializeSnapshot ∨
          (SceneOperation.run operations).serializeSnapshot <+: bytes →
        parseSnapshot bytes = none) := by
  generalize SceneOperation.run operations = scene
  refine ⟨scene.nodes_nodup, scene.links_nodup, scene.serializeSnapshot_eq_nil, ?_⟩
  intro hserializes
  have hparse : parseSnapshot scene.serializeSnapshot = some scene := parse_serialize hserializes
  refine ⟨hparse, ?_⟩
  intro bytes hne hfront
  rcases hfront with hshorter | hlonger
  · exact selfDelimiting_parseSnapshot.decode_eq_none_of_prefix hparse hshorter hne
  · exact selfDelimiting_parseSnapshot.decode_eq_none_of_extension hparse hlonger hne.symm

end SiliconSwitch.Visualization
