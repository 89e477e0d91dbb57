import SiliconSwitch.Visualization.Topology

/-!
# Deltas as merges

What `apply_delta` leaves of a scene and of the scene that the delta spells.

* `deltaApplied_eq` — the scene afterwards is the merge of the two, nodes and links apart;
* `delta_merge`     — so the delta's records win, the old keys stay in front, and a second
  application does nothing.
-/

namespace SiliconSwitch.Visualization

open SiliconSwitch.Library

namespace TopologyScene

/-- `apply_delta` on the object: what it returns, and the scene afterwards. -/
def deltaApplied (scene : TopologyScene) (bytes : List UInt8) : Bool × TopologyScene :=
  match scene.applyDelta bytes with
  | none => (false, scene)
  | some after => (true, after)

def findNode (scene : TopologyScene) (id : UInt32) : Option TopologyNode :=
  scene.nodes.find? fun node => node.id = id

def findLink (scene : TopologyScene) (endpoints : UInt32 × UInt32) : Option TopologyLink :=
  scene.links.find? fun link => link.endpoints = endpoints

/-- The records of `delta` upserted into the scene. -/
def merge (scene delta : TopologyScene) : TopologyScene where
  nodes := Library.merge TopologyNode.id scene.nodes delta.nodes
  links := Library.merge TopologyLink.endpoints scene.links delta.links
  nodes_nodup := nodup_merge TopologyNode.id scene.nodes_nodup delta.nodes
  links_nodup := nodup_merge TopologyLink.endpoints scene.links_nodup delta.links

/-- The two loops of `apply_delta` do not meet. -/
theorem foldl_upserts (scene delta : TopologyScene) :
    delta.links.foldl upsertLink (delta.nodes.foldl upsertNode scene) = scene.merge delta := by
  refine ext_lists ?_ ?_
  · rw [(foldl_upsertLink ..).2, (foldl_upsertNode ..).1]
    rfl
  · rw [(foldl_upsertLink ..).1, (foldl_upsertNode ..).2]
    rfl

/-- **The scene afterwards is the merge.** -/
theorem deltaApplied_eq {scene delta : TopologyScene} {bytes : List UInt8}
    (h : parseSnapshot bytes = some delta) :
    scene.deltaApplied bytes = (true, scene.merge delta) := by
  rw [deltaApplied, applyDelta, h, ← foldl_upserts]

theorem findNode_merge (scene delta : TopologyScene) (id : UInt32) :
    (scene.merge delta).findNode id = (delta.findNode id).or (scene.findNode id) :=
  find?_merge TopologyNode.id scene.nodes delta.nodes_nodup id

theorem findLink_merge (scene delta : TopologyScene) (endpoints : UInt32 × UInt32) :
    (scene.merge delta).findLink endpoints =
      (delta.findLink endpoints).or (scene.findLink endpoints) :=
  find?_merge TopologyLink.endpoints scene.links delta.links_nodup endpoints

theorem merge_merge (scene delta : TopologyScene) :
    (scene.merge delta).merge delta = scene.merge delta :=
  ext_lists (Library.merge_merge TopologyNode.id scene.nodes_nodup delta.nodes_nodup)
    (Library.merge_merge TopologyLink.endpoints scene.links_nodup delta.links_nodup)

theorem merge_of_sameShape {scene delta : TopologyScene} (hshape : SameShape scene delta) :
    scene.merge delta = delta :=
  ext_lists (foldl_upsert_of_keys_eq TopologyNode.id hshape.nodes scene.nodes_nodup)
    (foldl_upsert_of_keys_eq TopologyLink.endpoints hshape.links scene.links_nodup)

/-- **A delta is an atomic merge.** Bytes that do not parse change nothing. Others give, with
the scene `delta` that they parse to, the record of `delta` for every key that it has and the
old one for the rest; the old keys keep their order and the new ones follow in theirs; the
same bytes once more change nothing; and a `delta` of the same shape replaces the scene. -/
theorem delta_merge (scene : TopologyScene) (bytes : List UInt8) :
    (parseSnapshot bytes = none → scene.deltaApplied bytes = (false, scene)) ∧
    ∀ delta, parseSnapshot bytes = some delta →
      ∃ after, scene.deltaApplied bytes = (true, after) ∧
        (∀ id, after.findNode id = (delta.findNode id).or (scene.findNode id)) ∧
        (∀ endpoints,
          after.findLink endpoints = (delta.findLink endpoints).or (scene.findLink endpoints)) ∧
        after.nodes.map TopologyNode.id = scene.nodes.map TopologyNode.id ++
          (delta.nodes.map TopologyNode.id).filter (fun id => id ∉ scene.nodes.map TopologyNode.id) ∧
        after.links.map TopologyLink.endpoints = scene.links.map TopologyLink.endpoints ++
          (delta.links.map TopologyLink.endpoints).filter
            (fun endpoints => endpoints ∉ scene.links.map TopologyLink.endpoints) ∧
        after.deltaApplied bytes = (true, after) ∧
        (SameShape scene delta → after = delta) := by
  constructor
  · intro hparse
    rw [deltaApplied, applyDelta, hparse]
  · intro delta hparse
    refine ⟨scene.merge delta, deltaApplied_eq hparse, findNode_merge scene delta,
      findLink_merge scene delta, ?_, ?_, ?_, merge_of_sameShape⟩
    · exact map_merge TopologyNode.id scene.nodes delta.nodes_nodup
    · -- up to the decision whether a pair is in a list
      convert map_merge TopologyLink.endpoints scene.links delta.links_nodup
      rfl
    · rw [deltaApplied_eq hparse, merge_merge]

end TopologyScene

end SiliconSwitch.Visualization
