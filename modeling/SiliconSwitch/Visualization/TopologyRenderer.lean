import SiliconSwitch.Visualization.DeltaMerge

/-!
# Frames of a scene

`TopologyRenderer::build_frame`. A link is drawn if both of its ends are nodes of the scene,
and left out otherwise: a snapshot from the network may well name an end that it does not
describe. The colour of what is up is floating-point arithmetic, and a parameter.

* `length_buildFrame` — a vertex for each node, two for each link between nodes.
-/

namespace SiliconSwitch.Visualization

open SiliconSwitch.Library

structure Colour where
  red : FloatBits
  green : FloatBits
  blue : FloatBits
deriving DecidableEq

/-- The colour of what is up, by the VLAN modulo seven and the packets. -/
abbrev Palette : Type := UInt16 → UInt64 → Colour

structure RenderVertex where
  x : FloatBits
  y : FloatBits
  colour : Colour
deriving DecidableEq

structure TopologyFrame where
  links : List RenderVertex
  nodes : List RenderVertex
deriving DecidableEq

/-- The bits of 0.85, 0.15 and 0.15. -/
def failureColour : Colour := ⟨0x3F59999A, 0x3E19999A, 0x3E19999A⟩

def vertex (palette : Palette) (node : TopologyNode) (operational : Bool) (packets : UInt64) :
    RenderVertex :=
  if ¬ operational then ⟨node.x, node.y, failureColour⟩
  else ⟨node.x, node.y, palette (node.vlan % 7) packets⟩

namespace TopologyScene

/-- Both ends of a link are nodes of the scene. -/
def connects (scene : TopologyScene) (link : TopologyLink) : Bool :=
  (scene.findNode link.source).isSome && (scene.findNode link.destination).isSome

end TopologyScene

namespace TopologyRenderer

/-- One turn of the loop over the links: the vertices that it adds. -/
def linkVertices (palette : Palette) (scene : TopologyScene) (link : TopologyLink) :
    List RenderVertex :=
  match scene.findNode link.source, scene.findNode link.destination with
  | some source, some destination =>
    [vertex palette source link.operational link.packets,
     vertex palette destination link.operational link.packets]
  | _, _ => []

def buildFrame (palette : Palette) (scene : TopologyScene) : TopologyFrame where
  links := scene.links.flatMap (linkVertices palette scene)
  nodes := scene.nodes.map fun node => vertex palette node node.operational node.packets

variable {palette : Palette} {scene : TopologyScene}

theorem linkVertices_of_found {link : TopologyLink} {source destination : TopologyNode}
    (hsource : scene.findNode link.source = some source)
    (hdestination : scene.findNode link.destination = some destination) :
    linkVertices palette scene link =
      [vertex palette source link.operational link.packets,
       vertex palette destination link.operational link.packets] := by
  rw [linkVertices, hsource, hdestination]

theorem length_linkVertices (link : TopologyLink) :
    (linkVertices palette scene link).length = if scene.connects link then 2 else 0 := by
  rw [TopologyScene.connects, linkVertices]
  cases scene.findNode link.source with
  | none => rfl
  | some source =>
    cases scene.findNode link.destination with
    | none => rfl
    | some destination => rfl

/-- **A frame has a vertex for each node and two for each link between nodes**, and none for
the links that dangle. -/
theorem length_buildFrame (palette : Palette) (scene : TopologyScene) :
    (buildFrame palette scene).nodes.length = scene.nodes.length ∧
      (buildFrame palette scene).links.length = 2 * scene.links.countP scene.connects := by
  refine ⟨List.length_map .., ?_⟩
  show (scene.links.flatMap (linkVertices palette scene)).length = _
  generalize scene.links = links
  induction links with
  | nil => rfl
  | cons link rest ih =>
    rw [List.flatMap_cons, List.length_append, ih, length_linkVertices, List.countP_cons]
    split <;> omega

end TopologyRenderer

/-- The node with an identifier of the scene, which is the only one. -/
theorem TopologyScene.findNode_of_mem {scene : TopologyScene} {node : TopologyNode}
    (h : node ∈ scene.nodes) : scene.findNode node.id = some node :=
  (find?_eq_some_of_nodup TopologyNode.id scene.nodes_nodup).mpr ⟨h, rfl⟩

end SiliconSwitch.Visualization
