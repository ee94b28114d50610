import Faucet.Stack.PortTowards

/-!
# The way of a tunnel

Each datapath works out by itself whether it is on the way of a tunnel, and which of its
ports leads on. It takes the shortest path from the source for the first, and its own
shortest path for the second. The paths are the least ones of the shortest, so the second
is the rest of the first, and a packet that follows the ports is at each datapath of the
source's path once, in order, and leaves at the destination (`isTunnelled`).
-/

set_option autoImplicit false

namespace Faucet.Stack

/-- A tunnel from a datapath to a port of another. -/
structure Tunnel (Dp : Type) where
  srcDp : Dp
  dstDp : Dp
  dstPort : Nat

namespace Topology

variable {Dp : Type} [LinearOrder Dp] (topology : Topology Dp) (tunnel : Tunnel Dp)

/-! ## The output ports -/

/-- `tunnel_outport`, of the datapath `self`. -/
def tunnelOutport (self : Dp) : Option Nat :=
  if !topology.isInPath self tunnel.srcDp tunnel.dstDp then none
  else if self = tunnel.dstDp then some tunnel.dstPort
  else (topology.defaultPortTowards self tunnel.dstDp).map (·.number)

/-- The datapath at the other end of the link that the packet is output to. -/
def tunnelHop (self : Dp) : Option Dp :=
  (topology.tunnelOutport tunnel self).bind fun number =>
    ((topology.stackPorts self).find? (·.number = number)).map (·.peerDp)

/-- The datapaths that a packet visits in some hops, up to the destination. -/
def tunnelDps : Nat → Dp → List Dp
  | 0, dp => [dp]
  | hops + 1, dp =>
      if dp = tunnel.dstDp then [dp]
      else match topology.tunnelHop tunnel dp with
        | none => [dp]
        | some next => dp :: tunnelDps hops next

/-- The shortest path of the source. -/
def tunnelPath : List Dp := topology.shortestPath tunnel.dstDp tunnel.srcDp

/-- **The tunnel works**: one copy of a packet goes along the shortest path and leaves by
the port of the tunnel. -/
structure IsTunnelled : Prop where
  shortest : IsShortestPath (Linked topology.stackPorts) tunnel.srcDp tunnel.dstDp
    (topology.tunnelPath tunnel)
  once : (topology.tunnelPath tunnel).Nodup
  visits : ∀ hops, topology.tunnelDps tunnel hops tunnel.srcDp =
    (topology.tunnelPath tunnel).take (hops + 1)
  onward : ∀ dp ∈ topology.tunnelPath tunnel, dp ≠ tunnel.dstDp →
    ∃ port ∈ topology.stackPorts dp, topology.tunnelOutport tunnel dp = some port.number
  arrives : topology.tunnelOutport tunnel tunnel.dstDp = some tunnel.dstPort
  elsewhere : ∀ dp, dp ∉ topology.tunnelPath tunnel → topology.tunnelOutport tunnel dp = none

/-! ## Paths to any datapath -/

variable {topology tunnel}

theorem exists_path (src dst : Dp) : ∃ path, IsPath (Linked topology.stackPorts) src dst path := by
  obtain ⟨up, toRoot⟩ := topology.connected src
  obtain ⟨other, fromDst⟩ := topology.connected dst
  obtain ⟨down, fromRoot⟩ := fromDst.exists_symm fun _ _ => topology.linked_symm
  exact toRoot.exists_trans fromRoot

variable (topology)

/-- The stack with another root. -/
def rootedAt (dst : Dp) : Topology Dp :=
  { topology with
    root := dst
    connected := fun src => exists_path src dst }

/-- The shortest paths to a datapath. -/
def pathsTo (dst : Dp) : LeastPaths (Linked topology.stackPorts) dst := (topology.rootedAt dst).paths

variable {topology}

theorem path_pathsTo (src dst : Dp) :
    (topology.pathsTo dst).path src = topology.shortestPath dst src := rfl

theorem mem_tunnelPath {dp : Dp} : dp ∈ topology.tunnelPath tunnel ↔
    topology.isInPath dp tunnel.srcDp tunnel.dstDp = true := by
  rw [isInPath, List.contains_iff_mem]
  rfl

/-! ## One hop -/

/-- The port towards a datapath leads to the next one on the path. -/
theorem exists_defaultPortTowards {dp dst : Dp} (different : dp ≠ dst) :
    ∃ port ∈ topology.stackPorts dp, topology.defaultPortTowards dp dst = some port ∧
      port.peerDp = (topology.pathsTo dst).parent dp := by
  obtain ⟨⟨link, member, toParent⟩, path⟩ := (topology.pathsTo dst).path_eq different
  obtain ⟨rest, starts⟩ :=
    ((topology.pathsTo dst).isLeast ((topology.pathsTo dst).parent dp)).isShortest.isPath.eq_cons
  rw [starts, path_pathsTo] at path
  have listed : link ∈ topology.peerUpPorts dp ((topology.pathsTo dst).parent dp) :=
    mem_canonicalUpPorts.mpr (List.mem_filter.mpr ⟨member, decide_eq_true toParent⟩)
  obtain ⟨port, others, ports⟩ := List.exists_cons_of_ne_nil (List.ne_nil_of_mem listed)
  have chosen : port ∈ topology.peerUpPorts dp ((topology.pathsTo dst).parent dp) := by
    rw [ports]
    exact List.mem_cons_self
  obtain ⟨inPorts, toParent'⟩ := List.mem_filter.mp (mem_canonicalUpPorts.mp chosen)
  refine ⟨port, inPorts, ?_, of_decide_eq_true toParent'⟩
  rw [defaultPortTowards, shortestPathPort, path]
  dsimp only
  rw [ports, List.head?_cons]

/-- On the path a datapath outputs to the link to the next one. -/
theorem exists_tunnelOutport {dp : Dp} (onPath : dp ∈ topology.tunnelPath tunnel)
    (different : dp ≠ tunnel.dstDp) : ∃ port ∈ topology.stackPorts dp,
      topology.tunnelOutport tunnel dp = some port.number ∧
        port.peerDp = (topology.pathsTo tunnel.dstDp).parent dp := by
  obtain ⟨port, member, chosen, toNext⟩ := exists_defaultPortTowards different
  refine ⟨port, member, ?_, toNext⟩
  rw [tunnelOutport, mem_tunnelPath.mp onPath, if_neg (by simp), if_neg different, chosen,
    Option.map_some]

theorem tunnelHop_of_mem {dp : Dp} (onPath : dp ∈ topology.tunnelPath tunnel)
    (different : dp ≠ tunnel.dstDp) :
    topology.tunnelHop tunnel dp = some ((topology.pathsTo tunnel.dstDp).parent dp) := by
  obtain ⟨port, member, output, toNext⟩ := exists_tunnelOutport onPath different
  have found : ∃ link, (topology.stackPorts dp).find? (·.number = port.number) = some link :=
    Option.isSome_iff_exists.mp (List.find?_isSome.mpr ⟨port, member, decide_eq_true rfl⟩)
  obtain ⟨link, found⟩ := found
  have same : link.number = port.number := by simpa using List.find?_some found
  rw [tunnelHop, output, Option.bind_some, found, Option.map_some,
    port_ext (List.mem_of_find?_eq_some found) member same, toNext]

/-! ## The whole way -/

/-- The next datapath on the path is on it too. -/
theorem parent_mem_tunnelPath {dp : Dp} (onPath : dp ∈ topology.tunnelPath tunnel)
    (different : dp ≠ tunnel.dstDp) :
    (topology.pathsTo tunnel.dstDp).parent dp ∈ topology.tunnelPath tunnel := by
  have above := (topology.pathsTo tunnel.dstDp).above_iff.mpr onPath
  have next : (topology.pathsTo tunnel.dstDp).tree.Above
      ((topology.pathsTo tunnel.dstDp).parent dp) dp := .step different .refl
  exact (topology.pathsTo tunnel.dstDp).above_iff.mp (next.trans above)

/-- From a datapath on the path the packet takes the datapath's own path. -/
theorem tunnelDps_of_mem (hops : Nat) {dp : Dp} (onPath : dp ∈ topology.tunnelPath tunnel) :
    topology.tunnelDps tunnel hops dp =
      ((topology.pathsTo tunnel.dstDp).path dp).take (hops + 1) := by
  induction hops generalizing dp with
  | zero =>
      obtain ⟨rest, starts⟩ :=
        ((topology.pathsTo tunnel.dstDp).isLeast dp).isShortest.isPath.eq_cons
      rw [starts]
      rfl
  | succ hops ih =>
      rw [tunnelDps]
      by_cases same : dp = tunnel.dstDp
      · rw [if_pos same, same, LeastPaths.path_root]
        rfl
      · rw [if_neg same, tunnelHop_of_mem onPath same,
          ((topology.pathsTo tunnel.dstDp).path_eq same).2, List.take_succ_cons]
        dsimp only
        rw [ih (parent_mem_tunnelPath onPath same)]

/-- **A tunnel works** in every stack whose links are all up. -/
theorem isTunnelled (topology : Topology Dp) (tunnel : Tunnel Dp) : topology.IsTunnelled tunnel := by
  have isLeast := (topology.pathsTo tunnel.dstDp).isLeast tunnel.srcDp
  have source : tunnel.srcDp ∈ topology.tunnelPath tunnel :=
    (topology.pathsTo tunnel.dstDp).above_iff.mp .refl
  have destination : tunnel.dstDp ∈ topology.tunnelPath tunnel :=
    (topology.pathsTo tunnel.dstDp).above_iff.mp
      ((topology.pathsTo tunnel.dstDp).tree.above_root tunnel.srcDp)
  refine ⟨isLeast.isShortest, (topology.pathsTo tunnel.dstDp).nodup_path tunnel.srcDp,
    fun hops => tunnelDps_of_mem hops source, ?_, ?_, ?_⟩
  · intro dp onPath different
    obtain ⟨port, member, output, _⟩ := exists_tunnelOutport onPath different
    exact ⟨port, member, output⟩
  · rw [tunnelOutport, mem_tunnelPath.mp destination, if_neg (by simp), if_pos rfl]
  · intro dp offPath
    rw [mem_tunnelPath] at offPath
    rw [tunnelOutport, if_pos (by simpa using offPath)]

end Topology

end Faucet.Stack
