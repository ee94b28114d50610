import Faucet.Library.FirstFree
import Faucet.Library.OrderedDict

/-!
# The VLANs of tunnels

An ACL may send packets into a tunnel to a port of another DP or to the DP itself, and
a tunnel has a VLAN. Every DP resolves all tunnel ACLs on its own: first those that its
VLANs, its ports or the DP itself refer to, in the order of the references, then the
others. A tunnel without a VLAN gets a new one, at the first unused VID from a start on
that lies above the configured VLANs and leaves room for the ACLs with lesser names.

A configuration gives all DPs the same VLANs and ACLs. What else is checked when an ACL
is resolved changes no VLAN and is left out.
-/

set_option autoImplicit false

namespace Faucet.Config

/-- A VLAN id. -/
abbrev Vid := ℕ

/-- `valve_of.MIN_VID` -/
def minVid : Vid := 1

/-- `valve_of.MAX_VID` -/
def maxVid : Vid := 4095

/-- Why a configuration is rejected; `max()` of no VLANs is not an `InvalidConfigError`. -/
inductive ConfigError where
  | missingAcl
  | vlanAclTunnel
  | noDestinationDp
  | noDestinationPort
  | destinationStack
  | vlanExists
  | invalidVid
  | vlanNotReserved
  | noTunnelVlan
  | dpAndPortAcls
  | emptyMax
deriving DecidableEq, Repr

/-- A port or a VLAN is given by number or by name. -/
inductive Key where
  | number (number : ℕ)
  | name (name : String)
deriving DecidableEq, Repr

/-- A number that is not 0 or a name that is not empty. -/
def Key.truthy : Option Key → Option Key
  | some (.number 0) => none
  | some (.name "") => none
  | key => key

/-- The output to a tunnel. -/
structure Tunnel where
  dp : String
  port : Option Key
  tunnelId : Option Key
deriving DecidableEq, Repr

/-- The destination of a tunnel: a DP and the number of a port, if there is one. -/
structure Dst where
  dp : String
  port : Option ℕ
deriving DecidableEq, Repr

/-- An ACL by the tunnels of its rules. -/
structure Acl where
  rules : List (List Tunnel)
  dot1xAssigned : Bool
deriving DecidableEq, Repr

namespace Acl

/-- The tunnels of an ACL in the order of its rules. -/
def tunnels (acl : Acl) : List Tunnel := acl.rules.flatten

/-- `get_num_tunnels` -/
def getNumTunnels (acl : Acl) : ℕ := acl.tunnels.length

/-- `is_tunnel_acl` -/
def isTunnelAcl (acl : Acl) : Bool := !acl.tunnels.isEmpty

end Acl

/-- What the allocation of tunnel ids reads of a VLAN. -/
structure Vlan (AclName : Type) where
  vid : Vid
  name : String
  reservedInternalVlan : Bool
  aclsIn : List AclName
  aclsOut : List AclName

/-- What it reads of a port. -/
structure Port (AclName : Type) where
  number : ℕ
  name : String
  /-- The option `stack` is null. -/
  stackIsNone : Bool
  aclsIn : List AclName
  dot1xDynAcl : Bool
  dot1xAcl : Bool

/-- What it reads of a datapath. -/
structure Dp (AclName : Type) where
  name : String
  ports : List (Port AclName)
  authAcl : Option AclName
  noauthAcl : Option AclName
  dpAcls : List AclName

/-- A configuration; ACLs and VLANs are dictionaries. -/
structure TopConf (AclName : Type) where
  dps : List (Dp AclName)
  vlans : List (Vlan AclName)
  acls : List (AclName × Acl)
  aclsNodup : (acls.map Prod.fst).Nodup

/-- What resolving the tunnels of one ACL changes: the VLANs of the DP and the tables
of destinations. -/
structure Tunnels (AclName : Type) where
  vlans : List (Vlan AclName)
  tunnelDstsToVlan : List (Dst × Vid)
  tunnelDests : List (Vid × Dst)

/-- A DP while its ACLs are resolved. -/
structure Resolution (AclName : Type) where
  vlans : List (Vlan AclName)
  portsResolved : List AclName
  tunnelDests : AclName → List (Vid × Dst)

variable {AclName : Type}

namespace Dp

/-- `resolve_port` -/
def resolvePort (dp : Dp AclName) : Key → Option (Port AclName)
  | .number number => dp.ports.find? (·.number = number)
  | .name name => dp.ports.find? (·.name = name)

end Dp

/-- `first_unused_vlan_id` -/
def firstUnusedVlanId (vlans : List (Vlan AclName)) (vid : Vid) : Vid :=
  FirstFree.next (vlans.map (·.vid)) vid

/-- `create_vlan`, for a tunnel. -/
def createVlan (vlans : List (Vlan AclName)) (vid : Vid) : Except ConfigError (List (Vlan AclName)) :=
  if vid ∈ vlans.map (·.vid) then .error .vlanExists
  else if vid < minVid ∨ maxVid < vid then .error .invalidVid
  else .ok (vlans ++ [
    { vid := vid
      name := toString vid
      reservedInternalVlan := true
      aclsIn := []
      aclsOut := [] }])

namespace TopConf

variable (config : TopConf AclName)

/-- `resolve_vlan`: names are those of the configured VLANs. -/
def resolveVlan (vlans : List (Vlan AclName)) : Key → Option (Vlan AclName)
  | .name name => config.vlans.reverse.find? (·.name = name)
  | .number vid => vlans.find? (·.vid = vid)

/-- The destination of a tunnel, as `resolve_tunnel_objects` finds it. -/
def resolveDst (tunnel : Tunnel) : Except ConfigError Dst :=
  match config.dps.reverse.find? (·.name = tunnel.dp) with
  | none => .error .noDestinationDp
  | some dstDp =>
      match Key.truthy tunnel.port with
      | none => .ok ⟨dstDp.name, none⟩
      | some dstPortName =>
          match dstDp.resolvePort dstPortName with
          | none => .error .noDestinationPort
          | some dstPort =>
              if dstPort.stackIsNone then .error .destinationStack
              else .ok ⟨dstDp.name, some dstPort.number⟩

variable [LinearOrder AclName]

/-- Where a new VLAN of an ACL is looked for: above the VLANs that are not reserved and
the tunnels of the ACLs up to this one. -/
def startPos (vlans : List (Vlan AclName)) (aclIn : AclName) : Except ConfigError Vid :=
  match ((vlans.filter (!·.reservedInternalVlan)).map (·.vid)).max? with
  | none => .error .emptyMax
  | some vlanOffset =>
      let orderedAcls := (config.acls.map Prod.fst).insertionSort (· ≤ ·)
      let index := orderedAcls.idxOf aclIn + 1
      let aclTunnels := orderedAcls.map fun name =>
        ((config.acls.lookup name).map Acl.getNumTunnels).getD 0
      .ok (vlanOffset + (aclTunnels.take index).sum)

/-- `get_tunnel_vlan`. The test for two VLANs of one destination compares a VLAN with a
VID and never finds them equal. -/
def getTunnelVlan (aclIn : AclName) (tunnels : Tunnels AclName) (tunnelIdName : Option Key)
    (resolvedDst : Dst) : Except ConfigError (List (Vlan AclName) × Vid) :=
  match Key.truthy tunnelIdName with
  | none =>
      match tunnels.tunnelDstsToVlan.lookup resolvedDst with
      | some tunnelVlan => .ok (tunnels.vlans, tunnelVlan)
      | none => do
          let startPos ← config.startPos tunnels.vlans aclIn
          let tunnelVid := firstUnusedVlanId tunnels.vlans startPos
          let vlans ← createVlan tunnels.vlans tunnelVid
          return (vlans, tunnelVid)
  | some tunnelIdName =>
      match config.resolveVlan tunnels.vlans tunnelIdName with
      | some tunnelVlan =>
          if tunnelVlan.reservedInternalVlan then .ok (tunnels.vlans, tunnelVlan.vid)
          else .error .vlanNotReserved
      | none =>
          match tunnelIdName with
          | .name _ => .error .noTunnelVlan
          | .number vid => do
              let vlans ← createVlan tunnels.vlans vid
              return (vlans, vid)

/-- `resolve_tunnel_objects`, with what the ACL keeps of its result; `vid` is that of the
VLAN that the ACL is applied to. -/
def resolveTunnel (aclIn : AclName) (vid : Option Vid) (tunnels : Tunnels AclName) (tunnel : Tunnel) :
    Except ConfigError (Tunnels AclName) :=
  if vid.isSome then .error .vlanAclTunnel
  else do
    let resolvedDst ← config.resolveDst tunnel
    let (vlans, tunnelVlan) ← config.getTunnelVlan aclIn tunnels tunnel.tunnelId resolvedDst
    return {
      vlans := vlans
      tunnelDstsToVlan := OrderedDict.set tunnels.tunnelDstsToVlan resolvedDst tunnelVlan
      tunnelDests := OrderedDict.set tunnels.tunnelDests tunnelVlan resolvedDst }

/-- `resolve_acl`; an ACL is resolved once. -/
def resolveAcl (resolution : Resolution AclName) (reference : AclName × Option Vid) :
    Except ConfigError (Resolution AclName) :=
  match config.acls.lookup reference.1 with
  | none => .error .missingAcl
  | some acl =>
      if reference.1 ∈ resolution.portsResolved then .ok resolution
      else do
        let tunnels ← acl.tunnels.foldlM (config.resolveTunnel reference.1 reference.2)
          { vlans := resolution.vlans, tunnelDstsToVlan := [], tunnelDests := [] }
        return {
          vlans := tunnels.vlans
          portsResolved := reference.1 :: resolution.portsResolved
          tunnelDests := Function.update resolution.tunnelDests reference.1 tunnels.tunnelDests }

/-! ## The references of a DP -/

/-- The ACLs of the VLANs, with the VLAN of each. -/
def vlanReferences : List (AclName × Option Vid) :=
  config.vlans.flatMap fun vlan => (vlan.aclsIn ++ vlan.aclsOut).map (·, some vlan.vid)

/-- The ACLs of the ports of a datapath, which have no VLAN. -/
def portReferences (dp : Dp AclName) : List (AclName × Option Vid) :=
  dp.ports.flatMap fun port =>
    (port.aclsIn ++
      (if port.dot1xDynAcl then (config.acls.filter (·.2.dot1xAssigned)).map Prod.fst else []) ++
      (if port.dot1xAcl then
        (dp.authAcl.toList ++ dp.noauthAcl.toList).filter fun name => (config.acls.lookup name).isSome
      else [])).map (·, none)

/-- The ACLs with tunnels. -/
def tunnelAcls : List AclName := (config.acls.filter (·.2.isTunnelAcl)).map Prod.fst

/-- All ACLs that a DP resolves, in their order. -/
def references (dp : Dp AclName) : List (AclName × Option Vid) :=
  config.vlanReferences ++ config.portReferences dp ++ dp.dpAcls.map (·, none) ++
    config.tunnelAcls.map (·, none)

/-- Nothing has been resolved. -/
def initial : Resolution AclName where
  vlans := config.vlans
  portsResolved := []
  tunnelDests _ := []

/-- The ACLs are resolved in an order. -/
def resolveReferences (references : List (AclName × Option Vid)) :
    Except ConfigError (Resolution AclName) :=
  references.foldlM config.resolveAcl config.initial

/-- `resolve_acls` -/
def resolveAcls (dp : Dp AclName) : Except ConfigError (Resolution AclName) :=
  if !dp.dpAcls.isEmpty && dp.ports.any (!·.aclsIn.isEmpty) then .error .dpAndPortAcls
  else config.resolveReferences (config.references dp)

end TopConf

end Faucet.Config
