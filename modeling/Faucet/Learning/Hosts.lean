import Faucet.Egress.Metadata
import Faucet.Library.ReverseIndex
import Faucet.Library.TransitionSystem

/-!
# Learning hosts

A packet from a host that the switch does not know, or has to refresh, comes to the
controller. `learnHostOnVlanPorts` makes four checks in turn, each of which may end the
learning: the host is cached on a port that learns for good, it has been cached a short
while ago, loop protection bans it, and at last its rules are made. The rules go to the
switch, and the port to the cache of the VLAN, when the checks say so.
-/

set_option autoImplicit false

namespace Faucet.Learning

open OpenFlow
open Egress (getEgressMetadata egressMetadataMask)
open Flooding (Vid ofppInPort popVlan setExternalForwardingRequested
  setNoExternalForwardingRequested)

/-- A MAC address, as a number. -/
abbrev Mac := ℕ

/-- The time of the controller, in seconds. -/
abbrev Time := ℚ

/-! ## Ports, VLANs and datapaths -/

/-- A port, in a status that lasts. -/
structure Port where
  number : PortNo
  nativeVlan : Option Vid
  dynDot1xNativeVlan : Option Vid
  taggedVlans : List Vid
  mirror : List PortNo
  /-- The LAG, or 0. -/
  lacp : ℕ
  /-- The port is selected in its LAG and up; `disable_forwarding` drops the packets of
  the other ports of a LAG. -/
  forwards : Bool
  permanentLearn : Bool
  loopProtect : Bool
  loopProtectExternal : Bool
  hairpin : Bool
  hairpinUnicast : Bool
  maxHosts : ℕ
  /-- When the port last changed its status. -/
  dynUpdateTime : Option Time
deriving DecidableEq

namespace Port

variable (port : Port)

/-- `Port.vlans` -/
def vlans : List Vid :=
  port.nativeVlan.toList ++ port.dynDot1xNativeVlan.toList ++ port.taggedVlans

/-- `port_is_untagged` of the VLAN. -/
def isUntagged (vid : Vid) : Bool :=
  (port.nativeVlan = some vid ∧ port.dynDot1xNativeVlan = none) ∨
    port.dynDot1xNativeVlan = some vid

/-- `Port.mirror_actions` -/
def mirrorActions : List Act := port.mirror.map .output

/-- Packets may go back where they came from. -/
def hairpinning : Bool := port.hairpin || port.hairpinUnicast

/-- The port is in a LAG, and the other one is in the same LAG. -/
def sameLag (other : Port) : Bool := port.lacp ≠ 0 ∧ port.lacp = other.lacp

end Port

/-- A VLAN with its limit. -/
structure Vlan where
  vid : Vid
  maxHosts : ℕ
  /-- When hosts last expired. -/
  dynLastTimeHostsExpired : Option Time
deriving DecidableEq

/-- What host learning reads of a datapath. -/
structure Dp where
  ports : List Port
  vlans : List Vlan
  learnTimeout : ℕ
  learnJitter : ℕ
  learnBanTimeout : ℕ
  cacheUpdateGuardTime : ℕ
  idleDst : Bool
  useIdleTimeout : Bool
  dynLastColdstartTime : Option Time
  /-- The built-in function on the MAC address. -/
  hash : Mac → ℤ
  ethSrcTable : Fin 255
  ethDstTable : Fin 255
  ethDstHairpinTable : Option (Fin 255)
  /-- The classification table, when it is used. -/
  classification : Option (Fin 255)
  /-- The table after the metadata of a host has been written: the egress ACL table if
  there is one, or the egress table of the egress pipeline. -/
  egressTable : Option (Fin 255)
  flowCookie : ℕ
  useBarriers : Bool
  portNumbers : (ports.map (·.number)).Nodup
  srcApart : ethSrcTable ≠ ethDstTable ∧ ethDstHairpinTable ≠ some ethSrcTable
  dstApart : ethDstHairpinTable ≠ some ethDstTable
  /-- A hairpin port brings the table along. -/
  hairpins : ∀ port ∈ ports, port.hairpinning = true → ethDstHairpinTable ≠ none

theorem tables_apart : (1 : Fin 255) ≠ 2 ∧ (none : Option (Fin 255)) ≠ some 1 := by decide

theorem noHairpin_apart : (none : Option (Fin 255)) ≠ some 2 := by decide

/-! ## Fields and priorities -/

/-- `in_port` -/
def inPort (port : PortNo) : OxmField := ⟨0, port, none⟩

/-- `eth_dst` -/
def ethDst (mac : Mac) : OxmField := ⟨3, mac, none⟩

/-- `eth_src` -/
def ethSrc (mac : Mac) : OxmField := ⟨4, mac, none⟩
/-- With `OFPVID_PRESENT`. -/
def vlanVid (vid : Vid) : OxmField := ⟨6, vid + 0x1000, none⟩

/-- `vlan_pcp` -/
def vlanPcp (pcp : ℕ) : OxmField := ⟨7, pcp, none⟩

/-- `PCP_EXT_PORT_FLAG`. -/
def pcpExtPortFlag : ℕ := 2
/-- `PCP_NONEXT_PORT_FLAG`. -/
def pcpNonextPortFlag : ℕ := 0

/-- `_LOW_PRIORITY`. -/
def lowPriority : ℕ := 0x1000
/-- `_MATCH_PRIORITY`. -/
def hostPriority : ℕ := 0x2000
/-- `_FILTER_PRIORITY`. -/
def filterPriority : ℕ := 0x5000

/-- The match of the source rule of a host. -/
def srcMatch (portNum : PortNo) (vid : Vid) (mac : Mac) : Match :=
  .ofFields [inPort portNum, vlanVid vid, ethSrc mac]

/-- The match of the destination table, with the field for external ports if there are any. -/
def dstMatch (vid : Vid) (mac : Mac) (pcp : Option ℕ) : Match :=
  .ofFields ([vlanVid vid, ethDst mac] ++ pcp.toList.map vlanPcp)

/-- The match of the hairpin rule of a host. -/
def hairpinMatch (portNum : PortNo) (vid : Vid) (mac : Mac) : Match :=
  .ofFields [inPort portNum, vlanVid vid, ethDst mac]

/-! ## The host cache of a VLAN -/

/-- `HostCacheEntry` -/
structure HostCacheEntry where
  ethSrc : Mac
  port : Port
  cacheTime : Time
deriving DecidableEq

/-- The cache, and its entries by the number of their port; two entries there are the same
when their MAC addresses are. -/
structure HostCache where
  hosts : List HostCacheEntry
  byPort : PortNo → List Mac

namespace HostCache

variable (cache : HostCache)

/-- No host is cached. -/
def empty : HostCache := ⟨[], fun _ => []⟩

/-- `cached_host` -/
def cachedHost (ethSrc : Mac) : Option HostCacheEntry :=
  cache.hosts.find? (·.ethSrc = ethSrc)

/-- The entry that the host has goes from the set of its port; `none` when it is not there. -/
def removeExisting (ethSrc : Mac) : Option (PortNo → List Mac) :=
  match cache.cachedHost ethSrc with
  | none => some cache.byPort
  | some existing =>
      if ethSrc ∈ cache.byPort existing.port.number then
        some (Function.update cache.byPort existing.port.number
          ((cache.byPort existing.port.number).erase ethSrc))
      else none

/-- `add_cache_host`; `none` when it raises. -/
def addCacheHost (ethSrc : Mac) (port : Port) (cacheTime : Time) : Option HostCache :=
  (cache.removeExisting ethSrc).map fun byPort =>
    { hosts := OrderedDict.assign (·.ethSrc) cache.hosts ⟨ethSrc, port, cacheTime⟩
      byPort := Function.update byPort port.number ((byPort port.number).insert ethSrc) }

end HostCache

/-! ## Messages -/

/-- The value of the metadata and its mask, written before the packet goes on. -/
def metadataGotoTable (metadata mask : ℕ) (table : Fin 255) : List Instruction :=
  -- 2 is the type of the instruction, and the mask has 64 bits
  [.other ((metadata * 2 ^ 64 + mask) * 2 ^ 8 + 2), .gotoTable table]

/-- `output_port` of the VLAN. -/
def outputPort (vid : Vid) (port : Port) (hairpin : Bool)
    (externalForwardingRequested : Option Bool) : List Act :=
  (if port.isUntagged vid then
    -- The mirror port gets the packet as the host sees it.
    popVlan :: port.mirrorActions
  else
    port.mirrorActions ++ (externalForwardingRequested.map fun requested =>
      if requested then setExternalForwardingRequested
      else setNoExternalForwardingRequested).toList) ++
    [.output (if hairpin then ofppInPort else port.number)]

/-- The checks of a packet hand this on to each other. -/
structure Verdict where
  learnExit : Bool
  ofmsgs : List FlowMod
  updateCache : Bool
  deleteExisting : Bool
  refreshRules : Bool
  /-- `dyn_last_ban_time` of the port. -/
  lastBanTime : Option Time

/-- A check is made when none before it has ended the learning. -/
def Verdict.andThen (verdict : Verdict) (check : Verdict → Verdict) : Verdict :=
  if verdict.learnExit then verdict else check verdict

namespace Dp

variable (dp : Dp)

/-- `has_externals` -/
def hasExternals : Bool := dp.ports.any (·.loopProtectExternal)

/-- The first output table. -/
def outputTable : Fin 255 := dp.ethDstHairpinTable.getD dp.ethDstTable

/-- `classification_table` -/
def classificationTable : Fin 255 := dp.classification.getD dp.ethSrcTable

/-- `OFPFF_SEND_FLOW_REM`, with idle timeouts. -/
def flags : ℕ := if dp.useIdleTimeout then 1 else 0

/-- `ValveTable.flowmod` -/
def flowmod (table : Fin 255) (fields : Match) (priority : ℕ) (instructions : List Instruction)
    (hardTimeout idleTimeout : ℕ) : FlowMod where
  command := .add
  tableId := table
  priority := priority
  cookie := dp.flowCookie
  outPort := some 0
  matchFields := fields
  instructions := instructions
  hardTimeout := hardTimeout
  idleTimeout := idleTimeout
  flags := dp.flags

/-- `ValveTable.flowdel` -/
def flowdel (table : Fin 255) (fields : Match) : FlowMod where
  command := .delete
  tableId := table
  priority := 0
  cookie := dp.flowCookie
  outPort := none
  matchFields := fields
  instructions := []
  hardTimeout := 0
  idleTimeout := 0
  flags := dp.flags

/-- `ValveTable.flowdrop` -/
def flowdrop (table : Fin 255) (fields : Match) (priority hardTimeout : ℕ) : FlowMod :=
  dp.flowmod table fields priority [] hardTimeout 0

/-- `filter_packets` with a MAC address and a port. -/
def filterPackets (mac : Mac) (portNum : PortNo) : FlowMod :=
  dp.flowdrop dp.classificationTable (.ofFields [ethSrc mac, inPort portNum]) filterPriority 0

/-- `_temp_ban_host_learning` -/
def tempBanHostLearning (fields : Match) : FlowMod :=
  dp.flowdrop dp.ethSrcTable fields (lowPriority + 1) dp.learnBanTimeout

/-- `output` of the pipeline. -/
def output (port : Port) (vid : Vid) (hairpin : Bool) (externalForwardingRequested : Option Bool) :
    List Instruction :=
  match dp.egressTable with
  | some table => metadataGotoTable (getEgressMetadata port.number vid) egressMetadataMask table
  | none => [.applyActions (outputPort vid port hairpin externalForwardingRequested)]

/-- `_external_forwarding_requested` -/
def externalForwardingRequested : Option Bool := if dp.hasExternals then some true else none

/-- `delete_host_from_vlan` -/
def deleteHostFromVlan (mac : Mac) (vid : Vid) : List FlowMod :=
  dp.flowdel dp.ethSrcTable (.ofFields [vlanVid vid, ethSrc mac]) ::
    (dp.ethDstTable :: dp.ethDstHairpinTable.toList).map fun table =>
      dp.flowdel table (.ofFields [vlanVid vid, ethDst mac])

/-- `_jitter_learn_timeout` -/
def jitterLearnTimeout (port : Port) (mac : Mac) : ℕ :=
  if port.permanentLearn ∨ dp.learnTimeout = 0 then 0
  else
    let jitter := (dp.hash mac).emod dp.learnJitter
    max ((dp.learnTimeout : ℤ) - dp.learnJitter + jitter).natAbs dp.cacheUpdateGuardTime

/-- The idle and the hard timeout of the source rule, and the idle timeout of the
destination rule. -/
def learnHostTimeouts (port : Port) (mac : Mac) : ℕ × ℕ × ℕ :=
  let learnTimeout := dp.jitterLearnTimeout port mac
  if dp.useIdleTimeout then (learnTimeout, 0, learnTimeout + dp.cacheUpdateGuardTime)
  else
    (0, learnTimeout, if dp.idleDst then learnTimeout + dp.cacheUpdateGuardTime else 0)

/-- The source rule of a host. -/
def srcFlowmod (port : Port) (vid : Vid) (mac : Mac) : FlowMod :=
  let (srcIdle, srcHard, _) := dp.learnHostTimeouts port mac
  dp.flowmod dp.ethSrcTable (srcMatch port.number vid mac) (hostPriority - 1)
    [.gotoTable dp.outputTable] srcHard srcIdle

/-- The destination rule of a host. -/
def dstFlowmod (port : Port) (vid : Vid) (mac : Mac) (pcp : Option ℕ) : FlowMod :=
  let (_, _, dstIdle) := dp.learnHostTimeouts port mac
  dp.flowmod dp.ethDstTable (dstMatch vid mac pcp) hostPriority
    (dp.output port vid false dp.externalForwardingRequested) 0 dstIdle

/-- The hairpin rule of a host. -/
def hairpinFlowmod (table : Fin 255) (port : Port) (vid : Vid) (mac : Mac) : FlowMod :=
  let (_, _, dstIdle) := dp.learnHostTimeouts port mac
  dp.flowmod table (hairpinMatch port.number vid mac) hostPriority
    (dp.output port vid true none) 0 dstIdle

/-- `learn_host_on_vlan_port_flows` -/
def learnHostOnVlanPortFlows (port : Port) (vid : Vid) (mac : Mac)
    (deleteExisting refreshRules : Bool) : List FlowMod :=
  (if deleteExisting then dp.deleteHostFromVlan mac vid else []) ++
    [dp.srcFlowmod port vid mac] ++
    if refreshRules && !port.hairpinning then []
    else
      [dp.dstFlowmod port vid mac (if dp.hasExternals then some pcpExtPortFlag else none)] ++
        (if dp.hasExternals && !port.loopProtectExternal then
          [dp.dstFlowmod port vid mac (some pcpNonextPortFlag)] else []) ++
        if port.hairpinning then
          dp.ethDstHairpinTable.toList.map fun table => dp.hairpinFlowmod table port vid mac
        else []

/-! ## The checks -/

/-- `_perm_learn_check` -/
def permLearnCheck (entry : Option HostCacheEntry) (mac : Mac) (port : Port)
    (verdict : Verdict) : Verdict :=
  match entry with
  | some entry =>
      if entry.port.permanentLearn then
        { verdict with
          learnExit := true
          updateCache := false
          ofmsgs := verdict.ofmsgs ++
            if entry.port ≠ port then [dp.filterPackets mac port.number] else [] }
      else { verdict with learnExit := false, updateCache := true }
  | none => { verdict with learnExit := false, updateCache := true }

/-- The port has not changed its status since the host was cached. -/
def portCacheValid (entry : HostCacheEntry) (port : Port) : Bool :=
  port.dynUpdateTime.any (· ≤ entry.cacheTime)

/-- `_learn_cache_check` -/
def learnCacheCheck (entry : Option HostCacheEntry) (now : Time) (port : Port)
    (verdict : Verdict) : Verdict :=
  match entry with
  | some entry =>
      if entry.port = port ∨ port.sameLag entry.port then
        -- LAGs are learned again early.
        let guardTime : ℚ := if port.sameLag entry.port then 2 else dp.cacheUpdateGuardTime
        if now - entry.cacheTime < guardTime ∧ portCacheValid entry port then
          { verdict with learnExit := true, updateCache := false }
        else
          { verdict with
            learnExit := false
            updateCache := true
            deleteExisting := false
            refreshRules := verdict.refreshRules || portCacheValid entry port }
      else { verdict with learnExit := false, updateCache := true }
  | none => { verdict with learnExit := false, updateCache := true }

/-- The port still gets packets a short while after a ban, or the host has moved quickly. -/
def learnBan (entry : Option HostCacheEntry) (now : Time) (port : Port)
    (lastBanTime : Option Time) : Bool :=
  port.loopProtect &&
    (lastBanTime.any (fun time => time ≠ 0 ∧ now - time < dp.cacheUpdateGuardTime) ||
      entry.any fun entry => port ≠ entry.port ∧ now - entry.cacheTime < dp.cacheUpdateGuardTime)

/-- `_loop_protect_check` -/
def loopProtectCheck (entry : Option HostCacheEntry) (now : Time) (port : Port)
    (verdict : Verdict) : Verdict :=
  if dp.learnBan entry now port verdict.lastBanTime then
    { verdict with
      learnExit := true
      updateCache := true
      lastBanTime := some now
      ofmsgs := verdict.ofmsgs ++
        [dp.tempBanHostLearning (.ofFields [inPort port.number])] }
  else { verdict with learnExit := false, updateCache := true }

/-- `_learn_check` -/
def learnCheck (vid : Vid) (mac : Mac) (port : Port) (verdict : Verdict) : Verdict :=
  { verdict with
    learnExit := true
    updateCache := true
    ofmsgs := verdict.ofmsgs ++
      dp.learnHostOnVlanPortFlows port vid mac verdict.deleteExisting verdict.refreshRules }

/-- Rules of a host that is not cached are deleted when hosts have expired since the
start. -/
def deletesExisting (entry : Option HostCacheEntry) (vlan : Vlan) : Bool :=
  !(entry = none ∧ dp.dynLastColdstartTime.any fun started => started ≠ 0 ∧
    vlan.dynLastTimeHostsExpired.all (· < started))

/-- The checks before loop protection. -/
def learnedBefore (entry : Option HostCacheEntry) (lastBanTime : Option Time) (now : Time)
    (port : Port) (vlan : Vlan) (mac : Mac) : Verdict :=
  let start : Verdict := ⟨false, [], true, dp.deletesExisting entry vlan, false, lastBanTime⟩
  Verdict.andThen (Verdict.andThen start (dp.permLearnCheck entry mac port))
    (dp.learnCacheCheck entry now port)

/-- `learn_host_on_vlan_ports` -/
def learnHostOnVlanPorts (entry : Option HostCacheEntry) (lastBanTime : Option Time) (now : Time)
    (port : Port) (vlan : Vlan) (mac : Mac) : Verdict :=
  Verdict.andThen (Verdict.andThen (dp.learnedBefore entry lastBanTime now port vlan mac)
    (dp.loopProtectCheck entry now port)) (dp.learnCheck vlan.vid mac port)

end Dp

/-! ## Packets -/

/-- The caches of the VLANs and the rules of the switch. -/
structure State where
  caches : Vid → HostCache
  /-- `dyn_last_ban_time` of the ports. -/
  lastBanTime : PortNo → Option Time
  switch : Switch

namespace State

variable (state : State)

/-- The host in the cache of a VLAN. -/
def cachedHost (vid : Vid) (mac : Mac) : Option HostCacheEntry :=
  (state.caches vid).cachedHost mac

/-- `hosts_count` of the port. -/
def hostsCount (port : Port) : ℕ :=
  (port.vlans.map fun vid => ((state.caches vid).byPort port.number).length).sum

end State

/-- A message that is not about the flows of the tables of hosts. -/
def Elsewhere (dp : Dp) (ofmsg : Ofmsg) : Prop :=
  ∀ mod, ofmsg = .flowMod mod → mod.tableId ≠ ofpttAll ∧ mod.tableId ≠ dp.ethSrcTable ∧
    mod.tableId ≠ dp.ethDstTable ∧ ∀ table ∈ dp.ethDstHairpinTable, mod.tableId ≠ table

/-- A packet of a VLAN, with the messages of the route managers for it. -/
structure Packet (dp : Dp) where
  now : Time
  port : Port
  vlan : Vlan
  ethSrc : Mac
  /-- The reason is `OFPR_ACTION`. -/
  toLearn : Bool
  elsewhere : List {ofmsg : Ofmsg // Elsewhere dp ofmsg}
  shuffle : Shuffle

namespace Dp

variable (dp : Dp)

/-- `ban_rules` -/
def banRules (state : State) (port : Port) (vlan : Vlan) (mac : Mac) : List FlowMod :=
  if state.cachedHost vlan.vid mac = none then
    (if port.maxHosts ≠ 0 ∧ state.hostsCount port = port.maxHosts then
      [dp.tempBanHostLearning (.ofFields [inPort port.number])] else []) ++
    (if vlan.maxHosts ≠ 0 ∧ (state.caches vlan.vid).hosts.length = vlan.maxHosts then
      [dp.tempBanHostLearning (.ofFields [vlanVid vlan.vid])] else [])
  else []

/-- What the checks say of a packet that is to be learned. -/
def verdict (state : State) (packet : Packet dp) : Verdict :=
  dp.learnHostOnVlanPorts (state.cachedHost packet.vlan.vid packet.ethSrc)
    (state.lastBanTime packet.port.number) packet.now packet.port packet.vlan packet.ethSrc

/-- The caches after `learn_host`. -/
def cachesAfter (state : State) (packet : Packet dp) (updateCache : Bool) :
    Option (Vid → HostCache) :=
  if updateCache then
    ((state.caches packet.vlan.vid).addCacheHost packet.ethSrc packet.port packet.now).map
      (Function.update state.caches packet.vlan.vid)
  else some state.caches

/-- `_vlan_rcv_packet`; `none` when it raises, and for a packet that no port lets in. -/
def step (state : State) (packet : Packet dp) : Option State := do
  guard (packet.port ∈ dp.ports ∧ packet.vlan ∈ dp.vlans ∧
    (packet.port.lacp ≠ 0 → packet.port.forwards = true))
  let banRules := dp.banRules state packet.port packet.vlan packet.ethSrc
  if banRules ≠ [] then
    let switch ← state.switch.deliver packet.shuffle dp.useBarriers (banRules.map .flowMod)
    some { state with switch }
  else if packet.toLearn then
    let verdict := dp.verdict state packet
    let caches ← dp.cachesAfter state packet verdict.updateCache
    let switch ← state.switch.deliver packet.shuffle dp.useBarriers
      (verdict.ofmsgs.map .flowMod ++ packet.elsewhere.map Subtype.val)
    some
      { caches
        lastBanTime := Function.update state.lastBanTime packet.port.number verdict.lastBanTime
        switch }
  else
    let switch ← state.switch.deliver packet.shuffle dp.useBarriers
      (packet.elsewhere.map Subtype.val)
    some { state with switch }

end Dp

end Faucet.Learning
