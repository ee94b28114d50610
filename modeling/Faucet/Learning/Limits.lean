import Faucet.Vlan.HostCache

/-!
# Limits on the number of hosts

A port and a VLAN may have a maximum of hosts. `ban_rules` stops a packet of a host that its
VLAN has not cached when the port of the packet, or the VLAN, has exactly its maximum. What is
learned otherwise is not counted: a host that moves to another port, a host that is learned on
another port than that of its packet, and one that the other datapaths of a stack learn along
with it. The limits hold as long as there is room for these (`within_of_reaches`).
-/

set_option autoImplicit false

namespace Faucet.Learning

open OpenFlow (PortNo)
open Flooding (Vid)
open TransitionSystem
open Faucet.Vlan (Hosts HostEvent)

/-! ## Datapaths -/

/-- What manages the switch of a datapath. -/
inductive Manager where
  | standalone
  | stackNoReflection
  | stackReflection
deriving DecidableEq

/-- The datapaths of a controller. -/
structure Network (δ : Type) where
  dps : δ → Dp
  manager : δ → Manager
  /-- The datapath at the other end of a stack port. -/
  peer : δ → PortNo → Option δ
  vids : ∀ dp, ((dps dp).vlans.map (·.vid)).Nodup

/-- The stack, when a packet comes. -/
structure Stacking (δ : Type) where
  /-- `dyn_running`. -/
  running : δ → Bool
  /-- `is_edge` or `is_root`. -/
  edgeOrRoot : δ → Bool
  routeLearning : Bool
  /-- The MAC address is the one of Faucet, for the VLAN or for a datapath. -/
  isFaucetMac : Mac → Bool
  /-- The stacked valves other than that of a datapath, in the order of the set. -/
  stackedOthers : δ → List δ
  nonStackForwarding : δ → Port → Bool
  edgeLearnPortTowards : δ → Vlan → δ → Option Port
  relativePortTowards : δ → δ → Option Port
  apart : ∀ dp, dp ∉ stackedOthers dp

/-- What is known of a packet. -/
structure PacketMeta where
  now : Time
  port : Port
  vlan : Vlan
  ethSrc : Mac
  /-- The reason is `OFPR_ACTION`. -/
  toLearn : Bool

/-- The host caches of the VLANs, and when the ports last banned a host. -/
structure Caches (δ : Type) where
  hosts : δ → Vid → Hosts
  lastBanTime : δ → PortNo → Option Time

namespace Caches

variable {δ : Type} (caches : Caches δ)

/-- No datapath has cached a host. -/
def empty : Caches δ := ⟨fun _ _ => Hosts.empty, fun _ _ => none⟩

/-- The sender of a packet, as the datapath has it cached. -/
def cachedHost (dp : δ) (pktMeta : PacketMeta) : Option HostCacheEntry :=
  (caches.hosts dp pktMeta.vlan.vid).cachedHost pktMeta.ethSrc

/-- `cached_hosts_count_on_port`. -/
def cachedHostsCountOnPort (dp : δ) (number : PortNo) (vid : Vid) : ℕ :=
  ((caches.hosts dp vid).cachedHostsOnPort number).length

/-- `hosts_count` of a port. -/
def hostsCount (dp : δ) (port : Port) : ℕ :=
  (port.vlans.map (caches.cachedHostsCountOnPort dp port.number)).sum

/-- `hosts_count` of a VLAN. -/
def vlanHostsCount (dp : δ) (vid : Vid) : ℕ := (caches.hosts dp vid).cache.length

/-- `ban_rules` gives rules. -/
def bans (dp : δ) (pktMeta : PacketMeta) : Prop :=
  caches.cachedHost dp pktMeta = none ∧
    (pktMeta.port.maxHosts ≠ 0 ∧ caches.hostsCount dp pktMeta.port = pktMeta.port.maxHosts ∨
      pktMeta.vlan.maxHosts ≠ 0 ∧
        caches.vlanHostsCount dp pktMeta.vlan.vid = pktMeta.vlan.maxHosts)

instance (dp : δ) (pktMeta : PacketMeta) : Decidable (caches.bans dp pktMeta) :=
  inferInstanceAs (Decidable (_ ∧ _))

variable {caches} in
/-- Only the caches of the datapath count. -/
theorem bans_congr {next : Caches δ} {dp : δ} {pktMeta : PacketMeta}
    (same : next.hosts dp = caches.hosts dp) :
    next.bans dp pktMeta ↔ caches.bans dp pktMeta := by
  have counts : next.cachedHostsCountOnPort dp = caches.cachedHostsCountOnPort dp := by
    funext number vid
    rw [cachedHostsCountOnPort, same]
    rfl
  rw [bans, bans, cachedHost, cachedHost, hostsCount, hostsCount, vlanHostsCount, vlanHostsCount,
    counts, same]

variable [DecidableEq δ]

/-- The hosts of one VLAN are replaced. -/
def setHosts (dp : δ) (vid : Vid) (hosts : Hosts) : Caches δ :=
  { caches with
    hosts := Function.update caches.hosts dp (Function.update (caches.hosts dp) vid hosts) }

variable {caches} {dp other : δ} {vid otherVid : Vid} {hosts : Hosts}

theorem setHosts_self : (caches.setHosts dp vid hosts).hosts dp vid = hosts := by
  simp [setHosts]

theorem setHosts_of_ne (apart : ¬ (other = dp ∧ otherVid = vid)) :
    (caches.setHosts dp vid hosts).hosts other otherVid = caches.hosts other otherVid := by
  by_cases same : other = dp
  · subst same
    have elsewhere : otherVid ≠ vid := fun same => apart ⟨rfl, same⟩
    simp [setHosts, elsewhere]
  · simp [setHosts, same]

end Caches

/-- The host stays where it is cached: on a port that learns for good, or for a short while on
a port of the same LAG. -/
def HeldBack (entry : HostCacheEntry) (now : Time) (port : Port) : Prop :=
  entry.port.permanentLearn = true ∨
    port.sameLag entry.port = true ∧ now - entry.cacheTime < 2 ∧
      Dp.portCacheValid entry port = true

instance (entry : HostCacheEntry) (now : Time) (port : Port) :
    Decidable (HeldBack entry now port) :=
  inferInstanceAs (Decidable (_ ∨ _))

namespace Network

variable {δ : Type} [DecidableEq δ] (network : Network δ)

/-- The VLAN with this id. -/
def vlan (dp : δ) (vid : Vid) : Option Vlan := (network.dps dp).vlans.find? (·.vid = vid)

/-! ## Learning -/

section Stack

variable (stacking : Stacking δ) (caches : Caches δ) (dp : δ) (pktMeta : PacketMeta)

/-- The datapath that has learned the host on a port that is not of the stack. -/
def nonStackLearned : Option δ :=
  let learned := (stacking.stackedOthers dp).filterMap fun other => do
    let _ ← network.vlan other pktMeta.vlan.vid
    let entry ← caches.cachedHost other pktMeta
    guard (stacking.nonStackForwarding other entry.port)
    some (other, entry.port.loopProtectExternal)
  match learned.find? (!·.2) with
  | some (other, _) => some other
  | none =>
      if caches.cachedHost dp pktMeta = none then (learned.find? (·.2)).map Prod.fst else none

/-- `_edge_dp_for_host`, for a packet from the datapath `peer`. -/
def edgeDpForHost (peer : δ) : Option δ :=
  if stacking.running peer then network.nonStackLearned stacking caches dp pktMeta
  else if network.manager dp = .stackReflection ∧ ¬ stacking.edgeOrRoot peer then none
  else some peer

/-- The port to learn the host on. -/
def edgeLearnPort : Option Port :=
  if network.manager dp = .standalone then some pktMeta.port
  else
    match network.peer dp pktMeta.port.number with
    | some peer =>
        (network.edgeDpForHost stacking caches dp pktMeta peer).bind
          (stacking.edgeLearnPortTowards dp pktMeta.vlan)
    | none =>
        if pktMeta.port.loopProtectExternal then
          match network.nonStackLearned stacking caches dp pktMeta with
          | some edge => stacking.edgeLearnPortTowards dp pktMeta.vlan edge
          | none => some pktMeta.port
        else some pktMeta.port

/-- What the checks say of the host on the port. -/
def verdict (learnPort : Port) : Verdict :=
  (network.dps dp).learnHostOnVlanPorts (caches.cachedHost dp pktMeta)
    (caches.lastBanTime dp learnPort.number) pktMeta.now learnPort pktMeta.vlan pktMeta.ethSrc

/-- `add_cache_host` on the VLAN of the packet. -/
def cacheOn (learnPort : Port) : Option (Caches δ) :=
  ((caches.hosts dp pktMeta.vlan.vid).addCacheHost pktMeta.ethSrc learnPort pktMeta.now).map
    (caches.setHosts dp pktMeta.vlan.vid)

end Stack

/-- A call of `learn_host`: a datapath, and the packet as it is there. -/
abbrev Call (δ : Type) := δ × PacketMeta

/-- `learn_host`; `none` when it raises. -/
def learnHost (stacking : Stacking δ) (caches : Caches δ) (call : Call δ) : Option (Caches δ) :=
  match network.edgeLearnPort stacking caches call.1 call.2 with
  | none => some caches
  | some learnPort =>
      let verdict := network.verdict caches call.1 call.2 learnPort
      let caches :=
        { caches with
          lastBanTime := Function.update caches.lastBanTime call.1
            (Function.update (caches.lastBanTime call.1) learnPort.number verdict.lastBanTime) }
      if verdict.updateCache then cacheOn caches call.1 call.2 learnPort else some caches

/-- The other datapaths that learn a packet along with the one that it comes to, each on its
port towards that one. -/
def routeLearners (stacking : Stacking δ) (dp : δ) (pktMeta : PacketMeta) : List (Call δ) :=
  (stacking.stackedOthers dp).filterMap fun other => do
    let stackPort ← stacking.relativePortTowards other dp
    let vlan ← network.vlan other pktMeta.vlan.vid
    some (other, { pktMeta with vlan, port := stackPort })

/-- The calls of `learn_host` for a packet, in their order. -/
def learners (stacking : Stacking δ) (dp : δ) (pktMeta : PacketMeta) : List (Call δ) :=
  if network.manager dp ≠ .standalone ∧ stacking.routeLearning then
    -- The peer learns first, unless Faucet itself has sent the packet.
    if (network.peer dp pktMeta.port.number).any stacking.running &&
        !stacking.isFaucetMac pktMeta.ethSrc then []
    else network.routeLearners stacking dp pktMeta ++ [(dp, pktMeta)]
  else [(dp, pktMeta)]

/-- `rcv_packet` with a VLAN, as far as the caches go; `none` when it raises, and for a packet
that is not of the datapath. -/
def rcvPacket (stacking : Stacking δ) (caches : Caches δ) (dp : δ) (pktMeta : PacketMeta) :
    Option (Caches δ) := do
  guard (pktMeta.port ∈ (network.dps dp).ports ∧
    network.vlan dp pktMeta.vlan.vid = some pktMeta.vlan)
  if caches.bans dp pktMeta then some caches
  else if pktMeta.toLearn then
    exec (network.learnHost stacking) caches (network.learners stacking dp pktMeta)
  else some caches

/-- A packet comes, or hosts leave a VLAN. -/
inductive Event (δ : Type) where
  | receive (stacking : Stacking δ) (dp : δ) (pktMeta : PacketMeta)
  | forget (dp : δ) (vid : Vid) (event : HostEvent)

/-- A packet is received, or hosts are forgotten. -/
def step (caches : Caches δ) : Event δ → Option (Caches δ)
  | .receive stacking dp pktMeta => network.rcvPacket stacking caches dp pktMeta
  | .forget dp vid event =>
      ((caches.hosts dp vid).forget event).map (caches.setHosts dp vid)

/-! ## Limits -/

/-- The hosts on a port, in all VLANs of its datapath. -/
def hostsOnPort (caches : Caches δ) (dp : δ) (number : PortNo) : ℕ :=
  ((network.dps dp).vlans.map fun vlan => caches.cachedHostsCountOnPort dp number vlan.vid).sum

/-- No port and no VLAN has more hosts than its maximum. -/
structure WithinLimits (caches : Caches δ) : Prop where
  port : ∀ dp, ∀ port ∈ (network.dps dp).ports, port.maxHosts ≠ 0 →
    network.hostsOnPort caches dp port.number ≤ port.maxHosts
  vlan : ∀ dp, ∀ vlan ∈ (network.dps dp).vlans, vlan.maxHosts ≠ 0 →
    caches.vlanHostsCount dp vlan.vid ≤ vlan.maxHosts

/-- The host is not on the port, and is not held back from it. -/
def ComesTo (caches : Caches δ) (call : Call δ) (learnPort : Port) : Prop :=
  ∀ entry ∈ caches.cachedHost call.1 call.2,
    entry.port.number ≠ learnPort.number ∧ ¬ HeldBack entry call.2.now learnPort

/-- The port is below its limit, if it has one. -/
def RoomOnPort (caches : Caches δ) (dp : δ) (number : PortNo) : Prop :=
  ∀ port ∈ (network.dps dp).ports, port.number = number → port.maxHosts ≠ 0 →
    network.hostsOnPort caches dp number < port.maxHosts

/-- The VLAN is below its limit, if it has one. -/
def RoomInVlan (caches : Caches δ) (dp : δ) (vlan : Vlan) : Prop :=
  vlan.maxHosts ≠ 0 → caches.vlanHostsCount dp vlan.vid < vlan.maxHosts

/-- The host has been counted for the port: its VLAN has not cached it, the port is that of
the packet, and all hosts of the port are in VLANs of the port. -/
def CountedOnPort (caches : Caches δ) (call : Call δ) (learnPort : Port) : Prop :=
  caches.cachedHost call.1 call.2 = none ∧ learnPort = call.2.port ∧
    caches.hostsCount call.1 call.2.port = network.hostsOnPort caches call.1 call.2.port.number

/-- What `ban_rules` has not counted has room. Nothing has been counted for another datapath
than the one that the packet comes to. -/
def CallFits (stacking : Stacking δ) (dp : δ) (caches : Caches δ) (call : Call δ) : Prop :=
  ∀ learnPort ∈ network.edgeLearnPort stacking caches call.1 call.2,
    ComesTo caches call learnPort →
      (¬ (call.1 = dp ∧ network.CountedOnPort caches call learnPort) →
        network.RoomOnPort caches call.1 learnPort.number) ∧
      (call.1 ≠ dp → caches.cachedHost call.1 call.2 = none →
        RoomInVlan caches call.1 call.2.vlan)

/-- The hosts of a packet fit. -/
def Fits (caches : Caches δ) : Event δ → Prop
  | .receive stacking dp pktMeta =>
      ¬ caches.bans dp pktMeta → pktMeta.toLearn = true →
        Allowed (network.learnHost stacking) (network.CallFits stacking dp) caches
          (network.learners stacking dp pktMeta)
  | .forget _ _ _ => True

end Network

/-! ## Counting -/

/-- A sum over distinct VLANs grows by what it gains in one of them. -/
theorem sum_map_le_of_gain {vids : List Vid} {vid : Vid} {before after : Vid → ℕ} {gain : ℕ}
    (distinct : vids.Nodup) (elsewhere : ∀ other, other ≠ vid → after other ≤ before other)
    (here : after vid ≤ gain + before vid) :
    (vids.map after).sum ≤ gain + (vids.map before).sum := by
  induction vids with
  | nil => simp
  | cons other rest ih =>
      obtain ⟨absent, distinct⟩ := List.nodup_cons.mp distinct
      rw [List.map_cons, List.map_cons, List.sum_cons, List.sum_cons]
      by_cases same : other = vid
      · subst same
        have unchanged : (rest.map after).sum ≤ (rest.map before).sum :=
          List.sum_le_sum fun vid member => elsewhere vid fun same => absent (same ▸ member)
        omega
      · have first := elsewhere other same
        have later := ih distinct
        omega

theorem updateCache_learnHostOnVlanPorts {dp : Dp} {entry : Option HostCacheEntry}
    {lastBanTime : Option Time} {now : Time} {port : Port} {vlan : Vlan} {mac : Mac} :
    (dp.learnHostOnVlanPorts entry lastBanTime now port vlan mac).updateCache =
      (!(dp.learnedBefore entry lastBanTime now port vlan mac).learnExit ||
        (dp.learnedBefore entry lastBanTime now port vlan mac).updateCache) := by
  rw [Dp.learnHostOnVlanPorts]
  generalize dp.learnedBefore entry lastBanTime now port vlan mac = before
  cases exits : before.learnExit with
  | true => simp [Verdict.andThen, exits]
  | false =>
      cases ban : dp.learnBan entry now port before.lastBanTime with
      | true => simp [Verdict.andThen, exits, Dp.loopProtectCheck, ban]
      | false => simp [Verdict.andThen, exits, Dp.loopProtectCheck, ban, Dp.learnCheck]

/-- A host that moves is written unless it is held back. -/
theorem updateCache_iff_of_moves {dp : Dp} {entry : HostCacheEntry} {lastBanTime : Option Time}
    {now : Time} {port : Port} {vlan : Vlan} {mac : Mac} (moves : entry.port ≠ port) :
    (dp.learnHostOnVlanPorts (some entry) lastBanTime now port vlan mac).updateCache = true ↔
      ¬ HeldBack entry now port := by
  rw [updateCache_learnHostOnVlanPorts, Dp.learnedBefore]
  cases permanent : entry.port.permanentLearn with
  | true => simp [Verdict.andThen, Dp.permLearnCheck, permanent, HeldBack]
  | false =>
      cases lag : port.sameLag entry.port with
      | false =>
          simp [Verdict.andThen, Dp.permLearnCheck, permanent, HeldBack, lag, Dp.learnCacheCheck, moves]
      | true =>
          by_cases early : now - entry.cacheTime < 2 ∧ Dp.portCacheValid entry port = true
          · simp [Verdict.andThen, Dp.permLearnCheck, permanent, HeldBack, lag, Dp.learnCacheCheck,
              early]
          · simp [Verdict.andThen, Dp.permLearnCheck, permanent, HeldBack, lag, Dp.learnCacheCheck,
              early]

/-! ## Steps -/

namespace Network

section Steps

variable {δ : Type} {network : Network δ} {stacking : Stacking δ} {caches next : Caches δ} {dp : δ}
  {vid : Vid} {hosts : Hosts} {call : Call δ} {learnPort : Port}

theorem vlan_eq_of_mem {vlan other : Vlan} (found : network.vlan dp vlan.vid = some vlan)
    (member : other ∈ (network.dps dp).vlans) (same : other.vid = vlan.vid) : other = vlan :=
  List.inj_on_of_nodup_map (network.vids dp) member (List.mem_of_find?_eq_some found) same

/-- The caches are coherent, and the limits hold. -/
structure Sound (network : Network δ) (caches : Caches δ) : Prop where
  coherent : ∀ dp vid, (caches.hosts dp vid).Coherent
  within : network.WithinLimits caches

theorem sound_empty : network.Sound Caches.empty where
  coherent _ _ := Hosts.coherent_empty
  within :=
    { port := fun dp port _ _ => by
        have none : network.hostsOnPort Caches.empty dp port.number = 0 :=
          List.sum_eq_zero fun count member => by
            obtain ⟨_, _, rfl⟩ := List.mem_map.mp member
            rfl
        omega
      vlan := fun _ _ _ _ => Nat.zero_le _ }

variable [DecidableEq δ]

/-- **One VLAN changes**: the limits hold when there is room for what it gains. -/
theorem Sound.setHosts (sound : network.Sound caches) (coherent : hosts.Coherent)
    (onPort : ∀ port ∈ (network.dps dp).ports, port.maxHosts ≠ 0 → ∃ gain,
      (hosts.cachedHostsOnPort port.number).length ≤
        gain + caches.cachedHostsCountOnPort dp port.number vid ∧
      gain + network.hostsOnPort caches dp port.number ≤ port.maxHosts)
    (inVlan : ∀ vlan ∈ (network.dps dp).vlans, vlan.vid = vid → vlan.maxHosts ≠ 0 →
      hosts.cache.length ≤ vlan.maxHosts) :
    network.Sound (caches.setHosts dp vid hosts) where
  coherent other otherVid := by
    by_cases here : other = dp ∧ otherVid = vid
    · obtain ⟨rfl, rfl⟩ := here
      rw [Caches.setHosts_self]
      exact coherent
    · rw [Caches.setHosts_of_ne here]
      exact sound.coherent other otherVid
  within :=
    { port := fun other port member limited => by
        by_cases here : other = dp
        · subst here
          obtain ⟨gain, gains, room⟩ := onPort port member limited
          refine le_trans ?_ room
          let before := caches.cachedHostsCountOnPort other port.number
          let after := (caches.setHosts other vid hosts).cachedHostsCountOnPort other port.number
          have elsewhere : ∀ otherVid, otherVid ≠ vid → after otherVid ≤ before otherVid := by
            intro otherVid apart
            simp only [after, before, Caches.cachedHostsCountOnPort]
            rw [Caches.setHosts_of_ne fun same => apart same.2]
          have here : after vid ≤ gain + before vid := by
            simp only [after, Caches.cachedHostsCountOnPort]
            rw [Caches.setHosts_self]
            exact gains
          have grows := sum_map_le_of_gain (network.vids other) elsewhere here
          rw [List.map_map, List.map_map] at grows
          exact grows
        · have same : network.hostsOnPort (caches.setHosts dp vid hosts) other port.number =
              network.hostsOnPort caches other port.number := by
            unfold hostsOnPort
            congr 1
            refine List.map_congr_left fun vlan _ => ?_
            rw [Caches.cachedHostsCountOnPort, Caches.setHosts_of_ne fun same => here same.1]
            rfl
          rw [same]
          exact sound.within.port other port member limited
      vlan := fun other vlan member limited => by
        by_cases here : other = dp ∧ vlan.vid = vid
        · obtain ⟨rfl, rfl⟩ := here
          rw [Caches.vlanHostsCount, Caches.setHosts_self]
          exact inVlan vlan member rfl limited
        · rw [Caches.vlanHostsCount, Caches.setHosts_of_ne here]
          exact sound.within.vlan other vlan member limited }

/-- The host is on the port already. -/
def OnPort (caches : Caches δ) (call : Call δ) (learnPort : Port) : Prop :=
  ∃ entry, caches.cachedHost call.1 call.2 = some entry ∧ entry.port.number = learnPort.number

/-- **A host is cached on a port**, when there is room for it where it is new. -/
theorem Sound.cacheOn (sound : network.Sound caches)
    (isVlan : network.vlan call.1 call.2.vlan.vid = some call.2.vlan)
    (roomOnPort : ¬ OnPort caches call learnPort →
      network.RoomOnPort caches call.1 learnPort.number)
    (roomInVlan : caches.cachedHost call.1 call.2 = none → RoomInVlan caches call.1 call.2.vlan) :
    ∃ hosts, cacheOn caches call.1 call.2 learnPort =
        some (caches.setHosts call.1 call.2.vlan.vid hosts) ∧
      network.Sound (caches.setHosts call.1 call.2.vlan.vid hosts) := by
  obtain ⟨dp, pktMeta⟩ := call
  have before := sound.coherent dp pktMeta.vlan.vid
  obtain ⟨hosts, added, after, _, lookup⟩ :=
    before.addCacheHost pktMeta.ethSrc learnPort pktMeta.now
  refine ⟨hosts, by rw [Network.cacheOn, added, Option.map_some], ?_⟩
  refine sound.setHosts after (fun port member limited => ?_) fun vlan member same limited => ?_
  · by_cases gains : port.number = learnPort.number ∧ ¬ OnPort caches (dp, pktMeta) learnPort
    · have room := roomOnPort gains.2 port member gains.1 limited
      rw [← gains.1] at room
      exact ⟨1, before.length_onPort_add after lookup, by omega⟩
    · refine ⟨0, ?_, by simpa using sound.within.port dp port member limited⟩
      rw [Nat.zero_add]
      refine before.length_onPort_stay after lookup fun here => ?_
      by_contra absent
      exact gains ⟨here, fun ⟨entry, found, onPort⟩ => absent ⟨entry, found, onPort.trans here.symm⟩⟩
  · obtain rfl := vlan_eq_of_mem isVlan member same
    cases found : caches.cachedHost dp pktMeta with
    | none =>
        have room : (caches.hosts dp pktMeta.vlan.vid).cache.length < pktMeta.vlan.maxHosts :=
          roomInVlan found limited
        have gains := after.length_cache_add lookup
        exact gains.trans (Nat.one_add_le_iff.mpr room)
    | some existing =>
        exact (after.length_cache_stay lookup found).trans (sound.within.vlan dp _ member limited)

/-- **A call of `learn_host`** does not raise, keeps the limits when it has room, and changes the
caches of its datapath alone. -/
theorem Sound.learnHost (sound : network.Sound caches)
    (isVlan : network.vlan call.1 call.2.vlan.vid = some call.2.vlan)
    (room : ∀ learnPort ∈ network.edgeLearnPort stacking caches call.1 call.2,
      ComesTo caches call learnPort → network.RoomOnPort caches call.1 learnPort.number ∧
        (caches.cachedHost call.1 call.2 = none → RoomInVlan caches call.1 call.2.vlan)) :
    ∃ next, network.learnHost stacking caches call = some next ∧ network.Sound next ∧
      ∀ other, other ≠ call.1 → next.hosts other = caches.hosts other := by
  rw [Network.learnHost]
  cases chosen : network.edgeLearnPort stacking caches call.1 call.2 with
  | none => exact ⟨caches, rfl, sound, fun _ _ => rfl⟩
  | some learnPort =>
      let marked : Caches δ :=
        { caches with
          lastBanTime := Function.update caches.lastBanTime call.1
            (Function.update (caches.lastBanTime call.1) learnPort.number
              (network.verdict caches call.1 call.2 learnPort).lastBanTime) }
      have markedSound : network.Sound marked := ⟨sound.coherent, ⟨sound.within.port, sound.within.vlan⟩⟩
      cases updates : (network.verdict caches call.1 call.2 learnPort).updateCache with
      | false => exact ⟨marked, by simp [updates, marked], markedSound, fun _ _ => rfl⟩
      | true =>
          have comes : ¬ OnPort caches call learnPort → ComesTo caches call learnPort := by
            intro absent entry found
            have moves : entry.port.number ≠ learnPort.number := fun same =>
              absent ⟨entry, found, same⟩
            have apart : entry.port ≠ learnPort := fun same => moves (same ▸ rfl)
            rw [verdict, found] at updates
            exact ⟨moves, (updateCache_iff_of_moves apart).mp updates⟩
          have roomOnPort : ¬ OnPort marked call learnPort →
              network.RoomOnPort marked call.1 learnPort.number :=
            fun absent => (room learnPort chosen (comes absent)).1
          have roomInVlan : marked.cachedHost call.1 call.2 = none →
              RoomInVlan marked call.1 call.2.vlan := by
            intro new
            refine (room learnPort chosen (comes ?_)).2 new
            rintro ⟨entry, found, _⟩
            cases new.symm.trans found
          obtain ⟨hosts, cached, nextSound⟩ := markedSound.cacheOn isVlan roomOnPort roomInVlan
          refine ⟨_, by simp [updates, marked, cached], nextSound, fun other apart => ?_⟩
          funext vid
          exact Caches.setHosts_of_ne fun same => apart same.1

/-- The other datapaths that learn along leave the caches of the one that the packet comes to. -/
theorem Sound.routeLearners {calls : List (Call δ)} (sound : network.Sound caches)
    (others : ∀ call ∈ calls, call.1 ≠ dp ∧
      network.vlan call.1 call.2.vlan.vid = some call.2.vlan)
    (fits : Allowed (network.learnHost stacking) (network.CallFits stacking dp) caches calls) :
    ∃ next, exec (network.learnHost stacking) caches calls = some next ∧ network.Sound next ∧
      next.hosts dp = caches.hosts dp := by
  induction calls generalizing caches with
  | nil => exact ⟨caches, rfl, sound, rfl⟩
  | cons call rest ih =>
      obtain ⟨fitsHere, fitsLater⟩ := fits
      obtain ⟨apart, isVlan⟩ := others call List.mem_cons_self
      have room : ∀ learnPort ∈ network.edgeLearnPort stacking caches call.1 call.2,
          ComesTo caches call learnPort → network.RoomOnPort caches call.1 learnPort.number ∧
            (caches.cachedHost call.1 call.2 = none → RoomInVlan caches call.1 call.2.vlan) := by
        intro learnPort chosen comes
        obtain ⟨onPort, inVlan⟩ := fitsHere learnPort chosen comes
        exact ⟨onPort fun counted => apart counted.1, inVlan apart⟩
      obtain ⟨middle, taken, middleSound, same⟩ := sound.learnHost isVlan room
      rw [taken] at fitsLater
      obtain ⟨next, executed, nextSound, sameLater⟩ :=
        ih middleSound (fun other member => others other (List.mem_cons_of_mem _ member)) fitsLater
      refine ⟨next, by rw [exec, taken, Option.bind_some, executed], nextSound, ?_⟩
      rw [sameLater, same dp apart.symm]

omit [DecidableEq δ] in
theorem learners_cases (stacking : Stacking δ) (dp : δ) (pktMeta : PacketMeta) :
    network.learners stacking dp pktMeta = [] ∨
      ∃ others, network.learners stacking dp pktMeta = others ++ [(dp, pktMeta)] ∧
        ∀ call ∈ others, call.1 ≠ dp ∧
          network.vlan call.1 call.2.vlan.vid = some call.2.vlan := by
  rw [learners]
  split
  · split
    · exact .inl rfl
    · refine .inr ⟨_, rfl, fun call member => ?_⟩
      obtain ⟨other, isOther, made⟩ := List.mem_filterMap.mp member
      obtain ⟨stackPort, _, made⟩ := Option.bind_eq_some_iff.mp made
      obtain ⟨vlan, found, made⟩ := Option.bind_eq_some_iff.mp made
      cases made
      have sameVid : vlan.vid = pktMeta.vlan.vid := by
        simpa using List.find?_some found
      exact ⟨fun same => stacking.apart dp (same ▸ isOther), sameVid ▸ found⟩
  · exact .inr ⟨[], rfl, fun _ member => nomatch member⟩

omit [DecidableEq δ] in
/-- What `ban_rules` has counted has room when it gives no rules. -/
theorem Sound.roomOnPort_of_counted {pktMeta : PacketMeta} (sound : network.Sound caches)
    (member : pktMeta.port ∈ (network.dps dp).ports) (notBanned : ¬ caches.bans dp pktMeta)
    (counted : network.CountedOnPort caches (dp, pktMeta) learnPort) :
    network.RoomOnPort caches dp learnPort.number := by
  obtain ⟨new, rfl, all⟩ := counted
  intro port isPort number limited
  obtain rfl : port = pktMeta.port :=
    List.inj_on_of_nodup_map (network.dps dp).portNumbers isPort member number
  have atMost := sound.within.port dp _ member limited
  refine lt_of_le_of_ne atMost fun full => notBanned ⟨new, .inl ⟨limited, ?_⟩⟩
  exact all.trans full

omit [DecidableEq δ] in
theorem Sound.roomInVlan_of_new {pktMeta : PacketMeta} (sound : network.Sound caches)
    (isVlan : network.vlan dp pktMeta.vlan.vid = some pktMeta.vlan)
    (notBanned : ¬ caches.bans dp pktMeta) (new : caches.cachedHost dp pktMeta = none) :
    RoomInVlan caches dp pktMeta.vlan := by
  intro limited
  have atMost := sound.within.vlan dp _ (List.mem_of_find?_eq_some isVlan) limited
  exact lt_of_le_of_ne atMost fun full => notBanned ⟨new, .inr ⟨limited, full⟩⟩

/-- **A packet whose hosts fit** does not raise, and keeps the limits. -/
theorem Sound.rcvPacket {pktMeta : PacketMeta} (sound : network.Sound caches)
    (member : pktMeta.port ∈ (network.dps dp).ports)
    (isVlan : network.vlan dp pktMeta.vlan.vid = some pktMeta.vlan)
    (fits : network.Fits caches (.receive stacking dp pktMeta)) :
    ∃ next, network.rcvPacket stacking caches dp pktMeta = some next ∧ network.Sound next := by
  simp only [Network.rcvPacket, guard, if_pos (And.intro member isVlan), Option.pure_def,
    Option.bind_eq_bind, Option.bind_some]
  by_cases banned : caches.bans dp pktMeta
  · exact ⟨caches, if_pos banned, sound⟩
  rw [if_neg banned]
  cases learns : pktMeta.toLearn with
  | false => exact ⟨caches, rfl, sound⟩
  | true =>
      have fits := fits banned learns
      rw [if_pos rfl]
      rcases network.learners_cases stacking dp pktMeta with none | ⟨others, eq, isOther⟩
      · rw [none]
        exact ⟨caches, rfl, sound⟩
      · rw [eq] at fits ⊢
        obtain ⟨fitsOthers, fitsLast⟩ := (allowed_append others [(dp, pktMeta)] caches).mp fits
        obtain ⟨middle, executed, middleSound, same⟩ := sound.routeLearners isOther fitsOthers
        have fitsHere := (fitsLast middle executed).1
        have notBanned : ¬ middle.bans dp pktMeta := (Caches.bans_congr same).not.mpr banned
        let call : Call δ := (dp, pktMeta)
        have room : ∀ learnPort ∈ network.edgeLearnPort stacking middle call.1 call.2,
            ComesTo middle call learnPort → network.RoomOnPort middle call.1 learnPort.number ∧
              (middle.cachedHost call.1 call.2 = none → RoomInVlan middle call.1 call.2.vlan) := by
          intro learnPort chosen comes
          refine ⟨?_, middleSound.roomInVlan_of_new isVlan notBanned⟩
          by_cases counted : network.CountedOnPort middle (dp, pktMeta) learnPort
          · exact middleSound.roomOnPort_of_counted member notBanned counted
          · exact (fitsHere learnPort chosen comes).1 fun counted' => counted counted'.2
        obtain ⟨next, taken, nextSound, _⟩ := middleSound.learnHost isVlan room
        refine ⟨next, ?_, nextSound⟩
        rw [exec_append, executed, Option.bind_some, exec, taken]
        rfl

/-! ## Runs -/

theorem Sound.step {event : Event δ} (sound : network.Sound caches)
    (fits : network.Fits caches event) (taken : network.step caches event = some next) :
    network.Sound next := by
  cases event with
  | receive stacking dp pktMeta =>
      have allowed : pktMeta.port ∈ (network.dps dp).ports ∧
          network.vlan dp pktMeta.vlan.vid = some pktMeta.vlan := by
        by_contra refused
        rw [Network.step, Network.rcvPacket, guard, if_neg refused] at taken
        cases taken
      obtain ⟨next', taken', nextSound⟩ := sound.rcvPacket allowed.1 allowed.2 fits
      cases taken'.symm.trans taken
      exact nextSound
  | forget dp vid event =>
      obtain ⟨hosts, forgotten, rfl⟩ := Option.map_eq_some_iff.mp taken
      obtain ⟨coherent, fewer⟩ := (sound.coherent dp vid).forget forgotten
      refine sound.setHosts coherent (fun port member limited => ⟨0, ?_, ?_⟩) ?_
      · have shrinks : (hosts.cachedHostsOnPort port.number).length ≤
            ([] : List Mac).length + _ :=
          (sound.coherent dp vid).length_onPort_le coherent fun mac entry found onPort =>
            .inr ⟨entry, fewer mac entry found, onPort⟩
        exact shrinks
      · simpa using sound.within.port dp port member limited
      · rintro vlan member rfl limited
        have shrinks : hosts.cache.length ≤
            ([] : List Mac).length + (caches.hosts dp vlan.vid).cache.length :=
          coherent.length_cache_le fun mac entry found => .inr ⟨entry, fewer mac entry found⟩
        have atMost := sound.within.vlan dp vlan member limited
        simp only [Caches.vlanHostsCount, List.length_nil] at shrinks atMost
        omega

/-- **The limits hold** in every state of a run in which there is room for what `ban_rules`
has not counted. -/
theorem within_of_reaches (reaches : Reaches network.step network.Fits Caches.empty caches) :
    network.WithinLimits caches :=
  (reaches.invariant network.Sound sound_empty fun sound fits taken => sound.step fits taken).within

/-- A new host on a datapath that is not in a stack fits. -/
theorem fits_of_new {pktMeta : PacketMeta} (standalone : network.manager dp = .standalone)
    (new : caches.cachedHost dp pktMeta = none)
    (all : caches.hostsCount dp pktMeta.port = network.hostsOnPort caches dp pktMeta.port.number) :
    network.Fits caches (.receive stacking dp pktMeta) := by
  intro _ _
  rw [learners, if_neg fun inStack => inStack.1 standalone]
  refine ⟨fun learnPort chosen _ => ⟨fun notCounted => ?_, fun apart => absurd rfl apart⟩, ?_⟩
  · rw [edgeLearnPort, if_pos standalone] at chosen
    cases chosen
    exact absurd ⟨rfl, new, rfl, all⟩ notCounted
  · split
    · trivial
    · trivial

end Steps

/-! ## A host that moves -/

/-- A port for one host. -/
def oneHostPort (number : PortNo) : Port :=
  { Vlan.TimedHosts.plainPort number with maxHosts := 1 }

/-- Two ports of one host each. -/
def twoPorts : Network Unit where
  dps _ :=
    { ports := [oneHostPort 1, oneHostPort 2]
      vlans := [⟨100, 0, none⟩]
      learnTimeout := 300
      learnJitter := 51
      learnBanTimeout := 51
      cacheUpdateGuardTime := 150
      idleDst := true
      useIdleTimeout := false
      dynLastColdstartTime := some 1
      hash := fun mac => mac
      ethSrcTable := 1
      ethDstTable := 2
      ethDstHairpinTable := none
      classification := none
      egressTable := none
      flowCookie := 1
      useBarriers := true
      portNumbers := by decide
      srcApart := tables_apart
      dstApart := noHairpin_apart
      hairpins := by decide }
  manager _ := .standalone
  peer _ _ := none
  vids _ := List.nodup_singleton _

/-- No stack is running. -/
def noStack : Stacking Unit where
  running _ := false
  edgeOrRoot _ := false
  routeLearning := false
  isFaucetMac _ := false
  stackedOthers _ := []
  nonStackForwarding _ _ := true
  edgeLearnPortTowards _ _ _ := none
  relativePortTowards _ _ := none
  apart _ member := nomatch member

/-- A packet of the host on the port. -/
def seen (mac : Mac) (number : PortNo) (now : Time) : Event Unit :=
  .receive noStack () ⟨now, oneHostPort number, ⟨100, 0, none⟩, mac, true⟩

/-- Each port has the host that it may have. -/
theorem within_of_reaches_twoPorts : ∃ caches,
    exec twoPorts.step Caches.empty [seen 10 1 100, seen 20 2 110] = some caches ∧
      twoPorts.WithinLimits caches := by
  have runs : (exec twoPorts.step Caches.empty [seen 10 1 100, seen 20 2 110]).isSome = true := by
    decide +kernel
  obtain ⟨caches, executed⟩ := Option.isSome_iff_exists.mp runs
  refine ⟨caches, executed, within_of_reaches (Reaches.of_exec _ ?_ executed)⟩
  refine ⟨fits_of_new rfl rfl rfl, ?_⟩
  have first : (twoPorts.step Caches.empty (seen 10 1 100)).isSome = true := by decide +kernel
  obtain ⟨middle, taken⟩ := Option.isSome_iff_exists.mp first
  have facts : (twoPorts.step Caches.empty (seen 10 1 100)).map (fun middle =>
      ((middle.hosts () 100).cachedHost 20, middle.hostsCount () (oneHostPort 2),
        twoPorts.hostsOnPort middle () 2)) = some (none, 0, 0) := by decide +kernel
  rw [taken, Option.map_some, Option.some_inj, Prod.mk.injEq, Prod.mk.injEq] at facts
  rw [taken]
  refine ⟨fits_of_new rfl facts.1 (facts.2.1.trans facts.2.2.symm), ?_⟩
  split
  · trivial
  · trivial

/-- **A host that moves to a full port** is not counted. -/
theorem not_within_twoPorts : ∃ caches,
    Reaches twoPorts.step anyStep Caches.empty caches ∧ ¬ twoPorts.WithinLimits caches := by
  have runs : (exec twoPorts.step Caches.empty
      [seen 10 1 100, seen 20 2 110, seen 10 2 400]).map (twoPorts.hostsOnPort · () 2) =
        some 2 := by decide +kernel
  obtain ⟨caches, executed, two⟩ := Option.map_eq_some_iff.mp runs
  refine ⟨caches, Reaches.of_exec _ (allowed_anyStep _ _) executed, fun within => ?_⟩
  have atMost := within.port () (oneHostPort 2) (by decide) (by decide)
  exact absurd (two ▸ atMost) (by decide)

end Network

end Faucet.Learning
