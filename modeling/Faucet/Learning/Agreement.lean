import Faucet.Learning.Messages

/-!
# The host cache and the switch

The cache and the switch agree about a host when the host has its rules just for the port
that it is cached on or for others of the same LAG. Every packet keeps the agreement,
unless loop protection bans it on another port than that (`Agrees.step`).
-/

set_option autoImplicit false

namespace Faucet.Learning

open OpenFlow TransitionSystem
open Flooding (Vid)

/-! ## Agreement -/

/-- The same port, or one of the same LAG. -/
def Near (port other : Port) : Prop := port = other ∨ port.sameLag other = true

/-- The cache and the switch agree about a host. Its source rules are for ports that are
`near` the one that it is cached on. -/
structure Agrees (dp : Dp) (near : Port → Port → Prop) (state : State) (vid : Vid) (mac : Mac) :
    Prop where
  dst : ∀ entry, state.cachedHost vid mac = some entry → ∃ flow rule, flow.tableId = dp.ethDstTable ∧
    DstFlow dp vid mac flow ∧ state.switch.flows flow = some rule
  src : ∀ entry, state.cachedHost vid mac = some entry → entry.port.permanentLearn = false →
    ∃ flow rule, SrcFlow dp vid mac flow ∧ state.switch.flows flow = some rule ∧
      SrcRule dp entry.port flow rule
  onlyDst : ∀ flow rule, DstFlow dp vid mac flow → state.switch.flows flow = some rule →
    ∃ entry, state.cachedHost vid mac = some entry ∧ ∃ port ∈ dp.ports,
      (port.lacp ≠ 0 → port.forwards = true) ∧ Near port entry.port ∧ DstRule dp vid port flow rule
  onlySrc : ∀ flow rule, SrcFlow dp vid mac flow → state.switch.flows flow = some rule →
    ∃ entry, state.cachedHost vid mac = some entry ∧ ∃ port ∈ dp.ports,
      near port entry.port ∧ SrcRule dp port flow rule

/-- Before the first packet: no host is cached or has rules. -/
structure Fresh (dp : Dp) (state : State) : Prop where
  noHost : ∀ vid, state.caches vid = HostCache.empty
  noFlow : ∀ vid mac flow, HostFlow dp vid mac flow → state.switch.flows flow = none

/-! ## Bans -/

/-- Loop protection bans the packet. -/
def Dp.loopBans (dp : Dp) (state : State) (packet : Packet dp) : Bool :=
  let entry := state.cachedHost packet.vlan.vid packet.ethSrc
  let lastBanTime := state.lastBanTime packet.port.number
  dp.banRules state packet.port packet.vlan packet.ethSrc = [] && packet.toLearn &&
    !(dp.learnedBefore entry lastBanTime packet.now packet.port packet.vlan packet.ethSrc).learnExit &&
    dp.learnBan entry packet.now packet.port lastBanTime

/-- Loop protection bans a packet of the host at most on the port that it is cached on. -/
def KeepsPort (dp : Dp) (vid : Vid) (mac : Mac) (state : State) (packet : Packet dp) : Prop :=
  packet.vlan.vid = vid ∧ packet.ethSrc = mac ∧ dp.loopBans state packet = true →
    (state.cachedHost vid mac).map (·.port) = some packet.port

instance (dp : Dp) (vid : Vid) (mac : Mac) (state : State) (packet : Packet dp) :
    Decidable (KeepsPort dp vid mac state packet) :=
  inferInstanceAs (Decidable (_ → _))

/-! ## Ports -/

section Ports

variable {first second third : Port}

theorem Near.refl (port : Port) : Near port port := .inl rfl

theorem near_iff : Near first second ↔
    first = second ∨ (first.lacp ≠ 0 ∧ first.lacp = second.lacp) := by
  rw [Near, Port.sameLag, decide_eq_true_eq]

theorem Near.symm (near : Near first second) : Near second first := by
  rw [near_iff] at near ⊢
  rcases near with rfl | ⟨inLag, same⟩
  · exact .inl rfl
  · exact .inr ⟨same ▸ inLag, same.symm⟩

theorem Near.trans (near : Near first second) (near' : Near second third) : Near first third := by
  rw [near_iff] at near near' ⊢
  rcases near with rfl | ⟨inLag, same⟩
  · exact near'
  · rcases near' with rfl | ⟨_, same'⟩
    · exact .inr ⟨inLag, same⟩
    · exact .inr ⟨inLag, same.trans same'⟩

end Ports

/-! ## The cache -/

section Cache

variable {cache next : HostCache} {mac mac' : Mac} {port : Port} {now : Time}

theorem cachedHost_addCacheHost (added : cache.addCacheHost mac port now = some next) (mac' : Mac) :
    next.cachedHost mac' = if mac = mac' then some ⟨mac, port, now⟩ else cache.cachedHost mac' := by
  obtain ⟨byPort, _, rfl⟩ := Option.map_eq_some_iff.mp added
  exact OrderedDict.find?_assign mac'

/-- The number of the port that a host is cached on. -/
def HostCache.portOf (cache : HostCache) (mac : Mac) : Option PortNo :=
  (cache.cachedHost mac).map (·.port.number)

/-- The cache and its sets agree. -/
structure HostCache.Indexed (cache : HostCache) : Prop where
  index : ReverseIndex cache.portOf cache.byPort
  nodup : ∀ portNum, (cache.byPort portNum).Nodup

theorem HostCache.indexed_empty : HostCache.empty.Indexed :=
  ⟨fun mac portNum => by simp [HostCache.empty, HostCache.portOf, HostCache.cachedHost], fun _ => List.nodup_nil⟩

theorem HostCache.Indexed.removeExisting (indexed : cache.Indexed) (mac : Mac) :
    ∃ byPort, cache.removeExisting mac = some byPort ∧
      ReverseIndex (Function.update cache.portOf mac none) byPort ∧
      ∀ portNum, (byPort portNum).Nodup := by
  cases cached : cache.cachedHost mac with
  | none =>
      refine ⟨cache.byPort, by rw [HostCache.removeExisting, cached], ?_, indexed.nodup⟩
      have unchanged : Function.update cache.portOf mac none = cache.portOf :=
        Function.update_eq_self_iff.mpr (by rw [HostCache.portOf, cached]; rfl)
      rw [unchanged]
      exact indexed.index
  | some existing =>
      have mapped : cache.portOf mac = some existing.port.number := by
        rw [HostCache.portOf, cached]
        rfl
      have listed : mac ∈ cache.byPort existing.port.number :=
        (indexed.index mac _).mpr mapped
      refine ⟨_, by rw [HostCache.removeExisting, cached]; exact if_pos listed,
        ReverseIndex.erase indexed.index mapped (indexed.nodup _), fun portNum => ?_⟩
      by_cases same : portNum = existing.port.number
      · subst same
        rw [Function.update_self]
        exact (indexed.nodup _).erase mac
      · rw [Function.update_of_ne same]
        exact indexed.nodup portNum

/-- **The cache takes every host**: an entry is always in the set of its port. -/
theorem HostCache.Indexed.addCacheHost (indexed : cache.Indexed) (mac : Mac) (port : Port)
    (now : Time) : ∃ next, cache.addCacheHost mac port now = some next ∧ next.Indexed := by
  obtain ⟨byPort, removed, index, nodup⟩ := indexed.removeExisting mac
  have added : cache.addCacheHost mac port now = some
      { hosts := OrderedDict.assign (·.ethSrc) cache.hosts ⟨mac, port, now⟩
        byPort := Function.update byPort port.number ((byPort port.number).insert mac) } := by
    rw [HostCache.addCacheHost, removed]
    rfl
  refine ⟨_, added, ?_, fun portNum => ?_⟩
  · have inserted : ReverseIndex
        (Function.update (Function.update cache.portOf mac none) mac (some port.number))
        (Function.update byPort port.number ((byPort port.number).insert mac)) := by
      refine index.insert fun old mapped => ?_
      rw [Function.update_self] at mapped
      cases mapped
    refine Eq.mp (congrArg (ReverseIndex · _) ?_) inserted
    funext mac'
    rw [Function.update_idem, HostCache.portOf, cachedHost_addCacheHost added]
    by_cases same : mac = mac'
    · subst same
      rw [Function.update_self, if_pos rfl]
      rfl
    · rw [Function.update_of_ne (Ne.symm same), if_neg same]
      rfl
  · by_cases same : portNum = port.number
    · subst same
      simp only [Function.update_self]
      exact (nodup _).insert
    · simp only [Function.update_of_ne same]
      exact nodup portNum

end Cache

/-! ## What the checks say -/

section Checks

variable {dp : Dp} {state next : State} {packet : Packet dp} {vid : Vid} {mac : Mac}
  {entry : Option HostCacheEntry} {lastBanTime : Option Time} {now : Time} {port : Port}
  {vlan : Vlan}

/-- The host is cached on a port that learns for good or has been cached a short while
ago. -/
structure Settled (dp : Dp) (entry : Option HostCacheEntry) (mac : Mac) (port : Port)
    (verdict : Verdict) : Prop where
  exits : verdict.learnExit = true
  keepsCache : verdict.updateCache = false
  onlyFilter : ∀ mod ∈ verdict.ofmsgs, mod = dp.filterPackets mac port.number

/-- The host is to be learned, on a port where it was not (`fresh` and `moved`) or near to
where it was. -/
structure GoesOn (entry : Option HostCacheEntry) (lastBanTime : Option Time) (port : Port)
    (verdict : Verdict) : Prop where
  goesOn : verdict.learnExit = false
  noMessages : verdict.ofmsgs = []
  lastBan : verdict.lastBanTime = lastBanTime
  fresh : entry = none → verdict.refreshRules = false
  near : ∀ cached, entry = some cached → Near port cached.port → verdict.deleteExisting = false
  moved : ∀ cached, entry = some cached → ¬ Near port cached.port →
    verdict.deleteExisting = true ∧ verdict.refreshRules = false

theorem learnedBefore_cases :
    Settled dp entry mac port (dp.learnedBefore entry lastBanTime now port vlan mac) ∨
      GoesOn entry lastBanTime port (dp.learnedBefore entry lastBanTime now port vlan mac) := by
  cases entry with
  | none =>
      right
      constructor <;> simp [Dp.learnedBefore, Verdict.andThen, Dp.permLearnCheck, Dp.learnCacheCheck]
  | some cached =>
      by_cases permanent : cached.port.permanentLearn = true
      · left
        have before : dp.learnedBefore (some cached) lastBanTime now port vlan mac =
            ⟨true, if cached.port ≠ port then [dp.filterPackets mac port.number] else [], false,
              dp.deletesExisting (some cached) vlan, false, lastBanTime⟩ := by
          simp [Dp.learnedBefore, Verdict.andThen, Dp.permLearnCheck, permanent]
        rw [before]
        refine ⟨rfl, rfl, fun mod member => ?_⟩
        split at member
        · exact List.mem_singleton.mp member
        · cases member
      · have before : dp.learnedBefore (some cached) lastBanTime now port vlan mac =
            dp.learnCacheCheck (some cached) now port
              ⟨false, [], true, dp.deletesExisting (some cached) vlan, false, lastBanTime⟩ := by
          simp [Dp.learnedBefore, Verdict.andThen, Dp.permLearnCheck, permanent]
        have isNear : (cached.port = port ∨ port.sameLag cached.port = true) ↔
            Near port cached.port := or_congr_left eq_comm
        rw [before, Dp.learnCacheCheck]
        by_cases near : cached.port = port ∨ port.sameLag cached.port = true
        · simp only [if_pos near]
          generalize (if port.sameLag cached.port = true then (2 : ℚ)
            else dp.cacheUpdateGuardTime) = guardTime
          split
          · left
            exact ⟨rfl, rfl, fun mod member => nomatch member⟩
          · right
            exact ⟨rfl, rfl, rfl, nofun, fun _ _ _ => rfl, fun other same apart =>
              absurd (isNear.mp near) (Option.some.inj same ▸ apart)⟩
        · simp only [if_neg near]
          right
          refine ⟨rfl, rfl, rfl, nofun, fun other same isNear' => ?_, fun _ _ _ => ⟨?_, rfl⟩⟩
          · exact absurd (isNear.mpr (Option.some.inj same ▸ isNear')) near
          · simp [Dp.deletesExisting]

/-- The checks end before loop protection, with a ban, or with the rules of the host. -/
theorem learnHostOnVlanPorts_cases :
    Settled dp entry mac port (dp.learnHostOnVlanPorts entry lastBanTime now port vlan mac) ∨
    ∃ before, before = dp.learnedBefore entry lastBanTime now port vlan mac ∧
      GoesOn entry lastBanTime port before ∧
      (dp.learnHostOnVlanPorts entry lastBanTime now port vlan mac).updateCache = true ∧
      ((dp.learnBan entry now port lastBanTime = true ∧
          (dp.learnHostOnVlanPorts entry lastBanTime now port vlan mac).ofmsgs =
            [dp.tempBanHostLearning (.ofFields [inPort port.number])]) ∨
        (dp.learnBan entry now port lastBanTime = false ∧
          (dp.learnHostOnVlanPorts entry lastBanTime now port vlan mac).ofmsgs =
            dp.learnHostOnVlanPortFlows port vlan.vid mac before.deleteExisting
              before.refreshRules)) := by
  have cases : Settled dp entry mac port (dp.learnedBefore entry lastBanTime now port vlan mac) ∨
      GoesOn entry lastBanTime port (dp.learnedBefore entry lastBanTime now port vlan mac) :=
    learnedBefore_cases
  rw [Dp.learnHostOnVlanPorts]
  generalize dp.learnedBefore entry lastBanTime now port vlan mac = before at cases
  rcases cases with settled | goesOn
  · left
    simpa [Verdict.andThen, settled.exits] using settled
  · right
    refine ⟨before, rfl, goesOn, ?_⟩
    cases ban : dp.learnBan entry now port lastBanTime <;>
      simp [Verdict.andThen, goesOn.goesOn, Dp.loopProtectCheck, goesOn.lastBan, ban, Dp.learnCheck,
        goesOn.noMessages]

/-! ## Steps -/

/-- Every flow of a host stays as it is. -/
def Quiet (dp : Dp) (switch next : Switch) : Prop :=
  ∀ vid mac flow, HostFlow dp vid mac flow → NoGroup switch flow →
    next.flows flow = switch.flows flow

/-- The host of the packet is learned. -/
structure Learns (dp : Dp) (state next : State) (packet : Packet dp)
    (deleteExisting refreshRules : Bool) : Prop where
  delivers : state.switch.deliver packet.shuffle dp.useBarriers
    ((dp.learnHostOnVlanPortFlows packet.port packet.vlan.vid packet.ethSrc deleteExisting
      refreshRules).map .flowMod ++ packet.elsewhere.map Subtype.val) = some next.switch
  fresh : state.cachedHost packet.vlan.vid packet.ethSrc = none → refreshRules = false
  near : ∀ cached, state.cachedHost packet.vlan.vid packet.ethSrc = some cached →
    Near packet.port cached.port → deleteExisting = false
  moved : ∀ cached, state.cachedHost packet.vlan.vid packet.ethSrc = some cached →
    ¬ Near packet.port cached.port → deleteExisting = true ∧ refreshRules = false

/-- What a packet does: nothing to the cache, nothing to the rules, or it is learned. -/
inductive Stepped (dp : Dp) (state next : State) (packet : Packet dp) : Prop where
  | settled (caches : next.caches = state.caches) (quiet : Quiet dp state.switch next.switch)
  | banned (bans : dp.loopBans state packet = true)
      (caches : dp.cachesAfter state packet true = some next.caches)
      (quiet : Quiet dp state.switch next.switch)
  | learned (deleteExisting refreshRules : Bool) (noBan : dp.loopBans state packet = false)
      (caches : dp.cachesAfter state packet true = some next.caches)
      (learns : Learns dp state next packet deleteExisting refreshRules)

theorem quiet_of_deliver {mods : List FlowMod} {shuffle : Shuffle}
    {elsewhere : List {ofmsg : Ofmsg // Elsewhere dp ofmsg}} {switch switch' : Switch}
    (harmless : ∀ mod ∈ mods, Harmless dp mod)
    (delivers : switch.deliver shuffle dp.useBarriers
      (mods.map .flowMod ++ elsewhere.map Subtype.val) = some switch') : Quiet dp switch switch' := by
  intro vid mac flow isHost noGroup
  exact deliver_quiet (fun mod member => (harmless mod member).isHostMod) isHost
    (fun mod member => (harmless mod member).apart isHost) noGroup delivers

theorem harmless_banRules (mod : FlowMod) (member : mod ∈ dp.banRules state port vlan mac) :
    Harmless dp mod := by
  rw [Dp.banRules] at member
  split at member
  · rcases List.mem_append.mp member with ofPort | ofVlan
    · split at ofPort
      · exact List.mem_singleton.mp ofPort ▸ harmless_ban rfl (.inl rfl)
      · cases ofPort
    · split at ofVlan
      · exact List.mem_singleton.mp ofVlan ▸ harmless_ban rfl (.inr rfl)
      · cases ofVlan
  · cases member

/-- The port of a packet that is let in. -/
structure LetIn (dp : Dp) (packet : Packet dp) : Prop where
  port : packet.port ∈ dp.ports
  vlan : packet.vlan ∈ dp.vlans
  forwards : packet.port.lacp ≠ 0 → packet.port.forwards = true

/-- A packet to be learned that no limit on hosts bans. -/
theorem step_learning (noBans : dp.banRules state packet.port packet.vlan packet.ethSrc = [])
    (toLearn : packet.toLearn = true) (taken : dp.step state packet = some next) :
    dp.cachesAfter state packet (dp.verdict state packet).updateCache = some next.caches ∧
      next.lastBanTime = Function.update state.lastBanTime packet.port.number
        (dp.verdict state packet).lastBanTime ∧
      state.switch.deliver packet.shuffle dp.useBarriers
        ((dp.verdict state packet).ofmsgs.map .flowMod ++ packet.elsewhere.map Subtype.val) =
          some next.switch := by
  rw [Dp.step] at taken
  obtain ⟨_, _, taken⟩ := Option.bind_eq_some_iff.mp taken
  simp only [noBans, toLearn, ne_eq, not_true_eq_false, if_false, if_true] at taken
  obtain ⟨caches, added, taken⟩ := Option.bind_eq_some_iff.mp taken
  obtain ⟨switch, delivers, taken⟩ := Option.bind_eq_some_iff.mp taken
  cases taken
  exact ⟨added, rfl, delivers⟩

theorem step_cases (taken : dp.step state packet = some next) :
    LetIn dp packet ∧ Stepped dp state next packet := by
  have given := taken
  rw [Dp.step] at taken
  obtain ⟨_, allowed, taken⟩ := Option.bind_eq_some_iff.mp taken
  dsimp only at taken
  refine ⟨?_, ?_⟩
  · by_contra refused
    rw [guard, if_neg fun allowed => refused ⟨allowed.1, allowed.2.1, allowed.2.2⟩] at allowed
    cases allowed
  split at taken
  next bans =>
    obtain ⟨switch, delivers, taken⟩ := Option.bind_eq_some_iff.mp taken
    cases taken
    have alone : state.switch.deliver packet.shuffle dp.useBarriers
        ((dp.banRules state packet.port packet.vlan packet.ethSrc).map .flowMod ++
          ([] : List {ofmsg : Ofmsg // Elsewhere dp ofmsg}).map Subtype.val) = some switch := by
      simpa using delivers
    exact .settled rfl (quiet_of_deliver harmless_banRules alone)
  next noBans =>
    rw [ne_eq, Decidable.not_not] at noBans
    split at taken
    next toLearn =>
      obtain ⟨added, _, delivers⟩ := step_learning noBans toLearn given
      rw [Dp.verdict] at added delivers
      rcases learnHostOnVlanPorts_cases with settled | ⟨before, isBefore, goesOn, updates, kinds⟩
      · rw [settled.keepsCache] at added
        refine .settled (Option.some.inj added).symm (quiet_of_deliver (fun mod member => ?_) delivers)
        exact settled.onlyFilter mod member ▸ harmless_filterPackets _ _
      · rw [updates] at added
        rcases kinds with ⟨ban, messages⟩ | ⟨noBan, messages⟩
        · rw [messages] at delivers
          refine .banned ?_ added (quiet_of_deliver ?_ delivers)
          · simp [Dp.loopBans, noBans, toLearn, ← isBefore, goesOn.goesOn, ban]
          · intro mod member
            exact List.mem_singleton.mp member ▸ harmless_ban rfl (.inl rfl)
        · rw [messages] at delivers
          refine .learned _ _ ?_ added ⟨delivers, goesOn.fresh, goesOn.near, goesOn.moved⟩
          simp [Dp.loopBans, noBan]
    next ignored =>
      obtain ⟨switch, delivers, taken⟩ := Option.bind_eq_some_iff.mp taken
      cases taken
      have alone : state.switch.deliver packet.shuffle dp.useBarriers
          (([] : List FlowMod).map .flowMod ++ packet.elsewhere.map Subtype.val) =
            some switch := by
        simpa using delivers
      exact .settled rfl (quiet_of_deliver (fun mod member => by cases member) alone)

/-- A packet that changes the cache and is not banned is learned. -/
theorem Stepped.learns (stepped : Stepped dp state next packet)
    (changes : next.cachedHost packet.vlan.vid packet.ethSrc ≠
      state.cachedHost packet.vlan.vid packet.ethSrc)
    (noBan : dp.loopBans state packet = false) :
    ∃ deleteExisting refreshRules, Learns dp state next packet deleteExisting refreshRules := by
  cases stepped with
  | settled caches =>
      rw [State.cachedHost, caches] at changes
      exact absurd rfl changes
  | banned bans => cases noBan.symm.trans bans
  | learned deleteExisting refreshRules _ _ learns => exact ⟨deleteExisting, refreshRules, learns⟩

/-! ## The agreement over a step -/

theorem not_group_output (hairpin : Bool) (external : Option Bool) (groupId : ℕ) :
    (dp.output port vid hairpin external).any (·.refersTo groupId) = false := by
  rw [Dp.output]
  split
  · rfl
  · have plain : ∀ act ∈ outputPort vid port hairpin external, act.refersTo groupId = false := by
      intro act member
      rw [outputPort, Port.mirrorActions] at member
      rcases List.mem_append.mp member with before | last
      · split at before
        · rcases List.mem_cons.mp before with rfl | mirrored
          · rfl
          · obtain ⟨_, _, rfl⟩ := List.mem_map.mp mirrored
            rfl
        · rcases List.mem_append.mp before with mirrored | flag
          · obtain ⟨_, _, rfl⟩ := List.mem_map.mp mirrored
            rfl
          · obtain ⟨requested, _, rfl⟩ := Option.map_eq_some_iff.mp (Option.mem_toList.mp flag)
            cases requested <;> rfl
      · cases List.mem_singleton.mp last
        rfl
    simpa [Instruction.refersTo] using plain

theorem Agrees.noGroup {near : Port → Port → Prop} {flow : FlowId}
    (agrees : Agrees dp near state vid mac) (isHost : HostFlow dp vid mac flow) :
    NoGroup state.switch flow := by
  intro rule current groupId
  rw [FlowEntry.refersTo]
  rcases isHost with isSrc | isDst
  · obtain ⟨_, _, other, _, _, srcRule⟩ := agrees.onlySrc flow rule isSrc current
    rw [srcRule.goesOn]
    rfl
  · obtain ⟨_, _, other, _, _, _, dstRule⟩ := agrees.onlyDst flow rule isDst current
    rcases dstRule with ⟨_, instructions⟩ | ⟨_, _, instructions⟩
    · rw [instructions, not_group_output]
    · rw [instructions, not_group_output]

/-- The agreement about a host lasts as long as its rules and the port that it is cached
on do. -/
theorem Agrees.congr {near : Port → Port → Prop} (agrees : Agrees dp near state vid mac)
    (samePort : (next.cachedHost vid mac).map (·.port) = (state.cachedHost vid mac).map (·.port))
    (sameFlows : ∀ flow, HostFlow dp vid mac flow →
      next.switch.flows flow = state.switch.flows flow) : Agrees dp near next vid mac := by
  have before : ∀ entry, next.cachedHost vid mac = some entry →
      ∃ cached, state.cachedHost vid mac = some cached ∧ cached.port = entry.port := by
    intro entry isCached
    rw [isCached] at samePort
    exact Option.map_eq_some_iff.mp samePort.symm
  have after : ∀ cached, state.cachedHost vid mac = some cached →
      ∃ entry, next.cachedHost vid mac = some entry ∧ entry.port = cached.port := by
    intro cached isCached
    rw [isCached] at samePort
    exact Option.map_eq_some_iff.mp samePort
  constructor
  · intro entry isCached
    obtain ⟨cached, wasCached, _⟩ := before entry isCached
    obtain ⟨flow, rule, inTable, isDst, current⟩ := agrees.dst cached wasCached
    exact ⟨flow, rule, inTable, isDst, (sameFlows flow (.inr isDst)).trans current⟩
  · intro entry isCached learns
    obtain ⟨cached, wasCached, same⟩ := before entry isCached
    obtain ⟨flow, rule, isSrc, current, srcRule⟩ := agrees.src cached wasCached (same ▸ learns)
    exact ⟨flow, rule, isSrc, (sameFlows flow (.inl isSrc)).trans current, same ▸ srcRule⟩
  · intro flow rule isDst current
    rw [sameFlows flow (.inr isDst)] at current
    obtain ⟨cached, wasCached, other, rest⟩ := agrees.onlyDst flow rule isDst current
    obtain ⟨entry, isCached, same⟩ := after cached wasCached
    exact ⟨entry, isCached, other, same ▸ rest⟩
  · intro flow rule isSrc current
    rw [sameFlows flow (.inl isSrc)] at current
    obtain ⟨cached, wasCached, other, rest⟩ := agrees.onlySrc flow rule isSrc current
    obtain ⟨entry, isCached, same⟩ := after cached wasCached
    exact ⟨entry, isCached, other, same ▸ rest⟩

/-- **A host that is learned** is cached on the port of the packet and has its rules for
that port or others of its LAG. -/
theorem Learns.agrees {deleteExisting refreshRules : Bool}
    (learns : Learns dp state next packet deleteExisting refreshRules) (letIn : LetIn dp packet)
    (isCached : next.cachedHost packet.vlan.vid packet.ethSrc =
      some ⟨packet.ethSrc, packet.port, packet.now⟩)
    (agrees : Agrees dp Near state packet.vlan.vid packet.ethSrc) :
    Agrees dp Near next packet.vlan.vid packet.ethSrc := by
  have becomes : ∀ flow, HostFlow dp packet.vlan.vid packet.ethSrc flow →
      (∃ rule, next.switch.flows flow = some rule ∧
        RuleFor dp packet.vlan.vid packet.ethSrc packet.port flow rule) ∨
      next.switch.flows flow = if deleteExisting then none else state.switch.flows flow :=
    fun flow isHost => deliver_learned isHost learns.delivers (agrees.noGroup isHost)
  -- a rule that stays was for a port of the same LAG
  have stays : ∀ flow rule, HostFlow dp packet.vlan.vid packet.ethSrc flow →
      next.switch.flows flow = some rule →
      RuleFor dp packet.vlan.vid packet.ethSrc packet.port flow rule ∨
        (state.switch.flows flow = some rule ∧ ∀ cached,
          state.cachedHost packet.vlan.vid packet.ethSrc = some cached →
            Near packet.port cached.port) := by
    intro flow rule isHost current
    rcases becomes flow isHost with ⟨other, added, ruleFor⟩ | same
    · cases Option.some.inj (current.symm.trans added)
      exact .inl ruleFor
    · cases delete : deleteExisting with
      | true =>
          rw [delete, if_pos rfl, current] at same
          cases same
      | false =>
          rw [delete, if_neg Bool.false_ne_true, current] at same
          refine .inr ⟨same.symm, fun cached wasCached => ?_⟩
          by_contra apart
          cases delete.symm.trans (learns.moved cached wasCached apart).1
  constructor
  · intro _ _
    by_cases writes : refreshRules = false ∨ packet.port.hairpinning = true
    · exact deliver_dst learns.delivers writes
    rw [not_or, Bool.not_eq_false] at writes
    cases wasCached : state.cachedHost packet.vlan.vid packet.ethSrc with
    | none => cases (learns.fresh wasCached).symm.trans writes.1
    | some cached =>
        have near : Near packet.port cached.port := by
          by_contra apart
          cases (learns.moved cached wasCached apart).2.symm.trans writes.1
        obtain ⟨flow, rule, inTable, isDst, before⟩ := agrees.dst cached wasCached
        rcases becomes flow (.inr isDst) with ⟨other, added, _⟩ | same
        · exact ⟨flow, other, inTable, isDst, added⟩
        · rw [learns.near cached wasCached near, if_neg Bool.false_ne_true, before] at same
          exact ⟨flow, rule, inTable, isDst, same⟩
  · intro entry cached _
    cases Option.some.inj (cached.symm.trans isCached)
    exact deliver_src learns.delivers
  · intro flow rule isDst current
    refine ⟨_, isCached, ?_⟩
    rcases stays flow rule (.inr isDst) current with ruleFor | ⟨before, near⟩
    · exact ⟨packet.port, letIn.port, letIn.forwards, .refl _, ruleFor.dst isDst⟩
    · obtain ⟨cached, wasCached, other, member, forwards, nearCached, dstRule⟩ :=
        agrees.onlyDst flow rule isDst before
      exact ⟨other, member, forwards, nearCached.trans (near cached wasCached).symm, dstRule⟩
  · intro flow rule isSrc current
    refine ⟨_, isCached, ?_⟩
    rcases stays flow rule (.inl isSrc) current with ruleFor | ⟨before, near⟩
    · exact ⟨packet.port, letIn.port, .refl _, ruleFor.src isSrc⟩
    · obtain ⟨cached, wasCached, other, member, nearCached, srcRule⟩ :=
        agrees.onlySrc flow rule isSrc before
      exact ⟨other, member, nearCached.trans (near cached wasCached).symm, srcRule⟩

/-- Messages about another host leave the rules of this one. -/
theorem Learns.quiet {deleteExisting refreshRules : Bool} {flow : FlowId}
    (learns : Learns dp state next packet deleteExisting refreshRules)
    (other : ¬ (packet.vlan.vid = vid ∧ packet.ethSrc = mac)) (isHost : HostFlow dp vid mac flow)
    (noGroup : NoGroup state.switch flow) : next.switch.flows flow = state.switch.flows flow := by
  refine deliver_quiet hostMods_learned isHost (fun mod member touches => ?_) noGroup learns.delivers
  obtain ⟨isHostMod, forHost⟩ := learn_spec member
  exact other (forHost.same isHostMod isHost touches)

theorem cachedHost_cachesAfter
    (added : dp.cachesAfter state packet true = some next.caches) (vid : Vid) (mac : Mac) :
    next.cachedHost vid mac =
      if packet.vlan.vid = vid ∧ packet.ethSrc = mac then
        some ⟨packet.ethSrc, packet.port, packet.now⟩
      else state.cachedHost vid mac := by
  rw [Dp.cachesAfter, if_pos rfl] at added
  obtain ⟨cache, added, caches⟩ := Option.map_eq_some_iff.mp added
  rw [State.cachedHost, ← caches]
  by_cases sameVid : packet.vlan.vid = vid
  · subst sameVid
    rw [Function.update_self, cachedHost_addCacheHost added]
    simp [State.cachedHost]
  · rw [Function.update_of_ne (Ne.symm sameVid), if_neg fun same => sameVid same.1]
    rfl

/-- **The agreement about a host is kept** by every packet that loop protection does not
ban on another port than the one that the host is cached on. -/
theorem Agrees.step (agrees : Agrees dp Near state vid mac)
    (keeps : KeepsPort dp vid mac state packet) (taken : dp.step state packet = some next) :
    Agrees dp Near next vid mac := by
  obtain ⟨letIn, stepped⟩ := step_cases taken
  cases stepped with
  | settled caches quiet =>
      refine agrees.congr ?_ fun flow isHost => quiet vid mac flow isHost (agrees.noGroup isHost)
      rw [State.cachedHost, caches]
      rfl
  | banned bans caches quiet =>
      refine agrees.congr ?_ fun flow isHost => quiet vid mac flow isHost (agrees.noGroup isHost)
      rw [cachedHost_cachesAfter caches]
      split
      next same => exact (keeps ⟨same.1, same.2, bans⟩).symm
      next => rfl
  | learned deleteExisting refreshRules _ caches learns =>
      by_cases same : packet.vlan.vid = vid ∧ packet.ethSrc = mac
      · obtain ⟨rfl, rfl⟩ := same
        refine learns.agrees letIn ?_ agrees
        rw [cachedHost_cachesAfter caches, if_pos ⟨rfl, rfl⟩]
      · refine agrees.congr ?_ fun flow isHost => learns.quiet same isHost (agrees.noGroup isHost)
        rw [cachedHost_cachesAfter caches, if_neg same]

end Checks

end Faucet.Learning
