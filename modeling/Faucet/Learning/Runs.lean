import Faucet.Learning.Agreement

/-!
# Runs of packets

The cache and the switch agree about a host all along a run in which loop protection does
not ban its packets on another port than the one that it is cached on
(`agrees_of_keepsPort`), and no packet makes the handler raise (`handled_of_reaches`). A packet
that is banned moves the host in the cache and not in the switch, and a host that is seen
on another port of its LAG keeps the source rule that it has (`not_agrees`).
-/

set_option autoImplicit false

namespace Faucet.Learning

open OpenFlow TransitionSystem
open Flooding (Vid)

section Runs

variable {dp : Dp} {start state next : State} {packet : Packet dp}

/-! ## No packet raises -/

/-- The cache of each VLAN agrees with its sets. -/
def State.Indexed (state : State) : Prop := ∀ vid, (state.caches vid).Indexed

theorem hostMods_verdict (state : State) (packet : Packet dp) :
    ∀ mod ∈ (dp.verdict state packet).ofmsgs, HostMod dp mod := by
  intro mod member
  rw [Dp.verdict] at member
  rcases learnHostOnVlanPorts_cases with settled | ⟨before, _, _, _, ⟨_, messages⟩ | ⟨_, messages⟩⟩
  · exact settled.onlyFilter mod member ▸ (harmless_filterPackets _ _).isHostMod
  · rw [messages] at member
    exact List.mem_singleton.mp member ▸ (harmless_ban rfl (.inl rfl)).isHostMod
  · rw [messages] at member
    exact hostMods_learned mod member

theorem exists_cachesAfter (indexed : state.Indexed) (packet : Packet dp) (updateCache : Bool) :
    ∃ caches, dp.cachesAfter state packet updateCache = some caches ∧
      ∀ vid, (caches vid).Indexed := by
  cases updateCache with
  | false => exact ⟨state.caches, rfl, indexed⟩
  | true =>
      obtain ⟨cache, added, cacheIndexed⟩ :=
        (indexed packet.vlan.vid).addCacheHost packet.ethSrc packet.port packet.now
      refine ⟨_, by rw [Dp.cachesAfter, if_pos rfl, added]; rfl, fun vid => ?_⟩
      by_cases same : vid = packet.vlan.vid
      · subst same
        rw [Function.update_self]
        exact cacheIndexed
      · rw [Function.update_of_ne same]
        exact indexed vid

/-- **A packet that is let in is handled**: the cache takes its host, and the messages go
through. -/
theorem exists_step (indexed : state.Indexed) (letIn : LetIn dp packet) :
    ∃ next, dp.step state packet = some next ∧ next.Indexed := by
  have allowed : packet.port ∈ dp.ports ∧ packet.vlan ∈ dp.vlans ∧
      (packet.port.lacp ≠ 0 → packet.port.forwards = true) :=
    ⟨letIn.port, letIn.vlan, letIn.forwards⟩
  have delivers : ∀ (mods : List FlowMod) (elsewhere : List {ofmsg : Ofmsg // Elsewhere dp ofmsg}),
      (∀ mod ∈ mods, HostMod dp mod) → ∃ switch, state.switch.deliver packet.shuffle dp.useBarriers
        (mods.map .flowMod ++ elsewhere.map Subtype.val) = some switch :=
    fun mods elsewhere hostMods => exists_deliver hostMods
  simp only [Dp.step, guard, if_pos allowed, Option.pure_def, Option.bind_eq_bind,
    Option.bind_some]
  split
  · obtain ⟨switch, delivered⟩ := delivers (dp.banRules state packet.port packet.vlan packet.ethSrc)
      [] fun mod member => (harmless_banRules mod member).isHostMod
    rw [List.map_nil, List.append_nil] at delivered
    rw [delivered]
    exact ⟨_, rfl, indexed⟩
  split
  · obtain ⟨caches, added, cachesIndexed⟩ :=
      exists_cachesAfter indexed packet (dp.verdict state packet).updateCache
    obtain ⟨switch, delivered⟩ := delivers _ packet.elsewhere (hostMods_verdict state packet)
    rw [added, Option.bind_some, delivered]
    exact ⟨_, rfl, cachesIndexed⟩
  · obtain ⟨switch, delivered⟩ := delivers [] packet.elsewhere fun mod member => by cases member
    rw [List.map_nil, List.nil_append] at delivered
    rw [delivered]
    exact ⟨_, rfl, indexed⟩

/-- **No packet raises** in a state that is reached. -/
theorem handled_of_reaches (fresh : Fresh dp start)
    (reaches : Reaches dp.step anyStep start state) (letIn : LetIn dp packet) :
    ∃ next, dp.step state packet = some next := by
  have indexed : state.Indexed := by
    refine reaches.invariant State.Indexed (fun vid => ?_) fun indexed _ taken => ?_
    · rw [fresh.noHost]
      exact HostCache.indexed_empty
    · obtain ⟨next, taken', indexed'⟩ := exists_step indexed (step_cases taken).1
      cases taken.symm.trans taken'
      exact indexed'
  obtain ⟨next, taken, _⟩ := exists_step indexed letIn
  exact ⟨next, taken⟩

/-! ## Agreement -/

theorem Fresh.agrees {near : Port → Port → Prop} (fresh : Fresh dp state) (vid : Vid) (mac : Mac) :
    Agrees dp near state vid mac := by
  have notCached : state.cachedHost vid mac = none := by
    rw [State.cachedHost, fresh.noHost]
    rfl
  refine ⟨?_, ?_, ?_, ?_⟩
  · intro entry cached
    cases notCached.symm.trans cached
  · intro entry cached
    cases notCached.symm.trans cached
  · intro flow rule isDst current
    cases (fresh.noFlow vid mac flow (.inr isDst)).symm.trans current
  · intro flow rule isSrc current
    cases (fresh.noFlow vid mac flow (.inl isSrc)).symm.trans current

/-- **The cache and the switch agree** about a host all along a run in which loop protection
bans no packet of it on another port than the one that it is cached on. -/
theorem agrees_of_keepsPort {start : State} (fresh : Fresh dp start) (vid : Vid) (mac : Mac)
    (reaches : Reaches dp.step (KeepsPort dp vid mac) start state) :
    Agrees dp Near state vid mac :=
  reaches.invariant (Agrees dp Near · vid mac) (fresh.agrees vid mac)
    fun agrees keeps taken => agrees.step keeps taken


end Runs

/-! ## LAGs and bans -/

/-- Two ports of a LAG, and one with loop protection. -/
def labPort (number : PortNo) (lacp : ℕ) (loopProtect : Bool) : Port where
  number := number
  nativeVlan := some 100
  dynDot1xNativeVlan := none
  taggedVlans := []
  mirror := []
  lacp := lacp
  forwards := lacp ≠ 0
  permanentLearn := false
  loopProtect := loopProtect
  loopProtectExternal := false
  hairpin := false
  hairpinUnicast := false
  maxHosts := 0
  dynUpdateTime := some 1

/-- VLAN 100. -/
def labVlan : Vlan := ⟨100, 0, none⟩

/-- Two ports in bundles and one with loop protection. -/
def lab : Dp where
  ports := [labPort 1 1 false, labPort 2 1 false, labPort 3 0 true]
  vlans := [labVlan]
  learnTimeout := 300
  learnJitter := 51
  learnBanTimeout := 51
  cacheUpdateGuardTime := 150
  idleDst := true
  useIdleTimeout := false
  dynLastColdstartTime := some 1
  hash := fun mac => mac
  ethSrcTable := 1
  ethDstTable := 2
  ethDstHairpinTable := none
  classification := none
  egressTable := none
  flowCookie := 1
  useBarriers := true
  portNumbers := by decide
  srcApart := tables_apart
  dstApart := noHairpin_apart
  hairpins := by decide

/-- A packet of host 10 on the port. -/
def labPacket (port : Port) (now : Time) : Packet lab where
  now := now
  port := port
  vlan := labVlan
  ethSrc := 10
  toLearn := true
  elsewhere := []
  shuffle := ⟨id, Shuffle.perm_id⟩

/-- Nothing has been learned. -/
def labStart : State where
  caches := fun _ => HostCache.empty
  lastBanTime := fun _ => none
  switch := ⟨fun _ => none, fun _ => none, fun _ => none⟩

theorem fresh_lab : Fresh lab labStart := ⟨fun _ => rfl, fun _ _ _ _ => rfl⟩

section Lab

variable {state next : State} {entry : Option HostCacheEntry} {lastBanTime : Option Time}
  {number : PortNo} {lacp : ℕ} {loopProtect : Bool} {now : Time}

theorem indexed_lab : labStart.Indexed := fun _ => HostCache.indexed_empty

theorem letIn_lab (member : labPort number lacp loopProtect ∈ lab.ports) :
    LetIn lab (labPacket (labPort number lacp loopProtect) now) :=
  ⟨member, List.mem_singleton_self _, fun inLag => decide_eq_true inLag⟩

theorem noBans_lab : lab.banRules state (labPort number lacp loopProtect) labVlan 10 = [] := by
  simp [Dp.banRules, labPort, labVlan]

section Cached

variable (cached : state.cachedHost 100 10 = entry) (lastBan : state.lastBanTime number = lastBanTime)
include cached lastBan

/-- The host of the lab is cached on the port of its packet, when the checks say so. -/
theorem step_lab (now : Time) (indexed : state.Indexed)
    (member : labPort number lacp loopProtect ∈ lab.ports)
    (updates : (lab.learnHostOnVlanPorts entry lastBanTime now (labPort number lacp loopProtect)
      labVlan 10).updateCache = true) :
    ∃ next, lab.step state (labPacket (labPort number lacp loopProtect) now) = some next ∧
      next.Indexed ∧
      next.cachedHost 100 10 = some ⟨10, labPort number lacp loopProtect, now⟩ ∧
      ∀ other, other ≠ number → next.lastBanTime other = state.lastBanTime other := by
  obtain ⟨next, taken, indexed⟩ := exists_step indexed (letIn_lab member)
  obtain ⟨added, bans, _⟩ := step_learning noBans_lab rfl taken
  have verdict : lab.verdict state (labPacket (labPort number lacp loopProtect) now) =
      lab.learnHostOnVlanPorts entry lastBanTime now (labPort number lacp loopProtect) labVlan 10 :=
    cached ▸ lastBan ▸ rfl
  rw [verdict, updates] at added
  refine ⟨next, taken, indexed, ?_, fun other apart => ?_⟩
  · rw [cachedHost_cachesAfter added]
    exact if_pos ⟨rfl, rfl⟩
  · rw [bans]
    exact Function.update_of_ne apart _ _

theorem loopBans_lab :
    lab.loopBans state (labPacket (labPort number lacp loopProtect) now) =
      (!(lab.learnedBefore entry lastBanTime now (labPort number lacp loopProtect) labVlan
          10).learnExit &&
        lab.learnBan entry now (labPort number lacp loopProtect) lastBanTime) := by
  rw [← cached, ← lastBan, Dp.loopBans]
  simp only [labPacket, noBans_lab, decide_true, Bool.true_and]
  rfl

/-- Loop protection does not ban the packet. -/
theorem keepsPort_lab
    (noBan : lab.learnBan entry now (labPort number lacp loopProtect) lastBanTime = false) :
    KeepsPort lab 100 10 state (labPacket (labPort number lacp loopProtect) now) := by
  rintro ⟨_, _, bans⟩
  rw [loopBans_lab cached lastBan, noBan, Bool.and_false] at bans
  cases bans

end Cached

/-- A host is seen on a port of a LAG, and later on the other one. -/
theorem lab_moves : ∃ first second,
    lab.step labStart (labPacket (labPort 1 1 false) 100) = some first ∧
    lab.step first (labPacket (labPort 2 1 false) 200) = some second ∧
    first.Indexed ∧ second.Indexed ∧
    first.cachedHost 100 10 = some ⟨10, labPort 1 1 false, 100⟩ ∧
    second.cachedHost 100 10 = some ⟨10, labPort 2 1 false, 200⟩ ∧
    first.lastBanTime 2 = none ∧ first.lastBanTime 3 = none ∧ second.lastBanTime 3 = none := by
  have started : labStart.cachedHost 100 10 = none := rfl
  have portIn : labPort 1 1 false ∈ lab.ports := by decide
  have portIn' : labPort 2 1 false ∈ lab.ports := by decide
  obtain ⟨first, taken, indexed, cached, bans⟩ :=
    step_lab started rfl 100 indexed_lab portIn (by decide +kernel)
  have noBan : first.lastBanTime 2 = none := bans 2 (by decide)
  have noBan' : first.lastBanTime 3 = none := bans 3 (by decide)
  obtain ⟨second, taken', indexed', cached', bans'⟩ :=
    step_lab cached noBan 200 indexed portIn' (by decide +kernel)
  exact ⟨first, second, taken, taken', indexed, indexed', cached, cached', noBan, noBan',
    (bans' 3 (by decide)).trans noBan'⟩

/-- A host moves within its LAG, and from there to another port. -/
theorem agrees_of_keepsPort_lab : ∃ state, Reaches lab.step (KeepsPort lab 100 10) labStart state ∧
    state.cachedHost 100 10 = some ⟨10, labPort 3 0 true, 400⟩ ∧ Agrees lab Near state 100 10 := by
  obtain ⟨first, second, taken, taken', _, indexed, cached, cached', noBan, _, noBan'⟩ := lab_moves
  have portIn : labPort 3 0 true ∈ lab.ports := by decide
  obtain ⟨third, taken'', _, cached'', _⟩ :=
    step_lab cached' noBan' 400 indexed portIn (by decide +kernel)
  have reaches : Reaches lab.step (KeepsPort lab 100 10) labStart third := by
    refine .tail (.tail (.single ?_ taken) ?_ taken') ?_ taken''
    · exact keepsPort_lab rfl rfl (by decide +kernel)
    · exact keepsPort_lab cached noBan (by decide +kernel)
    · exact keepsPort_lab cached' noBan' (by decide +kernel)
  exact ⟨third, reaches, cached'', agrees_of_keepsPort fresh_lab 100 10 reaches⟩

theorem learns_lab (noBan : lab.learnBan entry now (labPort number lacp loopProtect) lastBanTime =
      false) (cached : state.cachedHost 100 10 = entry)
    (lastBan : state.lastBanTime number = lastBanTime)
    (changes : next.cachedHost 100 10 ≠ entry)
    (taken : lab.step state (labPacket (labPort number lacp loopProtect) now) = some next) :
    ∃ deleteExisting refreshRules, Learns lab state next
      (labPacket (labPort number lacp loopProtect) now) deleteExisting refreshRules := by
  refine (step_cases taken).2.learns (cached ▸ changes) ?_
  rw [loopBans_lab cached lastBan, noBan, Bool.and_false]

/-- A flow cannot be for two ports. -/
theorem SrcRule.number_eq {dp : Dp} {port other : Port} {flow : FlowId} {rule rule' : FlowEntry}
    (first : SrcRule dp port flow rule) (second : SrcRule dp other flow rule') :
    port.number = other.number := by
  have same := Match.eq_of_field first.fromPort second.fromPort rfl
  simpa [inPort] using same

/-- A source rule stays on the port of the LAG where the host was seen before. -/
theorem lag_lab : ∃ state, Reaches lab.step (KeepsPort lab 100 10) labStart state ∧
    ¬ Agrees lab Eq state 100 10 := by
  obtain ⟨first, second, taken, taken', _, _, cached, cached', noBan, _, _⟩ := lab_moves
  have keeps : KeepsPort lab 100 10 labStart (labPacket (labPort 1 1 false) 100) :=
    keepsPort_lab rfl rfl (by decide +kernel)
  have keeps' : KeepsPort lab 100 10 first (labPacket (labPort 2 1 false) 200) :=
    keepsPort_lab cached noBan (by decide +kernel)
  have agrees : Agrees lab Near first 100 10 := (fresh_lab.agrees 100 10).step keeps taken
  refine ⟨second, .tail (.single keeps taken) keeps' taken', fun exactly => ?_⟩
  obtain ⟨_, _, learns⟩ := learns_lab (by decide +kernel) rfl rfl
    (by rw [cached]; decide +kernel) taken
  obtain ⟨deletes, _, learns'⟩ := learns_lab (by decide +kernel) cached noBan
    (by rw [cached']; decide +kernel) taken'
  obtain ⟨flow, rule, isSrc, current, srcRule⟩ := deliver_src learns.delivers
  have notSecond : ∀ rule', ¬ SrcRule lab (labPort 2 1 false) flow rule' := by
    intro rule' srcRule'
    exact absurd (srcRule.number_eq srcRule') (by decide)
  rcases deliver_learned (.inl isSrc) learns'.delivers (agrees.noGroup (.inl isSrc)) with
    ⟨rule', _, ruleFor⟩ | stays
  · exact notSecond rule' (ruleFor.src isSrc)
  · rw [learns'.near _ cached (.inr (by decide)), if_neg Bool.false_ne_true, current] at stays
    obtain ⟨entry, isCached, port, _, rfl, srcRule'⟩ := exactly.onlySrc flow rule isSrc stays
    cases cached'.symm.trans isCached
    exact notSecond rule srcRule'

/-- A host that is banned on a port is cached there without a rule. -/
theorem ban_lab : ∃ state, Reaches lab.step anyStep labStart state ∧
    ¬ Agrees lab Near state 100 10 := by
  obtain ⟨first, _, taken, _, indexed, _, cached, _, _, noBan, _⟩ := lab_moves
  have keeps : KeepsPort lab 100 10 labStart (labPacket (labPort 1 1 false) 100) :=
    keepsPort_lab rfl rfl (by decide +kernel)
  have agrees : Agrees lab Near first 100 10 := (fresh_lab.agrees 100 10).step keeps taken
  have portIn : labPort 3 0 true ∈ lab.ports := by decide
  obtain ⟨second, taken', _, cached', _⟩ :=
    step_lab cached noBan 110 indexed portIn (by decide +kernel)
  refine ⟨second, .tail (.single trivial taken) trivial taken', fun still => ?_⟩
  have bans : lab.loopBans first (labPacket (labPort 3 0 true) 110) = true := by
    rw [loopBans_lab cached noBan]
    decide +kernel
  cases (step_cases taken').2 with
  | settled caches =>
      rw [State.cachedHost, caches] at cached'
      cases cached.symm.trans cached'
  | learned _ _ notBanned => cases bans.symm.trans notBanned
  | banned _ _ quiet =>
      obtain ⟨flow, rule, isSrc, current, srcRule⟩ := still.src _ cached' rfl
      rw [quiet 100 10 flow (.inl isSrc) (agrees.noGroup (.inl isSrc))] at current
      obtain ⟨entry, isCached, port, member, near, srcRule'⟩ := agrees.onlySrc flow rule isSrc current
      cases cached.symm.trans isCached
      have number : port.number = 3 := srcRule'.number_eq srcRule
      rw [near_iff] at near
      rcases near with rfl | ⟨inLag, same⟩
      · cases number
      · simp only [lab, List.mem_cons, List.not_mem_nil, or_false] at member
        rcases member with rfl | rfl | rfl
        · cases number
        · cases number
        · exact inLag rfl

/-- **A source rule stays on the other port of a LAG, and a ban moves the host in the cache
alone.** -/
theorem not_agrees :
    (∃ state, Reaches lab.step (KeepsPort lab 100 10) labStart state ∧
      ¬ Agrees lab Eq state 100 10) ∧
    ∃ state, Reaches lab.step anyStep labStart state ∧ ¬ Agrees lab Near state 100 10 :=
  ⟨lag_lab, ban_lab⟩

end Lab

end Faucet.Learning
