import Faucet.Dot1x.Messages
import Faucet.Library.TransitionSystem

/-!
# Isolation of 802.1x hosts

A login deletes the noauth flows of its port by their match, so a noauth rule that
matches widely takes the EAPOL redirect, the flow for MAC authentication bypass and the
flows of the other hosts on the port with it. The flows of the noauth ACL come back with
a log-off, and may then take the place of another flow of the same match and priority. A
port of a LACP bundle keeps its flows when it goes down.

When none of this happens (`Allowed`), the hosts are isolated
(`isolated_of_allowed`).
-/

set_option autoImplicit false

namespace Faucet.Dot1x

open OpenFlow TransitionSystem

/-! ## Isolation -/

/-- The switch has the flow that the message adds. -/
def Installs (switch : Switch) (mod : FlowMod) : Prop :=
  ∀ id, mod.names id = true → switch.flows id = some mod.entry

/-- The port is enabled and up. -/
def Running (state : State) (port : Port) : Prop :=
  port.enabled = true ∧ state.up port.number = true

/-- The ports that run have their redirects and the hosts that are logged in their
flows. Of any other host the only flows are those of the noauth ACL. -/
structure Isolated (dp : Dp) (state : State) : Prop where
  pair : ∀ port ∈ dp.ports, Running state port →
    ∀ mod ∈ dp.createDot1xFlowPair port.number, Installs state.switch mod
  mab : ∀ port ∈ dp.ports, Running state port → port.dot1xMab = true →
    Installs state.switch (dp.createMabFlow port.number)
  sessions : ∀ portNum mac id entry, state.session portNum mac id = some entry →
    state.switch.flows id = some entry
  strangers : ∀ port ∈ dp.ports, ∀ mac id entry,
    LoginShape dp.portAclTable port.number mac id → state.switch.flows id = some entry →
    state.session port.number mac id = none →
    ∃ mod ∈ dp.noauthFlows port, mod.names id = true ∧ mod.entry = entry

/-- A step that is about a host changes flows of that host and noauth flows of its port
only; the redirects of all ports and the flows of the other hosts stay installed. -/
structure OnlyOwn (dp : Dp) (state next : State) (port : Port) (mac : Mac) : Prop where
  changes : ∀ id, id.tableId = dp.portAclTable.tableId →
    next.switch.flows id ≠ state.switch.flows id →
    LoginShape dp.portAclTable port.number mac id ∨
      ∃ mod ∈ dp.noauthFlows port, mod.names id = true
  pair : ∀ other ∈ dp.ports, Running state other →
    ∀ mod ∈ dp.createDot1xFlowPair other.number, Installs next.switch mod
  mab : ∀ other ∈ dp.ports, Running state other → other.dot1xMab = true →
    Installs next.switch (dp.createMabFlow other.number)
  sessions : ∀ portNum host, ¬ (portNum = port.number ∧ host = mac) →
    ∀ id entry, state.session portNum host id = some entry → next.switch.flows id = some entry

/-- Before the first event: no port has come up, no host has logged in, and the table has
no flows for the 802.1x ports. -/
structure Fresh (dp : Dp) (state : State) : Prop where
  down : ∀ port ∈ dp.ports, state.up port.number = false
  noSession : ∀ portNum mac id, state.session portNum mac id = none
  noFlow : ∀ port ∈ dp.ports, ∀ id, id.tableId = dp.portAclTable.tableId →
    inPort port.number ∈ id.matchFields.items → state.switch.flows id = none

/-! ## When hosts are isolated -/

/-- The redirect of the port, its flow for MAC authentication bypass or the flow of
another host than this one. -/
def Protected (dp : Dp) (state : State) (port : Port) (mac : Mac) (id : FlowId) : Prop :=
  (∃ mod ∈ dp.createDot1xFlowPair port.number, mod.names id = true) ∨
    (port.dot1xMab = true ∧ (dp.createMabFlow port.number).names id = true) ∨
    ∃ host, host ≠ mac ∧ state.session port.number host id ≠ none

/-- The condition on a step under which hosts stay isolated. -/
def Allowed (dp : Dp) (state : State) (event : Event dp) : Prop :=
  match event.signal with
  | .login port mac _ =>
      -- no noauth rule matches all that a protected flow of the port matches
      ∀ mod ∈ dp.noauthFlows port, ∀ id, state.switch.flows id ≠ none →
        Protected dp state port mac id → mod.matchFields.covers id.matchFields = false
  | .logoff port mac | .failure port mac =>
      -- no noauth rule takes the place of a protected flow
      ∀ mod ∈ dp.noauthFlows port, ∀ id entry, mod.names id = true →
        state.switch.flows id = some entry → Protected dp state port mac id → mod.entry = entry
  | .portUp port =>
      state.up port.number = false → port.enabled = true →
        ∀ mod ∈ dp.noauthFlows port, ∀ id mac entry, mod.names id = true →
          state.session port.number mac id = some entry → mod.entry = entry
  | .portDown port =>
      -- the deletes for the port are sent, or none of its hosts is logged in
      state.up port.number = true → port.lacp = true ∨ port.outputOnly = true →
        ∀ mac id, state.session port.number mac id ≠ none →
          port.lacp = false ∧ (mac = dp.getMacStr port.number ∨
            ∃ mod ∈ dp.noauthFlows port, mod.matchFields.covers id.matchFields = true)
  | .nfvSwPortUp => True

/-! ## What the messages do to a flow of the table -/

/-- One of the messages adds the flow. -/
def Adding (mods : List FlowMod) (id : FlowId) : Prop :=
  ∃ mod ∈ mods, mod.command = .add ∧ mod.names id = true

/-- One flow of the table after the messages, by what they say about it. -/
structure Handled (mods : List FlowMod) (id : FlowId) (before after : Option FlowEntry) : Prop where
  added : Adding mods id → ∃ mod ∈ mods, mod.command = .add ∧ mod.names id = true ∧
    after = some mod.entry
  kept : ¬ Adding mods id → (∀ mod ∈ mods, mod.reaches id = false) → after = before
  removed : ¬ Adding mods id → ∀ mod ∈ mods, mod.reaches id = true →
    (∀ other ∈ mods, other.command = .add → other.matchFields = mod.matchFields →
      other.priority ≠ mod.priority) → after = none
  /-- What is not added was there before. -/
  older : ¬ Adding mods id → after = before ∨ after = none
  last : ∀ earlier mod, mods = earlier ++ [mod] → mod.command = .add → mod.names id = true →
    (earlier.filter fun other => other.names id).length ≤ 1 → after = some mod.entry

section Step

variable {dp : Dp} {state next : State} {event : Event dp} {mods : List FlowMod} {id : FlowId}

theorem flowMod_mem_input {mod : FlowMod} : (.flowMod mod ∈ mods.map Ofmsg.flowMod ++
      event.elsewhere.map Subtype.val) ↔
    mod ∈ mods ∨ ∃ other ∈ event.elsewhere, other.val = .flowMod mod := by
  simp [List.mem_append]

theorem byTable_input (aclMods : ∀ mod ∈ mods, AclMod dp.portAclTable mod) :
    ByTable dp.portAclTable.tableId
      (mods.map .flowMod ++ event.elsewhere.map Subtype.val) := by
  constructor
  · intro mod member
    rcases flowMod_mem_input.mp member with own | ⟨other, _, same⟩
    · rw [(aclMods mod own).inTable]
      have := dp.portAclTable.tableId.isLt
      rw [ofpttAll]
      omega
    · exact (other.property mod same).2
  · intro mod member inTable
    rcases flowMod_mem_input.mp member with own | ⟨other, _, same⟩
    · rcases (aclMods mod own).kind with isAdd | ⟨isDel, _⟩
      · rw [isAdd]
        simp
      · intro modify
        rw [FlowMod.isFlowdel, modify] at isDel
        cases isDel
    · exact absurd inTable (other.property mod same).1

theorem adds_input_iff (inTable : id.tableId = dp.portAclTable.tableId) :
    Adds (mods.map .flowMod ++ event.elsewhere.map Subtype.val) id ↔ Adding mods id := by
  constructor
  · intro adds
    obtain ⟨mod, member, isAdd, names⟩ := adds
    rcases flowMod_mem_input.mp member with own | ⟨other, _, same⟩
    · exact ⟨mod, own, isAdd, names⟩
    · refine absurd ?_ (other.property mod same).1
      rw [(names_iff.mp names).1, inTable]
  · intro adding
    obtain ⟨mod, member, isAdd, names⟩ := adding
    exact ⟨mod, flowMod_mem_input.mpr (.inl member), isAdd, names⟩

theorem handled_of_send {shuffle : Shuffle} {switch switch' : Switch}
    (aclMods : ∀ mod ∈ mods, AclMod dp.portAclTable mod)
    (sends : switch.send shuffle dp.useBarriers
      (mods.map .flowMod ++ event.elsewhere.map Subtype.val) = some switch')
    (inTable : id.tableId = dp.portAclTable.tableId) :
    Handled mods id (switch.flows id) (switch'.flows id) := by
  have byTable : ByTable dp.portAclTable.tableId
      (mods.map .flowMod ++ event.elsewhere.map Subtype.val) := byTable_input aclMods
  -- a message that reaches the flow is one of these
  have own : ∀ mod, .flowMod mod ∈ mods.map Ofmsg.flowMod ++ event.elsewhere.map Subtype.val →
      mod.reaches id = true → mod ∈ mods := by
    intro mod member reaches
    rcases flowMod_mem_input.mp member with own | ⟨other, _, same⟩
    · exact own
    · have apart := other.property mod same
      rw [FlowMod.reaches, Bool.and_eq_true, Bool.or_eq_true, beq_iff_eq, beq_iff_eq] at reaches
      rcases reaches.1 with all | one
      · exact absurd all apart.2
      · exact absurd (one.trans (congrArg _ inTable)) apart.1
  have noPort : ∀ mod ∈ mods, mod.reaches id = true → mod.outPort = none := by
    intro mod member reaches
    rcases (aclMods mod member).kind with isAdd | ⟨_, anyPort⟩
    · rw [FlowMod.reaches, isAdd, Bool.and_false] at reaches
      cases reaches
    · exact anyPort
  have kept : ¬ Adding mods id → (∀ mod ∈ mods, mod.reaches id = true →
      Dropped (mods.map .flowMod ++ event.elsewhere.map Subtype.val) (.flowMod mod)) →
      switch'.flows id = switch.flows id := fun notAdding dropped =>
    byTable.send_kept inTable sends (notAdding ∘ (adds_input_iff inTable).mp)
      fun mod member reaches => dropped mod (own mod member reaches) reaches
  have removed : ¬ Adding mods id → ∀ mod ∈ mods, mod.reaches id = true →
      ¬ Readded (mods.map .flowMod ++ event.elsewhere.map Subtype.val) (.flowMod mod) →
      switch'.flows id = none := fun notAdding mod member reaches notReadded =>
    byTable.send_removed inTable sends (notAdding ∘ (adds_input_iff inTable).mp)
      (flowMod_mem_input.mpr (.inl member)) reaches (noPort mod member reaches) notReadded
  constructor
  · intro adding
    obtain ⟨mod, member, isAdd, names, flows⟩ :=
      byTable.send_added inTable sends ((adds_input_iff inTable).mpr adding)
    refine ⟨mod, ?_, isAdd, names, flows⟩
    rcases flowMod_mem_input.mp member with own | ⟨other, _, same⟩
    · exact own
    · refine absurd ?_ (other.property mod same).1
      rw [(names_iff.mp names).1, inTable]
  · intro notAdding free
    exact kept notAdding fun mod member reaches =>
        absurd ((free mod member).symm.trans reaches) Bool.false_ne_true
  · intro notAdding mod member reaches notAgain
    refine removed notAdding mod member reaches fun readded => ?_
    obtain ⟨other, present, kind, sameKey⟩ := readded
    obtain ⟨other, rfl, notDel⟩ := flowMod_of_flowaddmod kind
    simp only [flowmodkey, Option.some.injEq, FlowmodKey.mk.injEq] at sameKey
    rcases flowMod_mem_input.mp present with own | ⟨elsewhere, _, same⟩
    · rcases (aclMods other own).kind with isAdd | ⟨isDel, _⟩
      · exact notAgain other own isAdd sameKey.1 sameKey.2.2.1
      · cases notDel.symm.trans isDel
    · refine (elsewhere.property other same).1 ?_
      rw [sameKey.2.2.2, (aclMods mod member).inTable]
  · intro notAdding
    by_cases all : ∀ mod ∈ mods, mod.reaches id = true →
        Dropped (mods.map .flowMod ++ event.elsewhere.map Subtype.val) (.flowMod mod)
    · exact .inl (kept notAdding all)
    · push Not at all
      obtain ⟨mod, member, reaches, stays⟩ := all
      refine .inr (removed notAdding mod member reaches fun readded => stays ⟨?_, .inr (.inr readded)⟩)
      exact byTable.msgKind_of_delete (flowMod_mem_input.mpr (.inl member))
        (FlowMod.isFlowdel_of_reaches reaches)
  · intro earlier mod split isAdd names few
    subst split
    have others : (event.elsewhere.map Subtype.val).filter (sets id) = [] := by
      refine List.filter_eq_nil_iff.mpr fun ofmsg member isSet => ?_
      obtain ⟨other, _, rfl⟩ := List.mem_map.mp member
      cases same : other.val with
      | flowMod mod =>
          rw [same, sets, Bool.and_eq_true, names_iff] at isSet
          exact (other.property mod same).1 (isSet.2.1.trans (congrArg _ inTable))
      | _ =>
          rw [same] at isSet
          cases isSet
    have last : sets id (.flowMod mod) = true := by simp [sets, FlowMod.isFlowdel, isAdd, names]
    have adds : ((earlier ++ [mod]).map Ofmsg.flowMod ++ event.elsewhere.map Subtype.val).filter
        (sets id) = (earlier.map Ofmsg.flowMod).filter (sets id) ++ [.flowMod mod] := by
      rw [List.filter_append, others, List.append_nil, List.map_append, List.filter_append]
      simp [last]
    refine byTable.send_last inTable sends adds (Nat.le_trans ?_ few)
    rw [List.filter_map, List.length_map]
    refine (List.monotone_filter_right earlier fun other isSet => ?_).length_le
    rw [Function.comp_apply, sets, Bool.and_eq_true] at isSet
    exact isSet.2

end Step

/-! ## Flows apart -/

section Apart

variable {dp : Dp} {port other : Port} {id : FlowId} {mac host : Mac} {mod mod' : FlowMod}

theorem inPort_unique {fields : Match} {first second : PortNo}
    (present : inPort first ∈ fields.items) (present' : inPort second ∈ fields.items) :
    first = second := by
  have same := Match.eq_of_field present present' rfl
  exact congrArg OxmField.value same

theorem ethSrc_unique {fields : Match} (present : ethSrc mac ∈ fields.items)
    (present' : ethSrc host ∈ fields.items) : mac = host := by
  have same := Match.eq_of_field present present' rfl
  exact congrArg OxmField.value same

theorem Dp.port_eq (member : port ∈ dp.ports) (member' : other ∈ dp.ports)
    (same : port.number = other.number) : port = other :=
  List.inj_on_of_nodup_map dp.distinct member member' same

theorem Dp.getMacStr_inj {first second : PortNo} (same : dp.getMacStr first = dp.getMacStr second) :
    first = second := Nat.add_left_cancel same

/-- A redirect is for the port, whatever the source, or for the NFV port and the MAC
address of the port. -/
theorem pair_shape (member : mod ∈ dp.createDot1xFlowPair port.number)
    (names : mod.names id = true) :
    inPort port.number ∈ id.matchFields.items ∧ (∀ host, ethSrc host ∉ id.matchFields.items) ∨
      inPort dp.nfvSwPort ∈ id.matchFields.items ∧
        ethSrc (dp.getMacStr port.number) ∈ id.matchFields.items := by
  obtain ⟨_, _, fields⟩ := names_iff.mp names
  rw [← fields]
  rcases List.mem_pair.mp member with same | same
  · exact .inl (same ▸ Dp.mem_eapol)
  · exact .inr (same ▸ Dp.mem_nfvEapol _)

theorem mab_shape (names : (dp.createMabFlow port.number).names id = true) :
    inPort port.number ∈ id.matchFields.items ∧ ∀ host, ethSrc host ∉ id.matchFields.items := by
  obtain ⟨_, _, fields⟩ := names_iff.mp names
  rw [← fields]
  exact Dp.mem_mab

/-- A redirect with the number of an 802.1x port is that of the port. -/
theorem pair_of_inPort (member : port ∈ dp.ports) (listed : mod ∈ dp.createDot1xFlowPair other.number)
    (names : mod.names id = true) (present : inPort port.number ∈ id.matchFields.items) :
    other.number = port.number ∧ ∀ host, ethSrc host ∉ id.matchFields.items := by
  rcases pair_shape listed names with ⟨own, free⟩ | ⟨nfv, _⟩
  · exact ⟨inPort_unique own present, free⟩
  · exact absurd (inPort_unique present nfv) (dp.nfvApart port member)

/-- A flow is redirected in one way. -/
theorem pair_entry (member : port ∈ dp.ports) (member' : other ∈ dp.ports)
    (listed : mod ∈ dp.createDot1xFlowPair port.number) (names : mod.names id = true)
    (listed' : mod' ∈ dp.createDot1xFlowPair other.number) (names' : mod'.names id = true) :
    mod' = mod := by
  have apart : dp.nfvEapolMatch (dp.getMacStr port.number) ≠ Dp.eapolMatch port.number := by
    intro same
    have free : ∀ host, ethSrc host ∉ (Dp.eapolMatch port.number).items := Dp.mem_eapol.2
    rw [← same] at free
    exact free _ (Dp.mem_nfvEapol _).2
  have sameNumber : other.number = port.number := by
    rcases pair_shape listed names with ⟨own, _⟩ | ⟨nfv, source⟩
    · exact (pair_of_inPort member listed' names' own).1
    · rcases pair_shape listed' names' with ⟨own', _⟩ | ⟨_, source'⟩
      · exact absurd (inPort_unique own' nfv) (dp.nfvApart other member')
      · exact dp.getMacStr_inj (ethSrc_unique source' source)
  rw [sameNumber] at listed'
  have sameFields : mod'.matchFields = mod.matchFields :=
    (names_iff.mp names').2.2.trans (names_iff.mp names).2.2.symm
  rcases List.mem_pair.mp listed with same | same <;>
    rcases List.mem_pair.mp listed' with same' | same'
  · exact same'.trans same.symm
  · exact absurd (by simpa [same, same', AclTable.flowmod] using sameFields) apart
  · exact absurd (by simpa [same, same', AclTable.flowmod] using sameFields.symm) apart
  · exact same'.trans same.symm

theorem pair_priority (listed : mod ∈ dp.createDot1xFlowPair port.number)
    (names : mod.names id = true) : id.priority = overridePriority := by
  rw [← (names_iff.mp names).2.1]
  exact (Dp.aclMod_pair listed).2.2

theorem mab_priority (names : (dp.createMabFlow port.number).names id = true) :
    id.priority = lowPriority := (names_iff.mp names).2.1.symm

/-- No redirect is a flow of an ACL. -/
theorem not_acl_of_pair {table : AclTable} {portNum : PortNo} {source : Option Mac}
    (listed : mod ∈ dp.createDot1xFlowPair port.number) (names : mod.names id = true)
    (aclFlow : AclFlow table portNum source mod') : mod'.names id ≠ true := by
  intro names'
  have low := aclFlow.low
  rw [(names_iff.mp names').2.1, pair_priority listed names] at low
  exact absurd low (by decide)

end Apart

/-! ## The invariant -/

/-- A flow with the number of the port is one of those that 802.1x has installed for it. -/
def Known (dp : Dp) (state : State) (port : Port) (id : FlowId) (entry : FlowEntry) : Prop :=
  (∃ mod ∈ dp.createDot1xFlowPair port.number, mod.names id = true) ∨
    (port.dot1xMab = true ∧ (dp.createMabFlow port.number).names id = true) ∨
    (∃ mod ∈ dp.noauthFlows port, mod.names id = true ∧ mod.entry = entry) ∨
    ∃ mac, state.session port.number mac id = some entry

/-- The invariant: redirects and login flows are installed, and no other flows of the ports are.
-/
structure Tracked (dp : Dp) (state : State) : Prop where
  pair : ∀ port ∈ dp.ports, Running state port →
    ∀ mod ∈ dp.createDot1xFlowPair port.number, Installs state.switch mod
  mab : ∀ port ∈ dp.ports, Running state port → port.dot1xMab = true →
    Installs state.switch (dp.createMabFlow port.number)
  sessions : ∀ portNum mac id entry, state.session portNum mac id = some entry →
    state.switch.flows id = some entry
  known : ∀ port ∈ dp.ports, ∀ id entry, id.tableId = dp.portAclTable.tableId →
    inPort port.number ∈ id.matchFields.items → state.switch.flows id = some entry →
    Known dp state port id entry
  shapes : ∀ portNum mac id, state.session portNum mac id ≠ none →
    ∃ port ∈ dp.ports, port.number = portNum ∧ dp.Removable port mac id

section Invariant

variable {dp : Dp} {state next : State} {mods : List FlowMod} {port other : Port}
  {mac host : Mac} {id : FlowId} {entry : FlowEntry}

theorem Fresh.tracked (fresh : Fresh dp state) : Tracked dp state where
  pair := fun port member running => by cases (fresh.down port member).symm.trans running.2
  mab := fun port member running => by cases (fresh.down port member).symm.trans running.2
  sessions := fun portNum mac id entry logged => by
    cases (fresh.noSession portNum mac id).symm.trans logged
  known := fun port member id entry inTable present installed => by
    cases (fresh.noFlow port member id inTable present).symm.trans installed
  shapes := fun portNum mac id logged => absurd (fresh.noSession portNum mac id) logged

/-- Of a host that is not logged in there are only noauth flows. -/
theorem Tracked.strangers (tracked : Tracked dp state) (member : port ∈ dp.ports)
    (shape : LoginShape dp.portAclTable port.number mac id)
    (installed : state.switch.flows id = some entry)
    (stranger : state.session port.number mac id = none) :
    ∃ mod ∈ dp.noauthFlows port, mod.names id = true ∧ mod.entry = entry := by
  rcases tracked.known port member id entry shape.inTable shape.port installed with
    ⟨mod, listed, names⟩ | ⟨_, names⟩ | noauth | ⟨host, logged⟩
  · exact absurd shape.source ((pair_of_inPort member listed names shape.port).2 mac)
  · exact absurd shape.source ((mab_shape names).2 mac)
  · exact noauth
  · obtain ⟨_, _, _, removable⟩ := tracked.shapes port.number host id (by rw [logged]; simp)
    rw [ethSrc_unique shape.source removable.shape.source] at stranger
    cases stranger.symm.trans logged

theorem Tracked.isolated (tracked : Tracked dp state) : Isolated dp state :=
  ⟨tracked.pair, tracked.mab, tracked.sessions, fun _ member _ _ _ =>
    tracked.strangers member⟩

/-- The shape of a login flow of a port. -/
theorem Tracked.removable (tracked : Tracked dp state) (member : port ∈ dp.ports)
    (logged : state.session port.number mac id ≠ none) : dp.Removable port mac id := by
  obtain ⟨other, member', same, removable⟩ := tracked.shapes port.number mac id logged
  rwa [dp.port_eq member' member same] at removable

/-- A flow that is added as it is, if at all, and that no delete reaches stays. -/
theorem Handled.stays {before after : Option FlowEntry} (handled : Handled mods id before after)
    (installed : before = some entry)
    (same : ∀ mod ∈ mods, mod.command = .add → mod.names id = true → mod.entry = entry)
    (free : ∀ mod ∈ mods, mod.reaches id = false) : after = some entry := by
  by_cases adding : Adding mods id
  · obtain ⟨mod, member, isAdd, names, after⟩ := handled.added adding
    rw [after, same mod member isAdd names]
  · rw [handled.kept adding free, installed]

/-- What is neither added nor gone was there before. -/
theorem Handled.earlier {before after : Option FlowEntry} (handled : Handled mods id before after)
    (notAdding : ¬ Adding mods id) (installed : after = some entry) : before = some entry := by
  rcases handled.older notAdding with same | gone
  · exact same.symm.trans installed
  · cases gone.symm.trans installed

end Invariant

end Faucet.Dot1x
