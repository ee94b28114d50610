import Faucet.Dot1x.Flows

/-!
# What the messages for a signal are about

Every message is an add or a delete in the port ACL table (`AclMod`). The flows that a
login adds have the port and the MAC address in their match (`mem_addAuthenticated`),
the deletes of a log-off as well (`mem_delAuthenticated`), and the flows and deletes of
the noauth ACL have the port (`mem_noauthFlows`).
-/

set_option autoImplicit false

namespace Faucet.Dot1x

open OpenFlow

/-! ## Single messages -/

theorem names_iff {mod : FlowMod} {id : FlowId} : mod.names id = true ↔
    mod.tableId = id.tableId ∧ mod.priority = id.priority ∧ mod.matchFields = id.matchFields := by
  simp [FlowMod.names, and_assoc]

/-- An add to the table, or a delete in it whatever the flows output to. -/
structure AclMod (table : AclTable) (mod : FlowMod) : Prop where
  inTable : mod.tableId = table.tableId
  kind : mod.command = .add ∨ mod.isFlowdel = true ∧ mod.outPort = none

namespace AclTable

variable (table : AclTable) (fields : Match) (priority : Nat)

theorem aclMod_flowmod (instructions : List Instruction) (cookie : Option Nat) :
    AclMod table (table.flowmod fields priority instructions cookie) := ⟨rfl, .inl rfl⟩

theorem aclMod_flowdel (strict : Bool) : AclMod table (table.flowdel fields priority strict) :=
  ⟨rfl, .inr ⟨by cases strict <;> rfl, rfl⟩⟩

theorem flowdel_command_ne (strict : Bool) :
    (table.flowdel fields priority strict).command ≠ .add := by
  cases strict <;> nofun

variable {table fields priority} {id : FlowId}

theorem reaches_flowdel (inTable : id.tableId = table.tableId) :
    (table.flowdel fields priority false).reaches id = fields.covers id.matchFields := by
  simp [FlowMod.reaches, flowdel, inTable]

theorem covers_of_reaches {strict : Bool}
    (reaches : (table.flowdel fields priority strict).reaches id = true) :
    fields.covers id.matchFields = true := by
  cases strict with
  | false =>
      rw [FlowMod.reaches, Bool.and_eq_true] at reaches
      exact reaches.2
  | true =>
      simp only [FlowMod.reaches, flowdel, if_true, Bool.and_eq_true, beq_iff_eq] at reaches
      rw [reaches.2.2]
      exact Match.covers_self

/-- A delete reaches the flow that an add of its match and priority names. -/
theorem reaches_of_names {mod : FlowMod} (strict : Bool) (names : mod.names id = true)
    (inTable : id.tableId = table.tableId) :
    (table.flowdel mod.matchFields mod.priority strict).reaches id = true := by
  obtain ⟨_, priority, fields⟩ := names_iff.mp names
  cases strict with
  | false =>
      rw [reaches_flowdel inTable, fields]
      exact Match.covers_self
  | true => simp [FlowMod.reaches, flowdel, inTable, priority, fields]

end AclTable

/-! ## The flows of an ACL -/

section Acl

variable {dp : Dp} {acl : Acl} {portNum : PortNo} {mac : Option Mac} {flows : List FlowMod}
  {flow : FlowMod}

/-- What is known of a flow of an ACL. -/
structure AclFlow (table : AclTable) (portNum : PortNo) (mac : Option Mac) (flow : FlowMod) :
    Prop where
  isAdd : flow.command = .add
  inTable : flow.tableId = table.tableId
  low : flow.priority ≤ authPriority
  port : inPort portNum ∈ flow.matchFields.items
  source : ∀ host, mac = some host → ethSrc host ∈ flow.matchFields.items

theorem withMac_flowmod {fields : Match} {priority : Nat} {instructions : List Instruction}
    {cookie : Option Nat} (low : priority ≤ authPriority)
    (given : dp.withMac mac (.flowMod (dp.portAclTable.flowmod (fields.set (inPort portNum))
      priority instructions cookie)) = some flow) :
    AclFlow dp.portAclTable portNum mac flow ∧ flow.priority = priority := by
  obtain ⟨changed, encoded, rfl⟩ := Option.map_eq_some_iff.mp given
  cases mac with
  | none =>
      cases encoded
      exact ⟨⟨rfl, rfl, low, Match.mem_set_self, nofun⟩, rfl⟩
  | some host =>
      rw [Dp.addMacAddressToMatch] at encoded
      split at encoded
      next =>
        cases encoded
        refine ⟨⟨rfl, rfl, low, Match.mem_set.mpr (.inr ⟨Match.mem_set_self, nofun⟩), ?_⟩, rfl⟩
        intro other same
        cases same
        exact Match.mem_set_self
      next => cases encoded

/-- The flows of the rules from an index on: a later rule has a lower priority, unless
the ACL is for exact matches. -/
theorem mapM_buildRulesOfmsgs {exactMatch : Bool} {rules : List AclRule} {index : Nat}
    {ofmsgs : List Ofmsg}
    (built : dp.portAclTable.buildRulesOfmsgs authPriority exactMatch portNum rules index =
      some ofmsgs)
    (given : ofmsgs.mapM (dp.withMac mac) = some flows) :
    (∀ flow ∈ flows, AclFlow dp.portAclTable portNum mac flow ∧
        if exactMatch then flow.priority = authPriority else flow.priority + index ≤ authPriority) ∧
      (exactMatch = false → flows.Pairwise fun first second => second.priority < first.priority) := by
  induction rules generalizing index ofmsgs flows with
  | nil =>
      cases built
      cases given
      exact ⟨nofun, fun _ => .nil⟩
  | cons rule rest ih =>
      rw [AclTable.buildRulesOfmsgs] at built
      obtain ⟨first, builtFirst, built⟩ := Option.bind_eq_some_iff.mp built
      obtain ⟨others, builtOthers, built⟩ := Option.bind_eq_some_iff.mp built
      cases built
      rw [AclTable.buildRuleOfmsgs] at builtFirst
      split at builtFirst
      next allowed =>
        cases builtFirst
        rw [List.mapM_append, List.mapM_append, List.mapM_cons, List.mapM_nil] at given
        obtain ⟨before, givenBefore, given⟩ := Option.bind_eq_some_iff.mp given
        obtain ⟨groups, givenGroups, givenBefore⟩ := Option.bind_eq_some_iff.mp givenBefore
        obtain ⟨last, givenLast, givenBefore⟩ := Option.bind_eq_some_iff.mp givenBefore
        obtain ⟨flow, givenFlow, givenLast⟩ := Option.bind_eq_some_iff.mp givenLast
        obtain ⟨later, givenLater, given⟩ := Option.bind_eq_some_iff.mp given
        cases givenLast
        cases givenBefore
        cases given
        -- the message of a group has no match
        have noGroups : groups = [] := by
          cases groupMods : rule.groups with
          | nil =>
              rw [groupMods] at givenGroups
              cases givenGroups
              rfl
          | cons group more =>
              rw [groupMods] at givenGroups
              cases givenGroups
        subst noGroups
        obtain ⟨ruleFlow, priority⟩ := withMac_flowmod (by split <;> omega) givenFlow
        obtain ⟨laterFlows, ordered⟩ := ih builtOthers givenLater
        rw [Bool.and_eq_true, Bool.or_eq_true, decide_eq_true_eq] at allowed
        constructor
        · intro other member
          rcases List.mem_cons.mp member with same | member
          · subst same
            refine ⟨ruleFlow, ?_⟩
            cases exactMatch with
            | true => simpa using priority
            | false =>
                simp only [Bool.false_eq_true, false_or, if_false] at allowed priority ⊢
                omega
          · obtain ⟨laterFlow, bound⟩ := laterFlows other member
            refine ⟨laterFlow, ?_⟩
            cases exactMatch with
            | true => simpa using bound
            | false =>
                simp only [Bool.false_eq_true, if_false] at bound ⊢
                omega
        · intro notExact
          subst notExact
          refine List.pairwise_cons.mpr ⟨fun other member => ?_, ordered rfl⟩
          have bound := (laterFlows other member).2
          simp only [Bool.false_eq_true, false_or, if_false] at allowed priority bound
          omega
      next => cases builtFirst

theorem addPortAcl_flows (added : dp.addPortAcl acl portNum mac = some flows) :
    (∀ flow ∈ flows, AclFlow dp.portAclTable portNum mac flow) ∧
      (flows.filter fun flow => flow.priority = lowPriority).length ≤ 1 := by
  obtain ⟨ofmsgs, built, given⟩ := Option.bind_eq_some_iff.mp added
  obtain ⟨aclFlows, ordered⟩ := mapM_buildRulesOfmsgs built given
  refine ⟨fun flow member => (aclFlows flow member).1, ?_⟩
  cases exactMatch : acl.exactMatch with
  | true =>
      rw [List.filter_eq_nil_iff.mpr]
      · exact Nat.zero_le _
      · intro flow member
        have priority := (aclFlows flow member).2
        rw [exactMatch, if_pos rfl] at priority
        rw [priority]
        decide
  | false =>
      have sorted := (ordered exactMatch).filter fun flow => flow.priority = lowPriority
      have low : ∀ flow ∈ flows.filter fun flow => flow.priority = lowPriority,
          flow.priority = lowPriority :=
        fun flow member => of_decide_eq_true (List.mem_filter.mp member).2
      revert sorted low
      generalize flows.filter (fun flow => flow.priority = lowPriority) = lowest
      intro sorted low
      match lowest with
      | [] => exact Nat.zero_le _
      | [_] => exact Nat.le_refl _
      | first :: second :: _ =>
          have lower := (List.pairwise_cons.mp sorted).1 second List.mem_cons_self
          have firstLow := low first List.mem_cons_self
          have secondLow := low second (List.mem_cons_of_mem _ List.mem_cons_self)
          omega

/-- The deletes of an ACL are those of its flows. -/
theorem delPortAcl_flows {dels : List FlowMod} (deleted : dp.delPortAcl acl portNum mac = some dels) :
    ∃ flows, dp.addPortAcl acl portNum mac = some flows ∧
      dels = flows.map fun flow => dp.portAclTable.flowdel flow.matchFields flow.priority false := by
  obtain ⟨flows, added, rfl⟩ := Option.map_eq_some_iff.mp deleted
  exact ⟨flows, added, rfl⟩

theorem AclFlow.aclMod {table : AclTable} (aclFlow : AclFlow table portNum mac flow) :
    AclMod table flow := ⟨aclFlow.inTable, .inl aclFlow.isAdd⟩

end Acl

/-! ## The flows of logins -/

/-- A flow of the table with the port and the MAC address in its match. -/
structure LoginShape (table : AclTable) (portNum : PortNo) (mac : Mac) (id : FlowId) : Prop where
  inTable : id.tableId = table.tableId
  port : inPort portNum ∈ id.matchFields.items
  source : ethSrc mac ∈ id.matchFields.items

theorem AclFlow.loginShape {table : AclTable} {portNum : PortNo} {mac : Mac} {flow : FlowMod}
    {id : FlowId} (aclFlow : AclFlow table portNum (some mac) flow) (names : flow.names id = true) :
    LoginShape table portNum mac id := by
  obtain ⟨inTable, _, fields⟩ := names_iff.mp names
  refine ⟨Fin.ext (inTable.symm.trans aclFlow.inTable), ?_, ?_⟩
  · exact fields ▸ aclFlow.port
  · exact fields ▸ aclFlow.source mac rfl

namespace Dp

variable (dp : Dp) (port : Port) (mac : Mac)

/-- The flows of the noauth ACL on the port. -/
def noauthFlows : List FlowMod := (dp.addUnauthenticatedFlowmod port).getD []

/-- The flows of the auth ACL for a MAC address on the port. -/
def authFlows : List FlowMod :=
  ((dp.getAcl dp.authAclName).bind fun acl => dp.addPortAcl acl port.number (some mac)).getD []

/-- A login flow that a log-off at a port of this kind is meant for. -/
structure Removable (id : FlowId) : Prop where
  shape : LoginShape dp.portAclTable port.number mac id
  byAcl : port.dot1xAcl = true → ∃ flow ∈ dp.authFlows port mac, flow.names id = true
  plain : port.dot1xAcl = false → port.dot1xDynAcl = false →
    ∃ flow ∈ dp.addAuthedMac port.number mac, flow.names id = true

variable {dp port mac} {flows dels : List FlowMod} {flow del : FlowMod} {id : FlowId}

theorem noauthFlows_spec :
    (∀ flow ∈ dp.noauthFlows port, AclFlow dp.portAclTable port.number none flow) ∧
      ((dp.noauthFlows port).filter fun flow => flow.priority = lowPriority).length ≤ 1 := by
  rw [noauthFlows]
  cases added : dp.addUnauthenticatedFlowmod port with
  | none => exact ⟨nofun, Nat.zero_le _⟩
  | some flows =>
      rw [addUnauthenticatedFlowmod] at added
      split at added
      next =>
        obtain ⟨acl, _, added⟩ := Option.bind_eq_some_iff.mp added
        exact addPortAcl_flows added
      next =>
        cases added
        exact ⟨nofun, Nat.zero_le _⟩

theorem mem_noauthFlows (member : flow ∈ dp.noauthFlows port) :
    AclFlow dp.portAclTable port.number none flow := noauthFlows_spec.1 flow member

theorem addUnauthenticated_eq (added : dp.addUnauthenticatedFlowmod port = some flows) :
    flows = dp.noauthFlows port := by
  rw [noauthFlows, added]
  rfl

/-- The deletes of the noauth ACL are those of its flows. -/
theorem delUnauthenticated_eq (deleted : dp.delUnauthenticatedFlowmod port = some dels) :
    dels = (dp.noauthFlows port).map fun flow =>
      dp.portAclTable.flowdel flow.matchFields flow.priority false := by
  rw [delUnauthenticatedFlowmod] at deleted
  rw [noauthFlows, addUnauthenticatedFlowmod]
  split at deleted
  next byAcl =>
    obtain ⟨acl, found, deleted⟩ := Option.bind_eq_some_iff.mp deleted
    obtain ⟨flows, added, rfl⟩ := delPortAcl_flows deleted
    rw [if_pos byAcl, found, Option.bind_some, added]
    rfl
  next notAcl =>
    cases deleted
    rw [if_neg notAcl]
    rfl

theorem authedMac_items : inPort port.number ∈ (authedMacMatch port.number mac).items ∧
    ethSrc mac ∈ (authedMacMatch port.number mac).items :=
  ⟨Match.mem_set.mpr (.inr ⟨Match.mem_set_self, nofun⟩), Match.mem_set_self⟩

theorem authedMac_covers (shape : LoginShape dp.portAclTable port.number mac id) :
    (authedMacMatch port.number mac).covers id.matchFields = true := by
  refine Match.covers_iff.mpr fun field member => ?_
  rcases Match.mem_set.mp member with same | ⟨earlier, _⟩
  · exact ⟨_, shape.source, (Match.covers_exact (same ▸ rfl)).mpr same.symm⟩
  · rcases Match.mem_set.mp earlier with same | ⟨none, _⟩
    · exact ⟨_, shape.port, (Match.covers_exact (same ▸ rfl)).mpr same.symm⟩
    · cases none

theorem addAuthedMac_aclFlow (member : flow ∈ dp.addAuthedMac port.number mac) :
    AclFlow dp.portAclTable port.number (some mac) flow := by
  cases List.mem_singleton.mp member
  exact ⟨rfl, rfl, Nat.le_refl _, authedMac_items.1, fun host same =>
    Option.some.inj same ▸ authedMac_items.2⟩

/-- A login installs flows of the MAC address, which a log-off removes. -/
theorem addAuthenticated_flows {aclName : Option String}
    (added : dp.addAuthenticatedFlowmod port mac aclName = some flows) :
    (∀ flow ∈ flows, AclFlow dp.portAclTable port.number (some mac) flow) ∧
      (port.dot1xAcl = true → flows = dp.authFlows port mac) ∧
      (port.dot1xAcl = false → port.dot1xDynAcl = false →
        flows = dp.addAuthedMac port.number mac) := by
  rw [addAuthenticatedFlowmod] at added
  split at added
  next acl dyn found =>
    refine ⟨(addPortAcl_flows added).1, fun byAcl => ?_, fun _ notDyn => ?_⟩
    · cases byAcl.symm.trans (port.dynAlone dyn).1
    · cases notDyn.symm.trans dyn
  next =>
    split at added
    next byAcl =>
      obtain ⟨acl, found, byName⟩ := Option.bind_eq_some_iff.mp added
      refine ⟨(addPortAcl_flows byName).1, fun _ => ?_, fun notAcl => ?_⟩
      · rw [authFlows, added]
        rfl
      · cases notAcl.symm.trans byAcl
    next notAcl =>
      cases added
      exact ⟨fun flow => addAuthedMac_aclFlow, fun byAcl => absurd byAcl notAcl, fun _ _ => rfl⟩

/-- What a log-off removes has the port and the MAC address in its match. -/
theorem mem_delAuthenticated (deleted : dp.delAuthenticatedFlowmod port mac = some dels)
    (member : del ∈ dels) :
    ∃ fields priority strict, del = dp.portAclTable.flowdel fields priority strict ∧
      inPort port.number ∈ fields.items ∧ ethSrc mac ∈ fields.items := by
  rw [delAuthenticatedFlowmod] at deleted
  split at deleted
  next =>
    obtain ⟨acl, _, deleted⟩ := Option.bind_eq_some_iff.mp deleted
    obtain ⟨flows, added, rfl⟩ := delPortAcl_flows deleted
    obtain ⟨flow, present, rfl⟩ := List.mem_map.mp member
    have aclFlow := (addPortAcl_flows added).1 flow present
    exact ⟨_, _, _, rfl, aclFlow.port, aclFlow.source mac rfl⟩
  next =>
    cases deleted
    cases List.mem_singleton.mp member
    exact ⟨_, _, _, rfl, authedMac_items⟩

/-- A log-off has a delete for each flow that it is meant for. -/
theorem exists_delAuthenticated (deleted : dp.delAuthenticatedFlowmod port mac = some dels)
    (removable : dp.Removable port mac id) :
    ∃ del ∈ dels, del.reaches id = true ∧ del.outPort = none ∧
      (port.dot1xAcl = true → del.matchFields = id.matchFields ∧ del.priority = id.priority) := by
  rw [delAuthenticatedFlowmod] at deleted
  split at deleted
  next byAcl =>
    obtain ⟨acl, found, deleted⟩ := Option.bind_eq_some_iff.mp deleted
    obtain ⟨flows, added, rfl⟩ := delPortAcl_flows deleted
    obtain ⟨flow, present, names⟩ := removable.byAcl byAcl
    rw [authFlows, found, Option.bind_some, added] at present
    refine ⟨_, List.mem_map_of_mem present, ?_, rfl, fun _ => ?_⟩
    · exact AclTable.reaches_of_names false names removable.shape.inTable
    · exact ⟨(names_iff.mp names).2.2, (names_iff.mp names).2.1⟩
  next notAcl =>
    cases deleted
    refine ⟨_, List.mem_singleton_self _, ?_, rfl, fun byAcl => absurd byAcl notAcl⟩
    cases dyn : port.dot1xDynAcl with
    | true =>
        rw [Bool.not_true, AclTable.reaches_flowdel removable.shape.inTable]
        exact authedMac_covers removable.shape
    | false =>
        obtain ⟨flow, present, names⟩ := removable.plain (Bool.eq_false_iff.mpr notAcl) dyn
        cases List.mem_singleton.mp present
        exact AclTable.reaches_of_names true names removable.shape.inTable

/-! ## The flows of ports -/

theorem mem_eapol : inPort port.number ∈ (eapolMatch port.number).items ∧
    ∀ host, ethSrc host ∉ (eapolMatch port.number).items := by
  constructor
  · exact Match.mem_set.mpr (.inr ⟨Match.mem_set_self, nofun⟩)
  · intro host member
    simp [eapolMatch, Match.ofFields, Match.mem_set, Match.any, ethSrc, inPort, ethType] at member

theorem mem_mab : inPort port.number ∈ (mabMatch port.number).items ∧
    ∀ host, ethSrc host ∉ (mabMatch port.number).items := by
  constructor
  · simp [mabMatch, Match.ofFields, Match.mem_set, Match.any, inPort, ethType, nwProto, udpSrc,
      udpDst]
  · intro host member
    simp [mabMatch, Match.ofFields, Match.mem_set, Match.any, ethSrc, inPort, ethType, nwProto,
      udpSrc, udpDst] at member

theorem mem_nfvEapol (host : Mac) : inPort dp.nfvSwPort ∈ (dp.nfvEapolMatch host).items ∧
    ethSrc host ∈ (dp.nfvEapolMatch host).items := by
  simp [nfvEapolMatch, Match.ofFields, Match.mem_set, inPort, ethType, ethSrc]

theorem aclMod_pair {mod : FlowMod} (member : mod ∈ dp.createDot1xFlowPair port.number) :
    AclMod dp.portAclTable mod ∧ mod.command = .add ∧ mod.priority = overridePriority := by
  rw [createDot1xFlowPair, List.mem_pair] at member
  rcases member with same | same
  · subst same
    exact ⟨AclTable.aclMod_flowmod _ _ _ _ _, rfl, rfl⟩
  · subst same
    exact ⟨AclTable.aclMod_flowmod _ _ _ _ _, rfl, rfl⟩

/-! ## All messages -/

theorem aclMod_noauthDels {mod : FlowMod} (deleted : dp.delUnauthenticatedFlowmod port = some dels)
    (member : mod ∈ dels) : AclMod dp.portAclTable mod := by
  rw [delUnauthenticated_eq deleted] at member
  obtain ⟨flow, _, rfl⟩ := List.mem_map.mp member
  exact AclTable.aclMod_flowdel _ _ _ _

theorem aclMod_delAuthenticated {mod : FlowMod}
    (deleted : dp.delAuthenticatedFlowmod port mac = some dels) (member : mod ∈ dels) :
    AclMod dp.portAclTable mod := by
  obtain ⟨fields, priority, strict, rfl, _⟩ := mem_delAuthenticated deleted member
  exact AclTable.aclMod_flowdel _ _ _ _

theorem aclMod_portUp {mods : List FlowMod} (emitted : dp.portUp port = some mods) {mod : FlowMod}
    (member : mod ∈ mods) : AclMod dp.portAclTable mod := by
  rw [portUp] at emitted
  split at emitted
  next =>
    obtain ⟨noauth, added, emitted⟩ := Option.bind_eq_some_iff.mp emitted
    cases emitted
    rcases List.mem_append.mp member with member | member
    · rcases List.mem_append.mp member with pair | unauthenticated
      · exact (aclMod_pair pair).1
      · rw [addUnauthenticated_eq added] at unauthenticated
        exact (mem_noauthFlows unauthenticated).aclMod
    · split at member
      · cases List.mem_singleton.mp member
        exact AclTable.aclMod_flowmod _ _ _ _ _
      · cases member
  next =>
    cases emitted
    cases member

theorem aclMod_portDown {mods : List FlowMod} (emitted : dp.portDown port = some mods)
    {mod : FlowMod} (member : mod ∈ mods) : AclMod dp.portAclTable mod := by
  rw [portDown] at emitted
  split at emitted
  next =>
    cases emitted
    cases member
  next =>
    obtain ⟨authenticated, deleted, emitted⟩ := Option.bind_eq_some_iff.mp emitted
    obtain ⟨unauthenticated, deleted', emitted⟩ := Option.bind_eq_some_iff.mp emitted
    cases emitted
    simp only [List.mem_append, delPort, delMabFlow, delDot1xFlowPair] at member
    rcases member with (((member | member) | member) | member) | member
    · split at member
      · cases member
      · cases List.mem_singleton.mp member
        exact AclTable.aclMod_flowdel _ _ _ _
    · exact aclMod_delAuthenticated deleted member
    · exact aclMod_noauthDels deleted' member
    · cases List.mem_singleton.mp member
      exact AclTable.aclMod_flowdel _ _ _ _
    · rcases List.mem_pair.mp member with same | same
      · exact same ▸ AclTable.aclMod_flowdel _ _ _ _
      · exact same ▸ AclTable.aclMod_flowdel _ _ _ _

/-- Every message for a signal is an add or a delete in the port ACL table. -/
theorem aclMod_messages {state : State} {signal : Signal} {mods : List FlowMod}
    (emitted : dp.messages state signal = some mods) {mod : FlowMod} (member : mod ∈ mods) :
    AclMod dp.portAclTable mod := by
  cases signal with
  | portUp port =>
      rw [messages] at emitted
      split at emitted
      next =>
        cases emitted
        cases member
      next => exact aclMod_portUp emitted member
  | portDown port =>
      rw [messages] at emitted
      split at emitted
      next => exact aclMod_portDown emitted member
      next =>
        cases emitted
        cases member
  | nfvSwPortUp =>
      cases emitted
      obtain ⟨port, _, pair⟩ := List.mem_flatMap.mp member
      exact (aclMod_pair pair).1
  | login port mac aclName =>
      obtain ⟨unauthenticated, deleted, emitted⟩ := Option.bind_eq_some_iff.mp emitted
      obtain ⟨authenticated, added, emitted⟩ := Option.bind_eq_some_iff.mp emitted
      cases emitted
      rcases List.mem_append.mp member with member | member
      · exact aclMod_noauthDels deleted member
      · exact ((addAuthenticated_flows added).1 mod member).aclMod
  | logoff port mac | failure port mac =>
      obtain ⟨authenticated, deleted, emitted⟩ := Option.bind_eq_some_iff.mp emitted
      obtain ⟨unauthenticated, added, emitted⟩ := Option.bind_eq_some_iff.mp emitted
      cases emitted
      rcases List.mem_append.mp member with member | member
      · exact aclMod_delAuthenticated deleted member
      · rw [addUnauthenticated_eq added] at member
        exact (mem_noauthFlows member).aclMod

end Dp

end Faucet.Dot1x
