import Faucet.Acl.Placements
import Faucet.Acl.Sharing
import Faucet.OpenFlow.GroupReferences

/-!
# The first rule that matches

A packet is treated by the flow of its table that has the highest priority of those that
accept it. For the lists of ACLs that is meant to be the first rule, in the order of all
lists at the place, that covers the packet, and to drop the packet when there is none
(`FirstMatch`).

The priorities are counted down from a fixed one, however many rules there are, and flows
may share their instructions. So all is as it is meant to be exactly when the lists are not
too long, the rules pass the checks of their table, none of them names another VLAN under
its old name, and no rule that decides loses actions to a call of `flowmod` that trims them
in place (`firstMatch_iff`).
-/

set_option autoImplicit false

namespace Faucet.Acl

open OpenFlow FirstMatch

/-! ## Packets -/

/-- The fields that a packet has. -/
abbrev Packet := ℕ → Option ℕ

namespace Packet

variable (packet : Packet)

/-- The packet has the field, as far as the mask asks for it. -/
def hasField (field : OxmField) : Bool :=
  match packet field.field, field.mask with
  | none, _ => false
  | some value, none => value == field.value
  | some value, some mask => value &&& mask == field.value &&& mask

/-- The packet has all fields of the match. -/
def accepted (fields : Match) : Bool := fields.items.all packet.hasField

end Packet

/-- The flow is one of the highest priority that accept the packet. -/
structure Selects (table : Fin 255) (switch : Switch) (packet : Packet) (flow : FlowId)
    (entry : FlowEntry) : Prop where
  inTable : flow.tableId = table
  present : switch.flows flow = some entry
  accepts : packet.accepted flow.matchFields = true
  best : ∀ other, other.tableId = table → switch.flows other ≠ none →
    packet.accepted other.matchFields = true → other.priority ≤ flow.priority

/-! ## What is meant -/

/-- The packet is at the place. -/
def Context.has (context : Context) (packet : Packet) : Prop :=
  packet.accepted context.place = true

namespace Placement

variable (placement : Placement)

/-- The instructions of a rule. -/
def instructions (rule : RuleConf) : Option (List Instruction) := do
  let entry ← buildAclEntry rule placement.context
  let trimmed ← placement.table.trimInst entry.inst
  some (trimmed.map Inst.wire)

/-- The first rule that covers the packet decides; without one it is dropped. -/
def verdict (packet : Packet) : Option (List Instruction) :=
  match placement.rules.find? fun rule => packet.accepted (rule.intended placement.context) with
  | some rule => placement.instructions rule
  | none => some []

/-- What becomes of the packet when flows share instructions. -/
def treatment {calls : List (List Inst)} (memo : Memo calls) (packet : Packet) :
    Option (List Instruction) :=
  match placement.rules.find? fun rule => packet.accepted (rule.intended placement.context) with
  | some rule => (placement.instructions rule).map memo.instructions
  | none => some []

/-- The rule is the first one for some packet at the place. -/
def Decides (rule : RuleConf) : Prop :=
  ∃ packet, placement.context.has packet ∧
    placement.rules.find? (fun rule => packet.accepted (rule.intended placement.context)) =
      some rule

/-- The flows of a list: they match what the rules are meant to, with decreasing
priorities above that of the default. -/
structure Ordered (lowestPriority : ℕ) (mods : List FlowMod) : Prop where
  fields : mods.map (·.matchFields) = placement.rules.map (·.intended placement.context)
  decreasing : mods.Pairwise fun first later => later.priority < first.priority
  legal : ∀ mod ∈ mods, lowestPriority < mod.priority ∧ mod.priority ≤ 65535

end Placement

namespace AclManager

variable (manager : AclManager)

/-- The ACL tables of the datapath. -/
def tables : List AclTable :=
  manager.portAclTable.toList ++ manager.vlanAclTable.toList ++ manager.egressAclTable.toList

/-- The instructions that `flowmod` is called with for the parts. -/
def requests (ports : List Port) (vlans : List Vlan) : List (List Inst) :=
  (manager.parts ports vlans).flatMap fun
    | .list placement => placement.rules.filterMap fun rule =>
        (buildAclEntry rule placement.context).map (·.inst)
    | .allow _ context => [[.gotoTable context.allowTable]]

/-- All calls of `flowmod`: those for the parts, and others. -/
def calls (ports : List Port) (vlans : List Vlan) (others : List (List Inst)) :
    List (List Inst) :=
  manager.requests ports vlans ++ others

/-- The batch of a start: it clears the switch, each ACL table gets its default, and the
manager's messages are all that there is about these tables. -/
structure ColdStart (lowestPriority : ℕ) (own input : List Ofmsg) : Prop where
  clears : ∃ mod, .flowMod mod ∈ input ∧ mod.isGlobalFlowdel = true ∧ mod.command = .delete ∧
    mod.outPort = none
  sent : own ⊆ input
  defaults : ∀ table ∈ manager.tables, .flowMod (table.defaultDrop lowestPriority) ∈ input
  others : ∀ table ∈ manager.tables, ∀ mod, .flowMod mod ∈ input → mod.isFlowdel = false →
    mod.tableId = table.tableId.val →
      mod = table.defaultDrop lowestPriority ∨ .flowMod mod ∈ own

/-- **ACLs mean first match**: the messages are built, with flows in order for each list,
and after the start a packet gets what its first rule says, whatever instructions the flows
share with those of the other calls. -/
def FirstMatch (lowestPriority : ℕ) (ports : List Port) (vlans : List Vlan)
    (others : List (List Inst)) : Prop :=
  ∃ own, manager.messages ports vlans = some own ∧
    ∀ placement, .list placement ∈ manager.parts ports vlans →
      (∃ built, placement.ofmsgs = some built ∧
        placement.Ordered lowestPriority (built.filterMap Ofmsg.flowMod?)) ∧
      ∀ (memo : Memo (manager.calls ports vlans others)) shuffle useBarriers switch input,
        manager.ColdStart lowestPriority (own.map (ofmsgWith memo)) input →
          ∃ next, Switch.deliver shuffle useBarriers switch input = some next ∧
            ∀ packet, placement.context.has packet →
              (∃ flow entry, Selects placement.table.tableId next packet flow entry) ∧
                ∀ flow entry, Selects placement.table.tableId next packet flow entry →
                  placement.verdict packet = some entry.instructions

/-! ## When it is so -/

/-- What the configuration promises of a datapath whose ACLs are not for exact matches. -/
structure Configured (ports : List Port) (vlans : List Vlan) : Prop where
  tables : manager.HasTables vlans
  portVlan : ∀ first ∈ manager.portAclTable, ∀ second ∈ manager.vlanAclTable,
    first.tableId ≠ second.tableId
  portEgress : ∀ first ∈ manager.portAclTable, ∀ second ∈ manager.egressAclTable,
    first.tableId ≠ second.tableId
  vlanEgress : ∀ first ∈ manager.vlanAclTable, ∀ second ∈ manager.egressAclTable,
    first.tableId ≠ second.tableId
  numbers : (ports.map (·.number)).Nodup
  vids : (vlans.map (·.vid)).Nodup
  legalVids : ∀ vlan ∈ vlans, vlan.vid < 4096
  plain : ∀ placement, .list placement ∈ manager.parts ports vlans →
    placement.exactMatch = false

/-- The lists are short enough, and their rules are good for their table. -/
structure Fits (lowestPriority : ℕ) (ports : List Port) (vlans : List Vlan) : Prop where
  room : ∀ placement, .list placement ∈ manager.parts ports vlans →
    lowestPriority + placement.rules.length ≤ aclPriority
  ownVlan : ∀ placement, .list placement ∈ manager.parts ports vlans →
    ∀ rule ∈ placement.rules, rule.OwnVlan placement.context
  verified : ∀ placement, .list placement ∈ manager.parts ports vlans →
    ∀ rule ∈ placement.rules, placement.table.verifies (rule.intended placement.context) = true
  instructed : ∀ placement, .list placement ∈ manager.parts ports vlans →
    ∀ rule ∈ placement.rules, ∃ instructions, placement.instructions rule = some instructions
  allows : ∀ table context, .allow table context ∈ manager.parts ports vlans →
    table.verifies context.place = true

/-- No rule that decides sends packets on with actions that lose some when a call of
`flowmod` trims them in place. -/
def Unshared (ports : List Port) (vlans : List Vlan) (others : List (List Inst)) : Prop :=
  ∀ placement, .list placement ∈ manager.parts ports vlans → ∀ rule, placement.Decides rule →
    ∀ entry, buildAclEntry rule placement.context = some entry →
      entry.inst.any Inst.isGoto = true → ∀ actions, .applyActions actions ∈ entry.inst →
        TrimmedInPlace (manager.calls ports vlans others) actions →
        trimLoop [] [] actions = actions

end AclManager

/-! ## Places -/

section Places

variable {context : Context} {packet : Packet} {fields : Match}

theorem Packet.accepted_iff : packet.accepted fields = true ↔
    ∀ field ∈ fields.items, packet.hasField field = true := by
  rw [Packet.accepted, List.all_eq_true]

theorem Packet.hasField_exact {kind value : ℕ} :
    packet.hasField ⟨kind, value, none⟩ = true ↔ packet kind = some value := by
  rw [Packet.hasField]
  cases packet kind <;> simp

theorem Context.has_iff : context.has packet ↔
    (∀ port ∈ context.portNum, packet inPort = some port) ∧
      ∀ vid ∈ context.vid, packet vlanVid = some (vidPresent vid) := by
  rw [Context.has, Context.place, Context.placed, Packet.accepted_iff]
  cases context.portNum with
  | none =>
      cases context.vid with
      | none => simp [portMatch, vlanMatch, Match.any]
      | some vid => simp [portMatch, vlanMatch, Match.mem_set, Match.any, Packet.hasField_exact]
  | some port =>
      cases context.vid with
      | none => simp [portMatch, vlanMatch, Match.mem_set, Match.any, Packet.hasField_exact]
      | some vid =>
          have items : ∀ field, field ∈ (vlanMatch (some vid) (portMatch (some port) .any)).items ↔
              field = ⟨inPort, port, none⟩ ∨ field = ⟨vlanVid, vidPresent vid, none⟩ := by
            intro field
            simp only [vlanMatch, portMatch, Match.mem_set, Match.any]
            constructor
            · rintro (rfl | ⟨rfl | ⟨member, _⟩, _⟩)
              · exact .inr rfl
              · exact .inl rfl
              · cases member
            · rintro (rfl | rfl)
              · exact .inr ⟨.inl rfl, Nat.zero_ne_add_one 5⟩
              · exact .inl rfl
          simp [items, Packet.hasField_exact]

/-- What a match at a place accepts is at the place. -/
theorem Context.has_of_placed (accepts : packet.accepted (context.placed fields) = true) :
    context.has packet := by
  rw [Context.has_iff]
  rw [Context.placed, Packet.accepted_iff] at accepts
  cases vlan : context.vid with
  | none =>
      refine ⟨fun port isPort => ?_, by simp⟩
      rw [vlan, Option.mem_def.mp isPort] at accepts
      exact Packet.hasField_exact.mp (accepts _ Match.mem_set_self)
  | some vid =>
      rw [vlan] at accepts
      refine ⟨fun port isPort => ?_, fun vid' same => ?_⟩
      · rw [Option.mem_def.mp isPort] at accepts
        exact Packet.hasField_exact.mp (accepts _ (Match.mem_set.mpr
          (.inr ⟨Match.mem_set_self, Nat.zero_ne_add_one 5⟩)))
      · cases same
        exact Packet.hasField_exact.mp (accepts _ Match.mem_set_self)

end Places

/-! ## Flows of rules -/

section Rules

variable {placement : Placement} {rule : RuleConf} {instructions : List Instruction}

theorem instructions_iff : placement.instructions rule = some instructions ↔
    ∃ entry trimmed, buildAclEntry rule placement.context = some entry ∧
      placement.table.trimInst entry.inst = some trimmed ∧
      instructions = trimmed.map Inst.wire := by
  rw [Placement.instructions, Option.bind_eq_bind, Option.bind_eq_some_iff]
  constructor
  · rintro ⟨entry, builds, rest⟩
    obtain ⟨trimmed, trims, same⟩ := Option.bind_eq_some_iff.mp rest
    cases same
    exact ⟨entry, trimmed, builds, trims, rfl⟩
  · rintro ⟨entry, trimmed, builds, trims, rfl⟩
    exact ⟨entry, builds, by rw [Option.bind_eq_bind, trims, Option.bind_some]⟩

theorem matchFields_of_builds {context : Context} {entry : AclEntry}
    (builds : buildAclEntry rule context = some entry) (ownVlan : rule.OwnVlan context) :
    entry.matchFields = rule.intended context := by
  obtain ⟨_, _, rfl⟩ := Option.map_eq_some_iff.mp builds
  exact matchDict_intended_iff.mpr ownVlan

end Rules

/-! ## The parts of a table -/

namespace AclManager

section Parts

variable {manager : AclManager} {ports : List Port} {vlans : List Vlan} {part part' : Part}
  {packet : Packet}

/-- Where a part comes from. -/
theorem part_cases (member : part ∈ manager.parts ports vlans) :
    (part ∈ manager.dpParts ∧ part.table ∈ manager.portAclTable ∧ manager.dpAcls ≠ []) ∨
    (∃ vlan ∈ vlans, part ∈ manager.vlanInParts vlan ∧ part.table ∈ manager.vlanAclTable ∧
      part.context = manager.vlanInContext vlan.vid) ∨
    (∃ vlan ∈ vlans, part ∈ manager.vlanOutParts vlan ∧ part.table ∈ manager.egressAclTable ∧
      part.context = manager.vlanOutContext vlan.vid) ∨
    ∃ port ∈ ports, part ∈ manager.portParts port ∧ part.table ∈ manager.portAclTable ∧
      manager.dpAcls = [] ∧ part.context = manager.portContext (some port.number) := by
  rw [parts, List.mem_append, List.mem_append, List.mem_flatMap, List.mem_flatMap] at member
  rcases member with (member | ⟨vlan, known, member⟩) | ⟨port, known, member⟩
  · refine .inl ⟨member, ?_⟩
    rw [dpParts] at member
    split at member
    next => cases member
    next some_acl =>
      obtain ⟨table, isTable, rfl⟩ := List.mem_map.mp member
      exact ⟨Option.mem_toList.mp isTable, some_acl⟩
  · rcases List.mem_append.mp member with member | member
    · refine .inr (.inl ⟨vlan, known, member, ?_⟩)
      rw [vlanInParts] at member
      split at member
      next => cases member
      next =>
        obtain ⟨table, isTable, rfl⟩ := List.mem_map.mp member
        exact ⟨Option.mem_toList.mp isTable, rfl⟩
    · refine .inr (.inr (.inl ⟨vlan, known, member, ?_⟩))
      obtain ⟨table, isTable, rfl⟩ := List.mem_map.mp member
      split <;> exact ⟨Option.mem_toList.mp isTable, rfl⟩
  · refine .inr (.inr (.inr ⟨port, known, member, ?_⟩))
    obtain ⟨table, allowed, member⟩ := List.mem_flatMap.mp member
    have isTable := Option.mem_toList.mp allowed
    rw [portAclsAllowed] at isTable
    split at isTable
    next noAcls =>
      rw [Bool.and_eq_true, List.isEmpty_iff] at noAcls
      split at member
      · cases List.mem_singleton.mp member
        exact ⟨isTable, noAcls.1, rfl⟩
      · split at member
        · cases List.mem_singleton.mp member
          exact ⟨isTable, noAcls.1, rfl⟩
        · cases member
    next => cases isTable

theorem table_mem_tables (member : part ∈ manager.parts ports vlans) :
    part.table ∈ manager.tables := by
  simp only [tables, List.mem_append, Option.mem_toList]
  rcases part_cases member with ⟨_, table, _⟩ | ⟨_, _, _, table, _⟩ | ⟨_, _, _, table, _⟩ |
    ⟨_, _, _, table, _⟩
  · exact .inl (.inl table)
  · exact .inl (.inr table)
  · exact .inr table
  · exact .inl (.inl table)

/-- The tables are told apart by their ids. -/
theorem table_unique (configured : manager.Configured ports vlans) {table table' : AclTable}
    (known : table ∈ manager.tables) (known' : table' ∈ manager.tables)
    (sameId : table.tableId = table'.tableId) : table = table' := by
  simp only [tables, List.mem_append, Option.mem_toList] at known known'
  rcases known with (port | vlan) | egress <;> rcases known' with (port' | vlan') | egress'
  · exact Option.some.inj (port.symm.trans port')
  · exact absurd sameId (configured.portVlan _ port _ vlan')
  · exact absurd sameId (configured.portEgress _ port _ egress')
  · exact absurd sameId.symm (configured.portVlan _ port' _ vlan)
  · exact Option.some.inj (vlan.symm.trans vlan')
  · exact absurd sameId (configured.vlanEgress _ vlan _ egress')
  · exact absurd sameId.symm (configured.portEgress _ port' _ egress)
  · exact absurd sameId.symm (configured.vlanEgress _ vlan' _ egress)
  · exact Option.some.inj (egress.symm.trans egress')

/-- A place has at most one part in a table. -/
theorem eq_of_mem_toList {α β : Type} {source : Option α} {f : α → β} {first second : β}
    (member : first ∈ source.toList.map f) (member' : second ∈ source.toList.map f) :
    first = second := by
  obtain ⟨value, isValue, rfl⟩ := List.mem_map.mp member
  obtain ⟨value', isValue', rfl⟩ := List.mem_map.mp member'
  rw [Option.mem_toList] at isValue isValue'
  cases isValue.symm.trans isValue'
  rfl

theorem dpParts_unique (member : part ∈ manager.dpParts) (member' : part' ∈ manager.dpParts) :
    part = part' := by
  rw [dpParts] at member member'
  split at member
  next => cases member
  next some_acl =>
    rw [if_neg some_acl] at member'
    exact eq_of_mem_toList member member'

theorem vlanInParts_unique {vlan : Vlan} (member : part ∈ manager.vlanInParts vlan)
    (member' : part' ∈ manager.vlanInParts vlan) : part = part' := by
  rw [vlanInParts] at member member'
  split at member
  next => cases member
  next some_acl =>
    rw [if_neg some_acl] at member'
    exact eq_of_mem_toList member member'

theorem portParts_unique {port : Port} (member : part ∈ manager.portParts port)
    (member' : part' ∈ manager.portParts port) : part = part' := by
  obtain ⟨table, allowed, member⟩ := List.mem_flatMap.mp member
  obtain ⟨table', allowed', member'⟩ := List.mem_flatMap.mp member'
  cases (Option.mem_toList.mp allowed).symm.trans (Option.mem_toList.mp allowed')
  split at member
  next some_acl =>
    rw [if_pos some_acl] at member'
    rw [List.mem_singleton.mp member, List.mem_singleton.mp member']
  next noAcls =>
    rw [if_neg noAcls] at member'
    split at member
    next plain =>
      rw [if_pos plain] at member'
      rw [List.mem_singleton.mp member, List.mem_singleton.mp member']
    next => cases member

theorem vidPresent_inj {vid vid' : ℕ} (legal : vid < 4096) (legal' : vid' < 4096)
    (same : vidPresent vid = vidPresent vid') : vid = vid' := by
  have present : ∀ vid < 4096, vidPresent vid = vid + 4096 := by
    intro vid legal
    have added : vid ||| 2 ^ 12 = vid + 2 ^ 12 := Nat.or_two_pow_eq_add_of_lt legal
    exact added
  rw [present vid legal, present vid' legal'] at same
  omega

/-- A packet is on one VLAN. -/
theorem vlan_unique (configured : manager.Configured ports vlans) {vlan vlan' : Vlan}
    (known : vlan ∈ vlans) (known' : vlan' ∈ vlans)
    (here : packet vlanVid = some (vidPresent vlan.vid))
    (here' : packet vlanVid = some (vidPresent vlan'.vid)) : vlan = vlan' := by
  have same := vidPresent_inj (configured.legalVids vlan known) (configured.legalVids vlan' known')
    (Option.some.inj (here.symm.trans here'))
  exact List.inj_on_of_nodup_map configured.vids known known' same

/-- **A packet is at the place of one part** of a table. -/
theorem part_unique (configured : manager.Configured ports vlans)
    (member : part ∈ manager.parts ports vlans) (member' : part' ∈ manager.parts ports vlans)
    (sameTable : part.table.tableId = part'.table.tableId) (here : part.context.has packet)
    (here' : part'.context.has packet) : part = part' := by
  rw [Context.has_iff] at here here'
  rcases part_cases member with ⟨source, table, acls⟩ | ⟨vlan, known, source, table, context⟩ |
    ⟨vlan, known, source, table, context⟩ | ⟨port, known, source, table, acls, context⟩
  · rcases part_cases member' with ⟨source', _, _⟩ | ⟨_, _, _, table', _⟩ |
      ⟨_, _, _, table', _⟩ | ⟨_, _, _, _, none, _⟩
    · exact dpParts_unique source source'
    · exact absurd sameTable (configured.portVlan _ table _ table')
    · exact absurd sameTable (configured.portEgress _ table _ table')
    · exact absurd none acls
  · rw [context] at here
    rcases part_cases member' with ⟨_, table', _⟩ | ⟨vlan', known', source', _, context'⟩ |
      ⟨_, _, _, table', _⟩ | ⟨_, _, _, table', _⟩
    · exact absurd sameTable.symm (configured.portVlan _ table' _ table)
    · rw [context'] at here'
      cases vlan_unique configured known known' (here.2 _ rfl) (here'.2 _ rfl)
      exact vlanInParts_unique source source'
    · exact absurd sameTable (configured.vlanEgress _ table _ table')
    · exact absurd sameTable.symm (configured.portVlan _ table' _ table)
  · rw [context] at here
    rcases part_cases member' with ⟨_, table', _⟩ | ⟨_, _, _, table', _⟩ |
      ⟨vlan', known', source', _, context'⟩ | ⟨_, _, _, table', _⟩
    · exact absurd sameTable.symm (configured.portEgress _ table' _ table)
    · exact absurd sameTable.symm (configured.vlanEgress _ table' _ table)
    · rw [context'] at here'
      cases vlan_unique configured known known' (here.2 _ rfl) (here'.2 _ rfl)
      exact eq_of_mem_toList source source'
    · exact absurd sameTable.symm (configured.portEgress _ table' _ table)
  · rw [context] at here
    rcases part_cases member' with ⟨_, _, some_acl⟩ | ⟨_, _, _, table', _⟩ |
      ⟨_, _, _, table', _⟩ | ⟨port', known', source', _, _, context'⟩
    · exact absurd acls some_acl
    · exact absurd sameTable (configured.portVlan _ table _ table')
    · exact absurd sameTable (configured.portEgress _ table _ table')
    · rw [context'] at here'
      have number : port.number = port'.number :=
        Option.some.inj ((here.1 _ rfl).symm.trans (here'.1 _ rfl))
      cases List.inj_on_of_nodup_map configured.numbers known known' number
      exact portParts_unique source source'

/-- A flow of a part is an add to its table, for packets of its place. -/
theorem flow_of_part (configured : manager.Configured ports vlans)
    (ownVlan : ∀ placement, part = .list placement →
      ∀ rule ∈ placement.rules, rule.OwnVlan placement.context)
    (member : part ∈ manager.parts ports vlans) {own : List Ofmsg} (built : part.ofmsgs = some own)
    {mod : FlowMod} (listed : .flowMod mod ∈ own) :
    mod.command = .add ∧ mod.tableId = part.table.tableId.val ∧
      (packet.accepted mod.matchFields = true → part.context.has packet) ∧
      ∀ placement, part = .list placement →
        ∃ entry ∈ numbered aclPriority placement.rules, placement.FlowOf entry mod := by
  cases part with
  | list placement =>
      have inFlows : mod ∈ own.filterMap Ofmsg.flowMod? :=
        List.mem_filterMap.mpr ⟨_, listed, rfl⟩
      obtain ⟨⟨priority, rule⟩, counted, flow⟩ := exists_rule (flows_of_ofmsgs built) inFlows
      obtain ⟨_, _, _, _, _, _, _, isAdd, inTable, fields, _⟩ :=
        flowOf_spec (configured.plain placement member) flow
      refine ⟨isAdd, inTable, fun accepts => ?_, ?_⟩
      · rw [fields, matchDict_intended_iff.mpr
          (ownVlan placement rfl rule (mem_of_numbered counted))] at accepts
        exact Context.has_of_placed accepts
      · rintro _ ⟨⟩
        exact ⟨_, counted, flow⟩
  | allow table context =>
      obtain ⟨mod', flow, rfl⟩ := Option.map_eq_some_iff.mp built
      cases List.mem_singleton.mp listed
      obtain ⟨_, _, _, _, _, _, rfl⟩ := AclTable.flowmod_iff.mp flow
      exact ⟨rfl, rfl, id, nofun⟩

end Parts

/-! ## After the start -/

section Start

variable {manager : AclManager} {lowestPriority : ℕ} {ports : List Port} {vlans : List Vlan}
  {own input : List Ofmsg} {shuffle : Shuffle} {useBarriers : Bool} {switch next : Switch}
  {packet : Packet} {flow : FlowId} {entry : FlowEntry} {placement : Placement}

/-- The batch of a start is sent: its deletes are all within the first one. -/
theorem exists_deliver_of_start (start : manager.ColdStart lowestPriority own input) :
    ∃ next, switch.deliver shuffle useBarriers input = some next := by
  obtain ⟨clear, member, isGlobal, _⟩ := start.clears
  have kind : msgKind (.flowMod clear) = .deleteglobal := if_pos isGlobal
  have returned : dedupeOverlapsOfmsgs id (withoutSuppressed input) ≠ none := by
    intro failed
    obtain ⟨⟨ofmsg, _, _, kept, all, _⟩, _⟩ :=
      mixesDeletes_iff.mp (dedupeOverlapsOfmsgs_eq_none.mp failed)
    cases ofmsg with
    | flowMod mod => exact kept ⟨_, member, kind, rfl⟩
    | _ => cases all
  obtain ⟨deletes, returned⟩ := Option.ne_none_iff_exists'.mp returned
  rw [Switch.deliver, valveFlowreorder, returned]
  exact ⟨_, rfl⟩

/-- A flow that is there after the start was added. -/
theorem adds_of_present (start : manager.ColdStart lowestPriority own input)
    (delivers : switch.deliver shuffle useBarriers input = some next)
    (present : next.flows flow ≠ none) : Adds input flow := by
  by_contra notAdded
  refine present (deliver_gone delivers notAdded fun entry _ => ?_)
  obtain ⟨clear, member, isGlobal, isDelete_, outPort⟩ := start.clears
  have kind : msgKind (.flowMod clear) = .deleteglobal := if_pos isGlobal
  refine ⟨_, member, by simp [isDelete, kind], ?_, ?_⟩
  · rintro ⟨isDel, _⟩
    cases kind.symm.trans isDel
  · rw [FlowMod.isGlobalFlowdel, Bool.and_eq_true, Bool.and_eq_true, List.isEmpty_iff] at isGlobal
    have covers : clear.matchFields.covers flow.matchFields = true := by
      simp [Match.covers, isGlobal.2]
    simp [removesLinked, FlowMod.removes, FlowMod.reaches, FlowMod.outPortMatches, isDelete_,
      outPort, isGlobal.1.2, covers]

theorem part_of_flow (tables : manager.HasTables vlans)
    (built : manager.messages ports vlans = some own) {mod : FlowMod}
    (listed : .flowMod mod ∈ own) :
    ∃ part ∈ manager.parts ports vlans, ∃ own', part.ofmsgs = some own' ∧ .flowMod mod ∈ own' := by
  rw [messages_eq tables] at built
  obtain ⟨own', isPart, listed⟩ := (collect_spec built).2 _ listed
  obtain ⟨part, member, built'⟩ := List.mem_map.mp isPart
  exact ⟨part, member, own', built', listed⟩

theorem built_of_part (tables : manager.HasTables vlans)
    (built : manager.messages ports vlans = some own) {part : Part}
    (member : part ∈ manager.parts ports vlans) :
    ∃ own', part.ofmsgs = some own' ∧ own' ⊆ own := by
  rw [messages_eq tables] at built
  exact (collect_spec built).1 _ (List.mem_map_of_mem member)

end Start

/-- What there is when the messages of a datapath are sent and a packet is at a place. -/
structure Started (manager : AclManager) (lowestPriority : ℕ) (ports : List Port)
    (vlans : List Vlan) {calls : List (List Inst)} (memo : Memo calls) (own input : List Ofmsg)
    (placement : Placement) (packet : Packet) : Prop where
  configured : manager.Configured ports vlans
  fits : manager.Fits lowestPriority ports vlans
  built : manager.messages ports vlans = some own
  start : manager.ColdStart lowestPriority (own.map (ofmsgWith memo)) input
  member : .list placement ∈ manager.parts ports vlans
  here : placement.context.has packet

namespace Started

variable {manager : AclManager} {lowestPriority : ℕ} {ports : List Port} {vlans : List Vlan}
  {calls : List (List Inst)} {memo : Memo calls} {own input : List Ofmsg} {placement : Placement}
  {packet : Packet}
  (started : Started manager lowestPriority ports vlans memo own input placement packet)
include started

/-- The default of the table, or the flow of a rule of the place. -/
def Takes (_ : Started manager lowestPriority ports vlans memo own input placement packet)
    (mod : FlowMod) : Prop :=
  mod = placement.table.defaultDrop lowestPriority ∨
    ∃ entry ∈ numbered aclPriority placement.rules, placement.FlowOf entry mod

theorem table_mem : placement.table ∈ manager.tables := table_mem_tables started.member

/-- The flows that the packet can meet. -/
theorem takes_of_accepts {mod : FlowMod} (sent : .flowMod mod ∈ input)
    (isSet : mod.isFlowdel = false) (inTable : mod.tableId = placement.table.tableId.val)
    (accepts : packet.accepted mod.matchFields = true) :
    ∃ built, started.Takes built ∧ sentWith memo built = mod := by
  rcases started.start.others _ started.table_mem mod sent isSet inTable with rfl | listed
  · exact ⟨_, .inl rfl, rfl⟩
  · obtain ⟨mod, present, rfl⟩ := mem_ofmsgWith.mp listed
    obtain ⟨part, known, own', built', listed⟩ :=
      part_of_flow started.configured.tables started.built present
    have ownVlan : ∀ placement, part = .list placement →
        ∀ rule ∈ placement.rules, rule.OwnVlan placement.context := by
      rintro placement rfl
      exact started.fits.ownVlan placement known
    obtain ⟨_, inTable', here', ofRule⟩ :=
      flow_of_part started.configured ownVlan known built' listed
    have sameTable : part.table.tableId = placement.table.tableId :=
      Fin.val_injective (inTable'.symm.trans inTable)
    exact ⟨mod, .inr (ofRule placement (part_unique started.configured known started.member
      sameTable (here' accepts) started.here)), rfl⟩

theorem priority_of_rule {counted : ℤ × RuleConf} {mod : FlowMod}
    (listed : counted ∈ numbered aclPriority placement.rules)
    (flow : placement.FlowOf counted mod) :
    (mod.priority : ℤ) = counted.1 ∧ lowestPriority < mod.priority ∧ mod.priority ≤ 65535 := by
  obtain ⟨_, _, _, _, _, priority, high, _⟩ :=
    flowOf_spec (started.configured.plain _ started.member) flow
  have bounds := numbered_bounds listed
  have room := started.fits.room _ started.member
  exact ⟨priority, by omega, by omega⟩

theorem takes_sent {mod : FlowMod} (takes : started.Takes mod) :
    .flowMod (sentWith memo mod) ∈ input ∧ mod.command = .add ∧
      mod.tableId = placement.table.tableId.val := by
  rcases takes with rfl | ⟨counted, listed, flow⟩
  · exact ⟨started.start.defaults _ started.table_mem, rfl, rfl⟩
  · obtain ⟨own', built', within⟩ :=
      built_of_part started.configured.tables started.built started.member
    obtain ⟨mod', inFlows, flow'⟩ := exists_flow (flows_of_ofmsgs built') listed
    obtain ⟨entry, builds, isFlow⟩ := flow
    obtain ⟨entry', builds', isFlow'⟩ := flow'
    cases builds.symm.trans builds'
    cases isFlow.symm.trans isFlow'
    obtain ⟨ofmsg, member, isMod⟩ := List.mem_filterMap.mp inFlows
    cases ofmsg with
    | flowMod mod' =>
        cases isMod
        obtain ⟨_, _, _, _, _, _, _, isAdd, inTable, _⟩ :=
          flowOf_spec (started.configured.plain _ started.member) ⟨entry, builds, isFlow⟩
        exact ⟨started.start.sent (mem_ofmsgWith.mpr ⟨_, within member, rfl⟩), isAdd, inTable⟩
    | _ => cases isMod

/-- Two of these flows have different priorities. -/
theorem takes_unique {mod mod' : FlowMod} (takes : started.Takes mod)
    (takes' : started.Takes mod') (same : mod.priority = mod'.priority) : mod = mod' := by
  rcases takes with rfl | ⟨⟨priority, rule⟩, listed, flow⟩
  · rcases takes' with rfl | ⟨counted', listed', flow'⟩
    · rfl
    · have := (started.priority_of_rule listed' flow').2.1
      have isLowest : mod'.priority = lowestPriority := same.symm
      omega
  · rcases takes' with rfl | ⟨⟨priority', rule'⟩, listed', flow'⟩
    · have := (started.priority_of_rule listed flow).2.1
      have isLowest : mod.priority = lowestPriority := same
      omega
    · have isPriority := (started.priority_of_rule listed flow).1
      have isPriority' := (started.priority_of_rule listed' flow').1
      have samePriority : priority = priority' := by
        rw [same] at isPriority
        exact isPriority.symm.trans isPriority'
      subst samePriority
      cases numbered_unique listed listed'
      obtain ⟨entry, builds, isFlow⟩ := flow
      obtain ⟨entry', builds', isFlow'⟩ := flow'
      cases builds.symm.trans builds'
      exact Option.some.inj (isFlow.symm.trans isFlow')

/-! ### What the packet meets -/

variable {shuffle : Shuffle} {useBarriers : Bool} {switch next : Switch}
  (delivers : switch.deliver shuffle useBarriers input = some next)
include delivers

theorem flow_present {mod : FlowMod} (takes : started.Takes mod)
    (accepts : packet.accepted mod.matchFields = true) :
    next.flows ⟨placement.table.tableId, mod.priority, mod.matchFields⟩ =
      some (sentWith memo mod).entry := by
  obtain ⟨sent, isAdd, inTable⟩ := started.takes_sent takes
  refine deliver_alone delivers sent ?_ ?_ isAdd
  · simp [sets, FlowMod.isFlowdel, FlowMod.names, sentWith, isAdd, inTable]
  · intro ofmsg listed isSet
    cases ofmsg with
    | flowMod mod' =>
        simp only [sets, FlowMod.names, Bool.and_eq_true, Bool.not_eq_true', beq_iff_eq] at isSet
        obtain ⟨isSet, ⟨inTable', samePriority⟩, sameMatch⟩ := isSet
        obtain ⟨built, takes', rfl⟩ :=
          started.takes_of_accepts listed isSet inTable' (sameMatch ▸ accepts)
        rw [started.takes_unique takes' takes samePriority]
    | _ => cases isSet

theorem takes_of_present {flow : FlowId} {entry : FlowEntry}
    (inTable : flow.tableId = placement.table.tableId) (present : next.flows flow = some entry)
    (accepts : packet.accepted flow.matchFields = true) :
    ∃ mod, started.Takes mod ∧ flow.priority = mod.priority ∧
      flow.matchFields = mod.matchFields ∧ entry = (sentWith memo mod).entry := by
  obtain ⟨mod, sent, isAdd, names⟩ := adds_of_present started.start delivers
    (by rw [present]; exact Option.some_ne_none _)
  simp only [FlowMod.names, Bool.and_eq_true, beq_iff_eq] at names
  obtain ⟨⟨sameTable, samePriority⟩, sameMatch⟩ := names
  have isSet : mod.isFlowdel = false := by rw [FlowMod.isFlowdel, isAdd]
  obtain ⟨mod, takes, rfl⟩ := started.takes_of_accepts sent isSet
    (sameTable.trans (congrArg Fin.val inTable)) (sameMatch ▸ accepts)
  have samePriority : mod.priority = flow.priority := samePriority
  have sameMatch : mod.matchFields = flow.matchFields := sameMatch
  refine ⟨mod, takes, samePriority.symm, sameMatch.symm, ?_⟩
  have there := started.flow_present delivers takes (sameMatch ▸ accepts)
  rw [samePriority, sameMatch, ← inTable, present] at there
  exact Option.some.inj there

omit delivers in
/-- The flow of a rule accepts the packet just when the rule is meant to. -/
theorem accepts_iff {priority : ℤ} {rule : RuleConf} {mod : FlowMod}
    (listed : (priority, rule) ∈ numbered aclPriority placement.rules)
    (flow : placement.FlowOf (priority, rule) mod) :
    packet.accepted mod.matchFields = true ↔
      packet.accepted (rule.intended placement.context) = true := by
  obtain ⟨_, _, _, _, _, _, _, _, _, fields, _⟩ :=
    flowOf_spec (started.configured.plain _ started.member) flow
  rw [fields, matchDict_intended_iff.mpr
    (started.fits.ownVlan _ started.member _ (mem_of_numbered listed))]

/-- The flow of a rule that covers the packet is there. -/
theorem rule_present {priority : ℤ} {rule : RuleConf}
    (listed : (priority, rule) ∈ numbered aclPriority placement.rules)
    (covers : packet.accepted (rule.intended placement.context) = true) :
    ∃ mod, placement.FlowOf (priority, rule) mod ∧ packet.accepted mod.matchFields = true ∧
      next.flows ⟨placement.table.tableId, mod.priority, mod.matchFields⟩ =
        some (sentWith memo mod).entry := by
  obtain ⟨own', built', _⟩ :=
    built_of_part started.configured.tables started.built started.member
  obtain ⟨mod, _, flow⟩ := exists_flow (flows_of_ofmsgs built') listed
  have accepts := (started.accepts_iff listed flow).mpr covers
  exact ⟨mod, flow, accepts, started.flow_present delivers (.inr ⟨_, listed, flow⟩) accepts⟩

/-- **The flow that the packet is treated by is that of the first rule.** -/
theorem treatment_of_selects {flow : FlowId} {entry : FlowEntry}
    (selects : Selects placement.table.tableId next packet flow entry) :
    placement.treatment memo packet = some entry.instructions := by
  obtain ⟨mod, takes, samePriority, sameMatch, rfl⟩ :=
    started.takes_of_present delivers selects.inTable selects.present selects.accepts
  have best : ∀ priority' rule', (priority', rule') ∈ numbered aclPriority placement.rules →
      packet.accepted (rule'.intended placement.context) = true →
        priority' ≤ (mod.priority : ℤ) := by
    intro priority' rule' listed' covers'
    obtain ⟨mod', flow', accepts', present'⟩ := started.rule_present delivers listed' covers'
    have isBest := selects.best ⟨_, mod'.priority, mod'.matchFields⟩ rfl
      (by rw [present']; exact Option.some_ne_none _) accepts'
    have isPriority := (started.priority_of_rule listed' flow').1
    dsimp only at isBest isPriority
    omega
  rw [Placement.treatment]
  rcases takes with rfl | ⟨⟨priority, rule⟩, listed, isFlow⟩
  · have none : placement.rules.find?
        (fun rule => packet.accepted (rule.intended placement.context)) = none := by
      refine List.find?_eq_none.mpr fun rule known covers => ?_
      obtain ⟨priority, listed⟩ := exists_numbered aclPriority known
      have isBest := best priority rule listed covers
      obtain ⟨mod', flow', _⟩ := started.rule_present delivers listed covers
      have above := started.priority_of_rule listed flow'
      have isLowest : (placement.table.defaultDrop lowestPriority).priority = lowestPriority := rfl
      rw [isLowest] at isBest
      dsimp only at above
      omega
    rw [none]
    rfl
  · have isPriority := (started.priority_of_rule listed isFlow).1
    have covers := (started.accepts_iff listed isFlow).mp (sameMatch ▸ selects.accepts)
    obtain ⟨entry, trimmed, builds, trims, _, _, _, _, _, _, instructions⟩ :=
      flowOf_spec (started.configured.plain _ started.member) isFlow
    have first := find?_of_best listed covers fun priority' rule' listed' covers' => by
      have := best priority' rule' listed' covers'
      dsimp only at isPriority
      omega
    rw [first]
    exact Option.map_eq_some_iff.mpr
      ⟨_, instructions_iff.mpr ⟨entry, trimmed, builds, trims, instructions⟩, rfl⟩

/-- A flow that the packet can meet is selected, if it has the best priority of these. -/
theorem selects_of_best {mod : FlowMod} (takes : started.Takes mod)
    (accepts : packet.accepted mod.matchFields = true)
    (best : ∀ other, started.Takes other → packet.accepted other.matchFields = true →
      other.priority ≤ mod.priority) :
    Selects placement.table.tableId next packet
      ⟨placement.table.tableId, mod.priority, mod.matchFields⟩ (sentWith memo mod).entry := by
  refine ⟨rfl, started.flow_present delivers takes accepts, accepts, ?_⟩
  intro other inTable present accepts'
  obtain ⟨entry, isEntry⟩ := Option.ne_none_iff_exists'.mp present
  obtain ⟨mod', takes', priority', match', _⟩ :=
    started.takes_of_present delivers inTable isEntry accepts'
  rw [priority']
  exact best mod' takes' (match' ▸ accepts')

theorem exists_selects :
    ∃ flow entry, Selects placement.table.tableId next packet flow entry := by
  cases first : placement.rules.find?
      fun rule => packet.accepted (rule.intended placement.context) with
  | none =>
      refine ⟨_, _, started.selects_of_best delivers (.inl rfl) rfl ?_⟩
      rintro other (rfl | ⟨⟨priority, rule⟩, listed, flow⟩) accepts
      · exact Nat.le_refl _
      · have covers := (started.accepts_iff listed flow).mp accepts
        exact absurd covers (List.find?_eq_none.mp first rule (mem_of_numbered listed))
  | some rule =>
      obtain ⟨priority, listed, best⟩ := best_of_find? aclPriority first
      have covers : packet.accepted (rule.intended placement.context) = true := by
        simpa using List.find?_some first
      obtain ⟨mod, flow, accepts, _⟩ := started.rule_present delivers listed covers
      have isPriority := started.priority_of_rule listed flow
      refine ⟨_, _, started.selects_of_best delivers (.inr ⟨_, listed, flow⟩) accepts ?_⟩
      rintro other (rfl | ⟨⟨priority', rule'⟩, listed', flow'⟩) accepts'
      · exact Nat.le_of_lt isPriority.2.1
      · have isBest := best priority' rule' listed' ((started.accepts_iff listed' flow').mp accepts')
        have isPriority' := (started.priority_of_rule listed' flow').1
        dsimp only at isPriority isPriority'
        omega

end Started

/-! ## When the flows are in order -/

section Order

variable {lowestPriority : ℕ} {placement : Placement} {mods : List FlowMod}

theorem fields_of_flows (plain : placement.exactMatch = false) {entries : List (ℤ × RuleConf)}
    (flows : List.Forall₂ placement.FlowOf entries mods) :
    mods.map (·.matchFields) =
      (entries.map Prod.snd).map fun rule => matchFromDict (rule.matchDict placement.context) := by
  induction flows with
  | nil => rfl
  | cons flow _ ih =>
      obtain ⟨_, _, _, _, _, _, _, _, _, fields, _⟩ := flowOf_spec plain flow
      rw [List.map_cons, List.map_cons, List.map_cons, ih, fields]

theorem decreasing_of_flows (plain : placement.exactMatch = false)
    {entries : List (ℤ × RuleConf)} (flows : List.Forall₂ placement.FlowOf entries mods)
    (decreasing : entries.Pairwise fun first later => later.1 < first.1) :
    mods.Pairwise fun first later => later.priority < first.priority := by
  induction flows with
  | nil => exact .nil
  | cons flow others ih =>
      obtain ⟨below, decreasing⟩ := List.pairwise_cons.mp decreasing
      refine List.pairwise_cons.mpr ⟨fun later member => ?_, ih decreasing⟩
      obtain ⟨entry, listed, flow'⟩ := exists_rule others member
      obtain ⟨_, _, _, _, _, priority, _⟩ := flowOf_spec plain flow
      obtain ⟨_, _, _, _, _, priority', _⟩ := flowOf_spec plain flow'
      have := below entry listed
      omega

/-- **The flows are in order** when there is room for all rules above the default, and
no rule is about another VLAN. -/
theorem ordered_iff (plain : placement.exactMatch = false) (some_rule : placement.rules ≠ [])
    (flows : List.Forall₂ placement.FlowOf (numbered aclPriority placement.rules) mods) :
    placement.Ordered lowestPriority mods ↔
      lowestPriority + placement.rules.length ≤ aclPriority ∧
        ∀ rule ∈ placement.rules, rule.OwnVlan placement.context := by
  have fields := fields_of_flows plain flows
  rw [map_numbered] at fields
  constructor
  · intro ordered
    constructor
    · obtain ⟨rule, listed⟩ := exists_lowest aclPriority some_rule
      obtain ⟨mod, member, flow⟩ := exists_flow flows listed
      obtain ⟨_, _, _, _, _, priority, _⟩ := flowOf_spec plain flow
      have := (ordered.legal mod member).1
      omega
    · intro rule known
      have same := ordered.fields
      rw [fields, List.map_inj_left] at same
      exact matchDict_intended_iff.mp (same rule known)
  · rintro ⟨room, ownVlan⟩
    refine ⟨?_, decreasing_of_flows plain flows numbered_pairwise, ?_⟩
    · rw [fields, List.map_inj_left]
      exact fun rule known => matchDict_intended_iff.mpr (ownVlan rule known)
    · intro mod member
      obtain ⟨⟨counted, rule⟩, listed, flow⟩ := exists_rule flows member
      obtain ⟨_, _, _, _, _, priority, high, _⟩ := flowOf_spec plain flow
      have := numbered_bounds listed
      omega

end Order

/-! ## When ACLs mean first match -/

section Main

variable {manager : AclManager} {lowestPriority : ℕ} {ports : List Port} {vlans : List Vlan}
  {others : List (List Inst)} {placement : Placement}

/-- A list is of some ACLs, and each has a rule. -/
theorem rules_ne_nil (member : .list placement ∈ manager.parts ports vlans) :
    placement.rules ≠ [] := by
  have some_acl : placement.acls ≠ [] := by
    rw [parts, List.mem_append, List.mem_append, List.mem_flatMap, List.mem_flatMap] at member
    rcases member with (member | ⟨vlan, known, member⟩) | ⟨port, known, member⟩
    · rw [dpParts] at member
      split at member
      next => cases member
      next some_acl =>
        obtain ⟨_, _, same⟩ := List.mem_map.mp member
        cases same
        exact some_acl
    · rcases List.mem_append.mp member with member | member
      · rw [vlanInParts] at member
        split at member
        next => cases member
        next some_acl =>
          obtain ⟨_, _, same⟩ := List.mem_map.mp member
          cases same
          exact some_acl
      · obtain ⟨_, _, same⟩ := List.mem_map.mp member
        split at same
        next some_acl =>
          cases same
          exact some_acl
        next => cases same
    · obtain ⟨_, _, member⟩ := List.mem_flatMap.mp member
      split at member
      next some_acl =>
        cases List.mem_singleton.mp member
        exact some_acl
      next =>
        split at member
        · cases List.mem_singleton.mp member
        · cases member
  obtain ⟨acl, others, acls⟩ := List.exists_cons_of_ne_nil some_acl
  intro noRule
  rw [Placement.rules, acls, List.flatMap_cons] at noRule
  exact acl.someRule (List.append_eq_nil_iff.mp noRule).1

/-- All is built when the lists fit. -/
theorem exists_messages (configured : manager.Configured ports vlans)
    (fits : manager.Fits lowestPriority ports vlans) :
    ∃ own, manager.messages ports vlans = some own := by
  rw [messages_eq configured.tables]
  refine exists_collect fun built listed => ?_
  obtain ⟨part, member, rfl⟩ := List.mem_map.mp listed
  cases part with
  | list placement =>
      refine exists_buildRules fun (priority, rule) counted => ?_
      have known : rule ∈ placement.rules := mem_of_numbered counted
      obtain ⟨_, instructed⟩ := fits.instructed placement member rule known
      obtain ⟨entry, trimmed, builds, trims, _⟩ := instructions_iff.mp instructed
      have verified := fits.verified placement member rule known
      rw [← matchFields_of_builds builds (fits.ownVlan placement member rule known)] at verified
      have bounds : _ ∧ aclPriority - placement.rules.length < priority := numbered_bounds counted
      have room := fits.room placement member
      have top : aclPriority = 20480 := rfl
      have positive : 0 < priority := by omega
      have high : priority ≤ 65535 := by omega
      obtain ⟨mod, flow⟩ := AclTable.exists_flowmod trims verified positive high
      refine ⟨mod, entry, builds, ?_⟩
      rw [configured.plain placement member]
      exact flow
  | allow table context =>
      have trims : table.trimInst [.gotoTable context.allowTable] =
          some [.gotoTable context.allowTable] := if_neg (by simp [Inst.isApply])
      have positive : 0 < aclPriority := by decide
      have high : aclPriority ≤ 65535 := by decide
      obtain ⟨mod, flow⟩ :=
        AclTable.exists_flowmod trims (fits.allows table context member) positive high
      exact ⟨[.flowMod mod], Option.map_eq_some_iff.mpr ⟨mod, flow, rfl⟩⟩

/-- Lists that are in order and built fit. -/
theorem fits_of_ordered (configured : manager.Configured ports vlans) {own : List Ofmsg}
    (built : manager.messages ports vlans = some own)
    (ordered : ∀ placement, .list placement ∈ manager.parts ports vlans →
      ∀ own', placement.ofmsgs = some own' →
        placement.Ordered lowestPriority (own'.filterMap Ofmsg.flowMod?)) :
    manager.Fits lowestPriority ports vlans := by
  have of_list : ∀ placement, .list placement ∈ manager.parts ports vlans →
      ∃ mods, List.Forall₂ placement.FlowOf (numbered aclPriority placement.rules) mods ∧
        placement.Ordered lowestPriority mods := by
    intro placement member
    obtain ⟨own', built', _⟩ := built_of_part configured.tables built member
    exact ⟨_, flows_of_ofmsgs built', ordered placement member own' built'⟩
  have short : ∀ placement, .list placement ∈ manager.parts ports vlans →
      lowestPriority + placement.rules.length ≤ aclPriority ∧
        ∀ rule ∈ placement.rules, rule.OwnVlan placement.context := by
    intro placement member
    obtain ⟨mods, flows, inOrder⟩ := of_list placement member
    exact (ordered_iff (configured.plain _ member) (rules_ne_nil member) flows).mp inOrder
  have of_rule : ∀ placement, .list placement ∈ manager.parts ports vlans →
      ∀ rule ∈ placement.rules, ∃ entry trimmed,
        buildAclEntry rule placement.context = some entry ∧
          placement.table.trimInst entry.inst = some trimmed ∧
          placement.table.verifies entry.matchFields = true := by
    intro placement member rule known
    obtain ⟨mods, flows, _⟩ := of_list placement member
    obtain ⟨priority, counted⟩ := exists_numbered aclPriority known
    obtain ⟨mod, _, flow⟩ := exists_flow flows counted
    obtain ⟨entry, trimmed, builds, trims, verified, _⟩ :=
      flowOf_spec (configured.plain _ member) flow
    exact ⟨entry, trimmed, builds, trims, verified⟩
  refine ⟨fun _ member => (short _ member).1, fun _ member => (short _ member).2, ?_, ?_, ?_⟩
  · intro placement member rule known
    obtain ⟨entry, _, builds, _, verified⟩ := of_rule placement member rule known
    rwa [matchFields_of_builds builds ((short placement member).2 rule known)] at verified
  · intro placement member rule known
    obtain ⟨entry, trimmed, builds, trims, _⟩ := of_rule placement member rule known
    exact ⟨_, instructions_iff.mpr ⟨entry, trimmed, builds, trims, rfl⟩⟩
  · intro table context member
    obtain ⟨own', built', _⟩ := built_of_part configured.tables built member
    obtain ⟨mod, flow, _⟩ := Option.map_eq_some_iff.mp built'
    obtain ⟨_, _, verified, _⟩ := AclTable.flowmod_iff.mp flow
    exact verified

theorem fits_of_firstMatch (configured : manager.Configured ports vlans)
    (firstMatch : manager.FirstMatch lowestPriority ports vlans others) :
    manager.Fits lowestPriority ports vlans := by
  obtain ⟨own, built, lists⟩ := firstMatch
  refine fits_of_ordered configured built fun placement member own' built' => ?_
  obtain ⟨⟨own'', built'', ordered⟩, _⟩ := lists placement member
  cases built'.symm.trans built''
  exact ordered

/-- A rule's instructions are sent as they were made when no call trims its actions. -/
theorem instructions_unshared (unshared : manager.Unshared ports vlans others)
    (member : .list placement ∈ manager.parts ports vlans) {rule : RuleConf}
    (decides : placement.Decides rule) (memo : Memo (manager.calls ports vlans others))
    {instructions : List Instruction} (made : placement.instructions rule = some instructions) :
    memo.instructions instructions = instructions := by
  obtain ⟨entry, trimmed, builds, trims, rfl⟩ := instructions_iff.mp made
  refine memo.instructions_eq_self fun goes actions listed => ?_
  obtain ⟨sameGoto, members⟩ := mem_trimInst trims
  rw [sameGoto] at goes
  obtain ⟨asked, some_action⟩ := (members goes).mp listed
  refine ⟨?_, some_action⟩
  rcases memo.spec actions with same | ⟨inPlace, trimmed⟩
  · exact same
  · rw [trimmed, unshared placement member rule decides entry builds goes actions asked inPlace]

/-- What the first rule says is done when flows share nothing that matters. -/
theorem treatment_eq_verdict (unshared : manager.Unshared ports vlans others)
    (member : .list placement ∈ manager.parts ports vlans) {packet : Packet}
    (here : placement.context.has packet) (memo : Memo (manager.calls ports vlans others)) :
    placement.treatment memo packet = placement.verdict packet := by
  rw [Placement.treatment, Placement.verdict]
  split
  next rule first =>
    cases made : placement.instructions rule with
    | none => rfl
    | some instructions =>
        rw [Option.map_some, instructions_unshared unshared member ⟨packet, here, first⟩ memo made]
  next => rfl

/-- A batch for a start. -/
theorem exists_coldStart (lowestPriority : ℕ) (configured : manager.Configured ports vlans)
    (own : List Ofmsg) : ∃ input, manager.ColdStart lowestPriority own input := by
  let clear : FlowMod := ⟨.delete, ofpttAll, 0, 0, none, .any, [], 0, 0, 0⟩
  refine ⟨.flowMod clear ::
    (manager.tables.map fun table => .flowMod (table.defaultDrop lowestPriority)) ++ own, ?_⟩
  constructor
  case clears => exact ⟨clear, List.mem_cons_self, rfl, rfl, rfl⟩
  case sent => exact fun ofmsg listed => List.mem_append_right _ listed
  case defaults =>
    exact fun table known => List.mem_append_left _ (List.mem_cons_of_mem _
      (List.mem_map_of_mem known))
  case others =>
    intro table known mod listed isSet inTable
    rcases List.mem_append.mp listed with first | listed
    · rcases List.mem_cons.mp first with same | isDefault
      · cases same
        cases isSet
      · obtain ⟨other, known', same⟩ := List.mem_map.mp isDefault
        cases same
        rw [table_unique configured known' known (Fin.val_injective inTable)]
        exact .inl rfl
    · exact .inr listed

/-- A rule that decides, with a list of actions that a call trims, has lost some of them. -/
theorem unshared_of_firstMatch (configured : manager.Configured ports vlans)
    (firstMatch : manager.FirstMatch lowestPriority ports vlans others) :
    manager.Unshared ports vlans others := by
  have fits := fits_of_firstMatch configured firstMatch
  obtain ⟨own, built, lists⟩ := firstMatch
  rintro placement member rule ⟨packet, here, first⟩ entry builds goes actions asked inPlace
  by_contra shortens
  let memo := Memo.only inPlace
  obtain ⟨input, start⟩ := exists_coldStart lowestPriority configured
    (own.map (ofmsgWith memo))
  let switch : Switch := ⟨fun _ => none, fun _ => none, fun _ => none⟩
  obtain ⟨next, delivers, treats⟩ :=
    (lists placement member).2 memo ⟨id, Shuffle.perm_id⟩ true switch input start
  obtain ⟨⟨flow, flowEntry, selects⟩, verdict⟩ := treats packet here
  have started : Started manager lowestPriority ports vlans memo own input placement packet :=
    ⟨configured, fits, built, start, member, here⟩
  have same := (started.treatment_of_selects delivers selects).trans
    (verdict flow flowEntry selects).symm
  have known : rule ∈ placement.rules := List.mem_of_find?_eq_some first
  obtain ⟨instructions, made⟩ := fits.instructed placement member rule known
  obtain ⟨entry', trimmed, builds', trims, rfl⟩ := instructions_iff.mp made
  cases builds.symm.trans builds'
  rw [Placement.treatment, Placement.verdict, first] at same
  dsimp only at same
  rw [made, Option.map_some, Option.some_inj] at same
  have some_action : actions ≠ [] := by
    rintro rfl
    exact shortens rfl
  obtain ⟨sameGoto, members⟩ := mem_trimInst trims
  exact Memo.only_instructions_ne inPlace shortens (sameGoto.trans goes)
    ((members goes).mpr ⟨asked, some_action⟩) same

end Main

/-! ## One port with one ACL -/

/-- A rule for all packets, which drops them. -/
def denyRule : RuleConf := ⟨none, none, none, [], RuleConf.keys_nil⟩

/-- A port ACL table that matches the port and the type of a frame. -/
def portTable : AclTable := ⟨0, [(inPort, false), (5, false)], [], false, 1, false⟩

/-- The manager of a datapath with this table alone. -/
def portAcls : AclManager where
  dpAcls := []
  portAclTable := some portTable
  vlanAclTable := none
  egressAclTable := none
  pipeline := ⟨1, 2, 3, 4⟩
  meters := fun _ => none

/-- Port 1 with one ACL. -/
def portWith (acl : AclConf) : Port := ⟨1, [acl], false, false⟩

/-- Where the ACL of the port is installed. -/
def portPlacement (acl : AclConf) : Placement :=
  ⟨portTable, portAcls.portContext (some 1), [acl], acl.exactMatch⟩

section OnePort

variable {acl : AclConf} {part : Part}

theorem parts_portWith : portAcls.parts [portWith acl] [] = [.list (portPlacement acl)] := by
  simp [AclManager.parts, dpParts, portParts, portAclsAllowed, portAcls, portWith, exactMatch,
    portPlacement]

theorem part_portWith (member : part ∈ portAcls.parts [portWith acl] []) :
    part = .list (portPlacement acl) := by
  rw [parts_portWith] at member
  exact List.mem_singleton.mp member

theorem rules_portPlacement : (portPlacement acl).rules = acl.rules := by
  simp [Placement.rules, portPlacement]

theorem configured_portWith (plain : acl.exactMatch = false) :
    portAcls.Configured [portWith acl] [] := by
  refine ⟨⟨fun some_acl => absurd rfl some_acl, ?_⟩, ?_, ?_, ?_, List.nodup_singleton _, .nil, ?_, ?_⟩
  pick_goal 6
  · intro placement member
    cases part_portWith member
    exact plain
  all_goals
    intros
    contradiction

end OnePort

/-- A rule that mirrors IPv4 packets to port 2 and lets them pass. -/
def mirrorRule : RuleConf where
  cookie := none
  description := none
  actions := some
    { allow := none, forcePortVlan := none, meter := none, mirror := some 2, output := none,
      ct := none }
  matchFields := [(.dlType, ⟨0x800, none⟩)]
  keys := List.nodup_singleton _

/-- A rule that outputs all packets to port 2, with the same list of actions. -/
def outputRule : RuleConf where
  cookie := none
  description := none
  actions := some
    { allow := none, forcePortVlan := none, meter := none, mirror := none,
      output := some (.ordered [.port 2]), ct := none }
  matchFields := []
  keys := RuleConf.keys_nil

/-- The rule that mirrors stands before the one that outputs. -/
def mirrorAcl : AclConf := ⟨[mirrorRule, outputRule], false, List.cons_ne_nil _ _⟩

theorem rule_mirrorAcl {placement : Placement} {rule : RuleConf}
    (member : .list placement ∈ portAcls.parts [portWith mirrorAcl] [])
    (known : rule ∈ placement.rules) :
    placement = portPlacement mirrorAcl ∧ (rule = mirrorRule ∨ rule = outputRule) := by
  cases part_portWith member
  rw [rules_portPlacement] at known
  exact ⟨rfl, by simpa [mirrorAcl] using known⟩

/-- An ACL of more rules than there are priorities from the first one down to zero. The
configuration accepts one of up to 65536 rules. -/
def longAcl : AclConf where
  rules := List.replicate 20481 denyRule
  exactMatch := false
  someRule := List.ne_nil_of_length_pos (by rw [List.length_replicate]; decide)

theorem length_longAcl : longAcl.rules.length = 20481 := List.length_replicate

end AclManager

end Faucet.Acl
