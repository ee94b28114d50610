import Faucet.Acl.Matches
import Faucet.Acl.Table
import Faucet.Library.FirstMatch

/-!
# Lists of access lists in a table

An ACL table holds the lists of all the places where ACLs are applied: the ports, the
VLANs or the datapath (`Placement`), and for places without ACLs it may hold a flow that
allows all packets. What the manager sends when the datapath starts is what is built for
each of these parts, and each rule becomes one flow, with a priority of its place in the
list (`FlowOf`).
-/

set_option autoImplicit false

namespace Faucet.Acl

open OpenFlow FirstMatch

/-! ## One flow -/

section Flowmod

variable {table : AclTable} {fields : Match} {priority : ℤ} {inst : List Inst} {cookie : Option ℕ}
  {mod : FlowMod}

theorem AclTable.flowmod_iff : table.flowmod fields priority inst cookie = some mod ↔
    ∃ trimmed, table.trimInst inst = some trimmed ∧ table.verifies fields = true ∧
      (priority = 0 → fields.items = []) ∧ 0 ≤ priority ∧ priority ≤ 65535 ∧
      mod =
        { command := .add
          tableId := table.tableId
          priority := priority.toNat
          cookie := cookie.getD table.flowCookie
          outPort := some 0
          matchFields := fields
          instructions := trimmed.map Inst.wire
          hardTimeout := 0
          idleTimeout := 0
          flags := if table.notifyFlowRemoved then ofpffSendFlowRem else 0 } := by
  rw [flowmod]
  constructor
  · intro built
    obtain ⟨trimmed, trims, built⟩ := Option.bind_eq_some_iff.mp built
    split at built
    next legal =>
      cases built
      simp only [Bool.and_eq_true, Bool.not_eq_true', Bool.and_eq_false_iff, beq_eq_false_iff_ne,
        decide_eq_true_eq, Bool.not_eq_false', List.isEmpty_iff] at legal
      obtain ⟨⟨⟨verified, noMatch⟩, low⟩, high⟩ := legal
      exact ⟨trimmed, trims, verified, fun zero => noMatch.resolve_left (· zero), low, high, rfl⟩
    next => cases built
  · rintro ⟨trimmed, trims, verified, noMatch, low, high, rfl⟩
    rw [trims, Option.bind_eq_bind, Option.bind_some, if_pos]
    simp only [Bool.and_eq_true, Bool.not_eq_true', Bool.and_eq_false_iff, beq_eq_false_iff_ne,
      decide_eq_true_eq, Bool.not_eq_false', List.isEmpty_iff]
    refine ⟨⟨⟨verified, ?_⟩, low⟩, high⟩
    by_cases zero : priority = 0
    · exact .inr (noMatch zero)
    · exact .inl zero

/-- A priority above zero may go with any match that is good for the table. -/
theorem AclTable.exists_flowmod {trimmed : List Inst} (trims : table.trimInst inst = some trimmed)
    (verified : table.verifies fields = true) (positive : 0 < priority) (high : priority ≤ 65535) :
    ∃ mod, table.flowmod fields priority inst cookie = some mod :=
  ⟨_, flowmod_iff.mpr ⟨trimmed, trims, verified, fun zero => absurd zero positive.ne',
    positive.le, high, rfl⟩⟩

end Flowmod

/-! ## The flows of a list -/

/-- The message as one about a flow. -/
def Ofmsg.flowMod? : Ofmsg → Option FlowMod
  | .flowMod mod => some mod
  | _ => none

/-- What is built of a list of rules at a place. -/
structure Placement where
  table : AclTable
  context : Context
  acls : List AclConf
  exactMatch : Bool

namespace Placement

variable (placement : Placement)

/-- The rules of the ACLs in their order. -/
def rules : List RuleConf := placement.acls.flatMap (·.rules)

/-- The messages that install the ACLs. -/
def ofmsgs : Option (List Ofmsg) :=
  buildAclOfmsgs placement.acls placement.table placement.context aclPriority placement.exactMatch
    false

/-- The flow of a rule with the priority that is counted for it. -/
def FlowOf (numbered : ℤ × RuleConf) (mod : FlowMod) : Prop :=
  ∃ entry, buildAclEntry numbered.2 placement.context = some entry ∧
    placement.table.flowmod entry.matchFields
      (if placement.exactMatch then aclPriority else numbered.1) entry.inst entry.cookie = some mod

end Placement

section Build

variable {placement : Placement} {rule : RuleConf} {context : Context} {entry : AclEntry}
  {result : OutputResult} {priority : ℤ} {rules : List RuleConf} {own : List Ofmsg}

/-- Output actions come with messages about groups alone. -/
def OnlyGroups (ofmsgs : List Ofmsg) : Prop := ∀ ofmsg ∈ ofmsgs, ∃ mod, ofmsg = .groupMod mod

theorem onlyGroups_append {first later : List Ofmsg} (groups : OnlyGroups first)
    (groups' : OnlyGroups later) : OnlyGroups (first ++ later) := by
  intro ofmsg member
  rcases List.mem_append.mp member with member | member
  · exact groups ofmsg member
  · exact groups' ofmsg member

theorem onlyGroups_groupadd {failover : Failover} : OnlyGroups failover.groupadd := by
  simp [OnlyGroups, Failover.groupadd]

section Outputs

variable {tunnel : ℕ → Option OutputResult} {output : Output} {list : List OutputAction}
  (tunnels : ∀ id result, tunnel id = some result → OnlyGroups result.ofmsgs)
include tunnels

theorem onlyGroups_build {action : OutputAction} (builds : action.build tunnel = some result) :
    OnlyGroups result.ofmsgs := by
  cases action with
  | failover conf =>
      cases builds
      exact onlyGroups_groupadd
  | tunnel id =>
      obtain ⟨via, found, rfl⟩ := Option.map_eq_some_iff.mp builds
      exact tunnels id via found
  | _ =>
      cases builds
      exact nofun

theorem onlyGroups_ordered (builds : buildOrderedOutputActions tunnel list = some result) :
    OnlyGroups result.ofmsgs := by
  induction list generalizing result with
  | nil =>
      cases builds
      exact nofun
  | cons action rest ih =>
      rw [buildOrderedOutputActions] at builds
      obtain ⟨first, built, builds⟩ := Option.bind_eq_some_iff.mp builds
      obtain ⟨later, built', builds⟩ := Option.bind_eq_some_iff.mp builds
      cases builds
      exact onlyGroups_append (onlyGroups_build tunnels built) (ih built')

theorem onlyGroups_output (builds : buildOutputActions tunnel output = some result) :
    OnlyGroups result.ofmsgs := by
  cases output with
  | ordered list => exact onlyGroups_ordered tunnels builds
  | dict conf =>
      obtain ⟨via, _, rfl⟩ := Option.map_eq_some_iff.mp builds
      intro ofmsg member
      obtain ⟨failover, _, member⟩ := List.mem_flatMap.mp member
      exact onlyGroups_groupadd ofmsg member

end Outputs

theorem onlyGroups_tunnel {tunnelRules : TunnelRules} {id : ℕ}
    (found : tunnelActions tunnelRules id = some result) : OnlyGroups result.ofmsgs := by
  have nothing : ∀ id result, noTunnel id = some result → OnlyGroups result.ofmsgs := by
    rintro id result ⟨⟩
    exact nofun
  unfold tunnelActions at found
  split at found
  next => exact nothing id result found
  next =>
    obtain ⟨output, _, builds⟩ := Option.bind_eq_some_iff.mp found
    exact onlyGroups_output nothing builds

theorem onlyGroups_entry (builds : buildAclEntry rule context = some entry) :
    OnlyGroups entry.ofmsgs := by
  obtain ⟨⟨inst, acts, ofmsgs⟩, built, rfl⟩ := Option.map_eq_some_iff.mp builds
  rw [RuleConf.build] at built
  split at built
  next =>
    cases built
    exact nofun
  next actions _ =>
    rw [Actions.build] at built
    obtain ⟨meter, _, built⟩ := Option.bind_eq_some_iff.mp built
    obtain ⟨output, built', built⟩ := Option.bind_eq_some_iff.mp built
    have groups : OnlyGroups output.ofmsgs := by
      rw [Actions.outputResult] at built'
      split at built'
      next =>
        cases built'
        exact nofun
      next => exact onlyGroups_output (fun _ _ => onlyGroups_tunnel) built'
    split at built <;> cases built <;> exact groups

theorem flowMods_of_groups {ofmsgs : List Ofmsg} (groups : OnlyGroups ofmsgs) :
    ofmsgs.filterMap Ofmsg.flowMod? = [] := by
  refine List.filterMap_eq_nil_iff.mpr fun ofmsg member => ?_
  obtain ⟨mod, rfl⟩ := groups ofmsg member
  rfl

/-! ### Rule by rule -/

/-- What is built of one rule: its flow, after messages about groups. -/
theorem buildRule_spec (numbered : ℤ × RuleConf)
    (built : buildRuleOfmsgs placement.table placement.context aclPriority placement.exactMatch
      false numbered.1 numbered.2 = some own) :
    ∃ mod groups, placement.FlowOf numbered mod ∧ OnlyGroups groups ∧
      own = groups ++ [.flowMod mod] := by
  rw [buildRuleOfmsgs] at built
  obtain ⟨entry, builds, built⟩ := Option.bind_eq_some_iff.mp built
  obtain ⟨mod, flow, built⟩ := Option.bind_eq_some_iff.mp built
  cases built
  exact ⟨mod, entry.ofmsgs, ⟨entry, builds, flow⟩, onlyGroups_entry builds, rfl⟩

theorem exists_buildRule {numbered : ℤ × RuleConf} {mod : FlowMod}
    (flow : placement.FlowOf numbered mod) :
    ∃ own, buildRuleOfmsgs placement.table placement.context aclPriority placement.exactMatch
      false numbered.1 numbered.2 = some own := by
  obtain ⟨entry, builds, flow⟩ := flow
  refine ⟨entry.ofmsgs ++ [.flowMod mod], ?_⟩
  simp only [buildRuleOfmsgs, builds, flow, Option.bind_eq_bind, Option.bind_some]
  rfl

/-- The flows of the rules, with their priorities counted down from any one. -/
theorem flows_of_rules {top : ℤ} (built : buildRulesOfmsgs placement.table placement.context
      aclPriority placement.exactMatch false top rules = some own) :
    List.Forall₂ placement.FlowOf (numbered top rules) (own.filterMap Ofmsg.flowMod?) := by
  induction rules generalizing top own with
  | nil =>
      cases built
      exact .nil
  | cons rule rest ih =>
      rw [buildRulesOfmsgs] at built
      obtain ⟨first, built', built⟩ := Option.bind_eq_some_iff.mp built
      obtain ⟨later, laterBuilt, built⟩ := Option.bind_eq_some_iff.mp built
      cases built
      obtain ⟨mod, groups, flow, onlyGroups, rfl⟩ := buildRule_spec (top, rule) built'
      rw [List.filterMap_append, List.filterMap_append, flowMods_of_groups onlyGroups,
        List.nil_append]
      exact .cons flow (ih laterBuilt)

/-- **The flows of a list** are those of its rules, one for each. -/
theorem flows_of_ofmsgs (built : placement.ofmsgs = some own) :
    List.Forall₂ placement.FlowOf (numbered aclPriority placement.rules)
      (own.filterMap Ofmsg.flowMod?) := flows_of_rules built

theorem exists_rule {entries : List (ℤ × RuleConf)} {mods : List FlowMod} {mod : FlowMod}
    (flows : List.Forall₂ placement.FlowOf entries mods) (member : mod ∈ mods) :
    ∃ entry ∈ entries, placement.FlowOf entry mod := by
  induction flows with
  | nil => cases member
  | cons flow _ ih =>
      rcases List.mem_cons.mp member with rfl | member
      · exact ⟨_, List.mem_cons_self, flow⟩
      · obtain ⟨entry, listed, flow⟩ := ih member
        exact ⟨entry, List.mem_cons_of_mem _ listed, flow⟩

theorem exists_flow {entries : List (ℤ × RuleConf)} {mods : List FlowMod}
    {entry : ℤ × RuleConf} (flows : List.Forall₂ placement.FlowOf entries mods)
    (member : entry ∈ entries) : ∃ mod ∈ mods, placement.FlowOf entry mod := by
  induction flows with
  | nil => cases member
  | cons flow _ ih =>
      rcases List.mem_cons.mp member with rfl | member
      · exact ⟨_, List.mem_cons_self, flow⟩
      · obtain ⟨mod, listed, flow⟩ := ih member
        exact ⟨mod, List.mem_cons_of_mem _ listed, flow⟩

/-- A list is built when each of its rules has a flow. -/
theorem exists_buildRules {top : ℤ}
    (flows : ∀ entry ∈ numbered top rules, ∃ mod, placement.FlowOf entry mod) :
    ∃ own, buildRulesOfmsgs placement.table placement.context aclPriority placement.exactMatch
      false top rules = some own := by
  induction rules generalizing top with
  | nil => exact ⟨[], rfl⟩
  | cons rule rest ih =>
      obtain ⟨mod, flow⟩ := flows (top, rule) List.mem_cons_self
      obtain ⟨first, built⟩ := exists_buildRule flow
      obtain ⟨later, laterBuilt⟩ := ih fun entry member =>
        flows entry (List.mem_cons_of_mem _ member)
      refine ⟨first ++ later, ?_⟩
      rw [buildRulesOfmsgs, built, laterBuilt]
      rfl

/-- What the flow of a rule is, when the lists are not for exact matches. -/
theorem flowOf_spec {mod : FlowMod} (plain : placement.exactMatch = false)
    (flow : placement.FlowOf (priority, rule) mod) :
    ∃ entry trimmed, buildAclEntry rule placement.context = some entry ∧
      placement.table.trimInst entry.inst = some trimmed ∧
      placement.table.verifies entry.matchFields = true ∧ (mod.priority : ℤ) = priority ∧
      priority ≤ 65535 ∧ mod.command = .add ∧ mod.tableId = placement.table.tableId.val ∧
      mod.matchFields = matchFromDict (rule.matchDict placement.context) ∧
      mod.instructions = trimmed.map Inst.wire := by
  obtain ⟨entry, builds, flow⟩ := flow
  rw [plain] at flow
  obtain ⟨trimmed, trims, verified, _, low, high, rfl⟩ := AclTable.flowmod_iff.mp flow
  obtain ⟨_, _, same⟩ := Option.map_eq_some_iff.mp builds
  refine ⟨entry, trimmed, builds, trims, verified, Int.toNat_of_nonneg low, high, rfl, rfl, ?_, rfl⟩
  rw [← same]

end Build

/-! ## All places -/

/-- What is built of several parts, one after the other. -/
def collect : List (Option (List Ofmsg)) → Option (List Ofmsg)
  | [] => some []
  | part :: rest => do
      let first ← part
      let later ← collect rest
      some (first ++ later)

section Collect

variable {parts : List (Option (List Ofmsg))} {all own : List Ofmsg} {ofmsg : Ofmsg}

theorem collect_spec (built : collect parts = some all) :
    (∀ part ∈ parts, ∃ own, part = some own ∧ own ⊆ all) ∧
      ∀ ofmsg ∈ all, ∃ own, some own ∈ parts ∧ ofmsg ∈ own := by
  induction parts generalizing all with
  | nil =>
      cases built
      exact ⟨nofun, nofun⟩
  | cons part rest ih =>
      rw [collect] at built
      obtain ⟨first, rfl, remaining⟩ := Option.bind_eq_some_iff.mp built
      obtain ⟨later, laterBuilt, both⟩ := Option.bind_eq_some_iff.mp remaining
      cases both
      obtain ⟨within, from_⟩ := ih laterBuilt
      constructor
      · intro part member
        rcases List.mem_cons.mp member with rfl | member
        · exact ⟨first, rfl, List.subset_append_left _ _⟩
        · obtain ⟨own, rfl, subset⟩ := within part member
          exact ⟨own, rfl, fun _ listed => List.mem_append_right _ (subset listed)⟩
      · intro ofmsg member
        rcases List.mem_append.mp member with member | member
        · exact ⟨first, List.mem_cons_self, member⟩
        · obtain ⟨own, listed, member⟩ := from_ ofmsg member
          exact ⟨own, List.mem_cons_of_mem _ listed, member⟩

theorem exists_collect (built : ∀ part ∈ parts, ∃ own, part = some own) :
    ∃ all, collect parts = some all := by
  induction parts with
  | nil => exact ⟨[], rfl⟩
  | cons part rest ih =>
      obtain ⟨first, rfl⟩ := built part List.mem_cons_self
      obtain ⟨later, laterBuilt⟩ := ih fun part member => built part (List.mem_cons_of_mem _ member)
      exact ⟨first ++ later, by rw [collect, laterBuilt]; rfl⟩

theorem collect_singleton {part : Option (List Ofmsg)} : collect [part] = part := by
  cases part <;> simp [collect]

end Collect

/-- A list of ACLs, or a flow that allows all packets of a place. -/
inductive Part where
  | list (placement : Placement)
  | allow (table : AclTable) (context : Context)

namespace Part

/-- The messages of the part. -/
def ofmsgs : Part → Option (List Ofmsg)
  | list placement => placement.ofmsgs
  | allow table context => AclManager.allow table context.place context.allowTable

/-- The table of the part. -/
def table : Part → AclTable
  | list placement => placement.table
  | allow table _ => table

/-- The context its rules are built in. -/
def context : Part → Context
  | list placement => placement.context
  | allow _ context => context

end Part

namespace AclManager

variable (manager : AclManager)

/-- The list of the datapath. -/
def dpParts : List Part :=
  if manager.dpAcls = [] then []
  else manager.portAclTable.toList.map fun table =>
    .list ⟨table, manager.portContext none, manager.dpAcls, false⟩

/-- What there is for a port. -/
def portParts (port : Port) : List Part :=
  (manager.portAclsAllowed port).toList.flatMap fun table =>
    if port.aclsIn ≠ [] then
      [.list ⟨table, manager.portContext (some port.number), port.aclsIn, exactMatch port.aclsIn⟩]
    else if !port.dot1x then
      [.allow table (manager.portContext (some port.number))]
    else []

/-- What there is for the incoming packets of a VLAN. -/
def vlanInParts (vlan : Vlan) : List Part :=
  if vlan.aclsIn = [] then []
  else manager.vlanAclTable.toList.map fun table =>
    .list ⟨table, manager.vlanInContext vlan.vid, vlan.aclsIn, exactMatch vlan.aclsIn⟩

/-- What there is for the outgoing packets of a VLAN. -/
def vlanOutParts (vlan : Vlan) : List Part :=
  manager.egressAclTable.toList.map fun table =>
    if vlan.aclsOut ≠ [] then
      .list ⟨table, manager.vlanOutContext vlan.vid, vlan.aclsOut, exactMatch vlan.aclsOut⟩
    else .allow table (manager.vlanOutContext vlan.vid)

/-- The ACLs of a VLAN, for packets that come in and then for those that go out. -/
def vlanParts (vlan : Vlan) : List Part := manager.vlanInParts vlan ++ manager.vlanOutParts vlan

/-- All that there is, with the ports that come up. -/
def parts (ports : List Port) (vlans : List Vlan) : List Part :=
  manager.dpParts ++ vlans.flatMap manager.vlanParts ++ ports.flatMap manager.portParts

/-- What the manager sends when the datapath starts. -/
def messages (ports : List Port) (vlans : List Vlan) : Option (List Ofmsg) :=
  collect (manager.initialiseTables :: vlans.map manager.addVlan ++ ports.map manager.addPort)

/-- There are tables for the ACLs that are configured. -/
structure HasTables (vlans : List Vlan) : Prop where
  dp : manager.dpAcls ≠ [] → manager.portAclTable ≠ none
  vlanIn : ∀ vlan ∈ vlans, vlan.aclsIn ≠ [] → manager.vlanAclTable ≠ none

section Parts

variable {manager} {ports : List Port} {vlans : List Vlan}

theorem addPort_eq (port : Port) :
    manager.addPort port = collect ((manager.portParts port).map Part.ofmsgs) := by
  rw [addPort, portParts]
  cases manager.portAclsAllowed port with
  | none => rfl
  | some table =>
      by_cases acls : port.aclsIn = []
      · cases dot1x : port.dot1x
        · simp [acls, collect_singleton, Part.ofmsgs]
          rfl
        · simp [acls, collect]
      · simp [acls, collect_singleton, Part.ofmsgs, Placement.ofmsgs]

theorem addVlanOut_eq (vlan : Vlan) :
    manager.addVlanOut vlan = collect ((manager.vlanOutParts vlan).map Part.ofmsgs) := by
  rw [addVlanOut, vlanOutParts]
  cases manager.egressAclTable with
  | none => rfl
  | some table =>
      by_cases acls : vlan.aclsOut = []
      · simp [acls, collect_singleton, Part.ofmsgs]
        rfl
      · simp [acls, collect_singleton, Part.ofmsgs, Placement.ofmsgs]

theorem addVlanIn_eq (vlan : Vlan) (table : vlan.aclsIn ≠ [] → manager.vlanAclTable ≠ none) :
    manager.addVlanIn vlan = collect ((manager.vlanInParts vlan).map Part.ofmsgs) := by
  rw [addVlanIn, vlanInParts]
  cases acls : vlan.aclsIn with
  | nil => rfl
  | cons first rest =>
      rw [acls] at table
      cases isTable : manager.vlanAclTable with
      | none => exact absurd isTable (table (List.cons_ne_nil _ _))
      | some table => simp [collect_singleton, Part.ofmsgs, Placement.ofmsgs]

theorem initialiseTables_eq (table : manager.dpAcls ≠ [] → manager.portAclTable ≠ none) :
    manager.initialiseTables = collect (manager.dpParts.map Part.ofmsgs) := by
  rw [initialiseTables, dpParts]
  cases acls : manager.dpAcls with
  | nil => rfl
  | cons first rest =>
      rw [acls] at table
      cases isTable : manager.portAclTable with
      | none => exact absurd isTable (table (List.cons_ne_nil _ _))
      | some table => simp [collect_singleton, Part.ofmsgs, Placement.ofmsgs]

theorem collect_append {first later : List (Option (List Ofmsg))} :
    collect (first ++ later) = (collect first).bind fun all =>
      (collect later).map (all ++ ·) := by
  induction first with
  | nil => simp [collect]
  | cons part rest ih =>
      rw [List.cons_append, collect, collect, ih]
      cases part <;> cases collect rest <;> cases collect later <;> simp

/-- Parts that are built together are built one after the other. -/
theorem collect_flatMap {α : Type} {values : List α} {build : α → Option (List Ofmsg)}
    {among : α → List Part}
    (same : ∀ value ∈ values, build value = collect ((among value).map Part.ofmsgs)) :
    collect (values.map build) = collect ((values.flatMap among).map Part.ofmsgs) := by
  induction values with
  | nil => rfl
  | cons value rest ih =>
      rw [List.map_cons, collect, same value List.mem_cons_self,
        ih fun other member => same other (List.mem_cons_of_mem _ member), List.flatMap_cons,
        List.map_append, collect_append]
      cases collect ((among value).map Part.ofmsgs) <;> cases collect _ <;> rfl

/-- **What the manager sends** is what is built of the parts. -/
theorem messages_eq (tables : manager.HasTables vlans) :
    manager.messages ports vlans = collect ((manager.parts ports vlans).map Part.ofmsgs) := by
  have ofVlan : ∀ vlan ∈ vlans,
      manager.addVlan vlan = collect ((manager.vlanParts vlan).map Part.ofmsgs) := by
    intro vlan member
    rw [addVlan, addVlanIn_eq vlan (tables.vlanIn vlan member), addVlanOut_eq, vlanParts,
      List.map_append, collect_append]
    cases collect _ <;> cases collect _ <;> rfl
  rw [messages, parts, List.map_append, List.map_append, collect_append, collect,
    initialiseTables_eq tables.dp, collect_flatMap ofVlan,
    collect_flatMap fun port _ => addPort_eq port, collect_append, collect_append]
  cases collect (manager.dpParts.map Part.ofmsgs) with
  | none => rfl
  | some first => cases collect ((vlans.flatMap manager.vlanParts).map Part.ofmsgs) <;> rfl

end Parts

end AclManager

end Faucet.Acl
