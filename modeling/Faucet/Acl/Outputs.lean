import Faucet.Acl.Rules

/-!
# The two forms of output actions

Output actions are written as a dict, or as a list with one action after the other. The
actions of a dict, in the order in which it applies them, are a list too
(`OutputDict.inOrder`), and the rule with that list is meant to do the same as the rule
with the dict, and each to do all that the rule says (`FormsAgree`).

The two builders differ in three places. A dict applies only the first of its VLAN
actions; it leaves out the messages of a tunnel; and the list form takes itself to have
an output port, so that it leaves out connection tracking unless the packet is allowed.
Elsewhere the forms agree, and there alone (`formsAgree_iff`).
-/

set_option autoImplicit false

namespace Faucet.Acl

open OpenFlow

/-! ## The forms -/

namespace OutputDict

variable (conf : OutputDict)

/-- The actions as a list, in the order in which the dict form applies them. -/
def inOrder : List OutputAction :=
  conf.popVlans.toList.map .popVlans ++ (conf.vlanVid.toList.map .vlanVid ++
    (conf.swapVid.toList.map .swapVid ++ (conf.vlanVids.toList.map .vlanVids ++
      (conf.setFields.toList.map .setFields ++ (conf.port.toList.map .port ++
        (conf.ports.toList.map .ports ++ (conf.failover.toList.map .failover ++
          (conf.tunnel.toList.map .tunnel ++ conf.goto.toList.map .goto))))))))

variable (via : OutputResult)

/-- The actions that the keys stand for. -/
def actions : List Act :=
  conf.popVlans.toList.flatMap (List.replicate · .popVlan) ++
    (conf.vlanVid.toList.flatMap pushVlan ++ (conf.swapVid.toList.map setVlanVid ++
      (conf.vlanVids.toList.flatMap (·.flatMap pushVlan) ++
        (conf.setFields.toList.flatMap (·.map .setField) ++ (conf.port.toList.map .output ++
          (conf.ports.toList.flatMap (·.map .output) ++
            (conf.failover.toList.map (fun failover => .group failover.groupId) ++
              via.actions)))))))

/-- The messages that the keys stand for. -/
def messages : List Ofmsg := conf.failover.toList.flatMap Failover.groupadd ++ via.ofmsgs

/-- The instructions that the keys stand for. -/
def instructions : List Inst := via.inst ++ conf.goto.toList.map .gotoTable

/-- At most one of the VLAN actions does anything. -/
def OneRewrite : Prop :=
  (conf.vlanVid.isSome → conf.swapVid = none ∧ conf.vlanVids.getD [] = []) ∧
    (conf.swapVid.isSome → conf.vlanVids.getD [] = [])

instance : Decidable conf.OneRewrite := inferInstanceAs (Decidable (_ ∧ _))

end OutputDict

/-- The rule with other output actions. -/
def RuleConf.withOutput (rule : RuleConf) (actions : Actions) (output : Output) : RuleConf :=
  { rule with actions := some { actions with output := some output } }

/-! ## What a flow does -/

/-- The actions of `apply_actions`. -/
def Inst.actions : Inst → List Act
  | applyActions actions => actions
  | _ => []

/-- The meter of a meter instruction. -/
def Inst.meterId : Inst → Option ℕ
  | meter meterId => some meterId
  | _ => none

/-- The table of a `goto_table`. -/
def Inst.target : Inst → Option ℕ
  | gotoTable tableId => some tableId
  | _ => none

/-- The packet leaves, or connection tracking gets it. -/
def Act.emits (act : Act) : Bool := act.outputs || act.isCt || act == .ctClear

/-- What becomes of a packet. -/
structure Effect (π : Type) where
  meters : List ℕ
  emitted : List (Act × π)
  /-- The tables where the packet goes on, and what it is by then. -/
  next : List (ℕ × π)

section Packets

variable {π : Type} (rewrite : Act → π → π)

/-- The packet as each emitting action has it, and as it is in the end. -/
def process : List Act → π → List (Act × π) × π
  | [], packet => ([], packet)
  | act :: rest, packet =>
      let later := process rest (rewrite act packet)
      ((if act.emits then [(act, packet)] else []) ++ later.1, later.2)

/-- What the instructions do to a packet. -/
def effect (inst : List Inst) (packet : π) : Effect π :=
  let after := process rewrite (inst.flatMap Inst.actions) packet
  { meters := inst.filterMap Inst.meterId
    emitted := after.1
    next := (inst.filterMap Inst.target).map fun tableId => (tableId, after.2) }

end Packets

/-- The flows of the entries do the same with every packet. -/
structure SameFlow (first second : AclEntry) : Prop where
  matchFields : first.matchFields = second.matchFields
  cookie : first.cookie = second.cookie
  effect : ∀ (π : Type) (rewrite : Act → π → π) (packet : π),
    effect rewrite first.inst packet = effect rewrite second.inst packet

/-- All that the rule says is in the entry. -/
structure KeepsAll (actions : Actions) (conf : OutputDict) (via : OutputResult)
    (entry : AclEntry) : Prop where
  actions : (actions.mirror.toList.map Act.output ++ (conf.actions via ++
    actions.ct.toList.map buildCtActions)).Sublist (entry.inst.flatMap Inst.actions)
  messages : (conf.messages via).Sublist entry.ofmsgs
  instructions : (conf.instructions via).Sublist entry.inst

/-- The meter of the rule is known, and so is what its tunnel does. -/
structure Known (actions : Actions) (conf : OutputDict) (context : Context) (meter : List Inst)
    (via : OutputResult) : Prop where
  meter : actions.meterInst context = some meter
  tunnel : conf.viaTunnel (tunnelActions context.tunnelRules) = some via

/-- The rule with the dict and the one with the list have the same flow and the same
messages, and neither leaves anything out. -/
def FormsAgree (rule : RuleConf) (actions : Actions) (conf : OutputDict) (via : OutputResult)
    (context : Context) : Prop :=
  ∃ dict list, buildAclEntry (rule.withOutput actions (.dict conf)) context = some dict ∧
    buildAclEntry (rule.withOutput actions (.ordered conf.inOrder)) context = some list ∧
    SameFlow dict list ∧ dict.ofmsgs = list.ofmsgs ∧
    KeepsAll actions conf via dict ∧ KeepsAll actions conf via list

/-! ## The ordered form -/

section Ordered

variable {tunnel : ℕ → Option OutputResult}

/-- The list is built, with these actions, messages and instructions. -/
def BuildsTo (tunnel : ℕ → Option OutputResult) (list : List OutputAction) (acts : List Act)
    (ofmsgs : List Ofmsg) (inst : List Inst) : Prop :=
  ∃ ports, buildOrderedOutputActions tunnel list = some ⟨some ports, acts, ofmsgs, inst⟩

variable {rest : List OutputAction} {acts : List Act} {ofmsgs : List Ofmsg} {inst : List Inst}

theorem buildsTo_cons {action : OutputAction} {first : OutputResult}
    (builds : action.build tunnel = some first) (later : BuildsTo tunnel rest acts ofmsgs inst) :
    BuildsTo tunnel (action :: rest) (first.actions ++ acts) (first.ofmsgs ++ ofmsgs)
      (first.inst ++ inst) := by
  obtain ⟨ports, later⟩ := later
  exact ⟨_, by rw [buildOrderedOutputActions, builds, later]; rfl⟩

/-- A key that adds actions alone. -/
theorem buildsTo_acts {α : Type} {key : α → OutputAction} {added : α → List Act}
    (builds : ∀ value, ∃ ports, (key value).build tunnel = some ⟨ports, added value, [], []⟩)
    (conf : Option α) (later : BuildsTo tunnel rest acts ofmsgs inst) :
    BuildsTo tunnel (conf.toList.map key ++ rest) (conf.toList.flatMap added ++ acts) ofmsgs
      inst := by
  cases conf with
  | none => exact later
  | some value =>
      obtain ⟨ports, builds⟩ := builds value
      simpa using buildsTo_cons builds later

/-- A key that adds one action. -/
theorem buildsTo_act {α : Type} {key : α → OutputAction} {added : α → Act}
    (builds : ∀ value, ∃ ports, (key value).build tunnel = some ⟨ports, [added value], [], []⟩)
    (conf : Option α) (later : BuildsTo tunnel rest acts ofmsgs inst) :
    BuildsTo tunnel (conf.toList.map key ++ rest) (conf.toList.map added ++ acts) ofmsgs
      inst := by
  rw [← List.flatMap_singleton' (conf.toList.map added), List.flatMap_map]
  exact buildsTo_acts builds conf later

variable {conf : OutputDict} {via : OutputResult}

theorem buildsTo_goto : BuildsTo tunnel (conf.goto.toList.map .goto) [] []
    (conf.goto.toList.map .gotoTable) := by
  cases conf.goto with
  | none => exact ⟨[], rfl⟩
  | some tableId => exact ⟨[], rfl⟩

theorem buildsTo_tunnel (builds : conf.viaTunnel tunnel = some via) :
    BuildsTo tunnel (conf.tunnel.toList.map .tunnel ++ conf.goto.toList.map .goto) via.actions
      via.ofmsgs (conf.instructions via) := by
  rw [OutputDict.viaTunnel] at builds
  rw [OutputDict.instructions]
  split at builds
  next absent =>
    cases builds
    rw [absent]
    exact buildsTo_goto
  next id present =>
    rw [present]
    have built : (OutputAction.tunnel id).build tunnel = some { via with ports := some [] } := by
      rw [OutputAction.build, builds, Option.map_some]
    simpa using buildsTo_cons built buildsTo_goto

theorem buildsTo_failover (builds : conf.viaTunnel tunnel = some via) :
    BuildsTo tunnel
      (conf.failover.toList.map .failover ++
        (conf.tunnel.toList.map .tunnel ++ conf.goto.toList.map .goto))
      (conf.failover.toList.map (fun failover => .group failover.groupId) ++ via.actions)
      (conf.messages via) (conf.instructions via) := by
  rw [OutputDict.messages]
  cases conf.failover with
  | none => exact buildsTo_tunnel builds
  | some failover =>
      have built : (OutputAction.failover failover).build tunnel =
        some ⟨some [], [.group failover.groupId], failover.groupadd, []⟩ := rfl
      simpa using buildsTo_cons built (buildsTo_tunnel builds)

/-- The ordered form does all that the keys stand for. -/
theorem buildOrdered_inOrder (builds : conf.viaTunnel tunnel = some via) :
    BuildsTo tunnel conf.inOrder (conf.actions via) (conf.messages via)
      (conf.instructions via) := by
  refine buildsTo_acts (fun count => ⟨_, rfl⟩) _ ?_
  refine buildsTo_acts (fun vlan => ⟨_, rfl⟩) _ ?_
  refine buildsTo_act (fun vid => ⟨_, rfl⟩) _ ?_
  refine buildsTo_acts (fun vlans => ⟨_, rfl⟩) _ ?_
  refine buildsTo_acts (fun fields => ⟨_, rfl⟩) _ ?_
  refine buildsTo_act (fun port => ⟨_, rfl⟩) _ ?_
  refine buildsTo_acts (fun ports => ⟨_, rfl⟩) _ ?_
  exact buildsTo_failover builds

end Ordered

/-! ## The dict form -/

section Dict

variable {tunnel : ℕ → Option OutputResult} {conf : OutputDict} {via : OutputResult}

/-- The actions of the dict form, with the one way to write a VLAN that it takes. -/
def OutputDict.takenActions (conf : OutputDict) (via : OutputResult) : List Act :=
  rewriteVlan conf ++ (conf.setFields.toList.flatMap (·.map .setField) ++
    (conf.port.toList.map .output ++ (conf.ports.toList.flatMap (·.map .output) ++
      (conf.failover.toList.map (fun failover => .group failover.groupId) ++ via.actions))))

theorem flatMap_toList {α β : Type} (conf : Option (List α)) (f : α → β) :
    conf.toList.flatMap (·.map f) = (conf.getD []).map f := by
  cases conf with
  | none => rfl
  | some values => simp

theorem buildDict_eq (builds : conf.viaTunnel tunnel = some via) :
    buildDictOutputActions tunnel conf = some
      { ports := conf.outputPort.map fun port => [port]
        actions := conf.takenActions via
        ofmsgs := conf.failover.toList.flatMap Failover.groupadd
        inst := conf.instructions via } := by
  rw [buildDictOutputActions, builds, OutputDict.takenActions, flatMap_toList, flatMap_toList]
  simp [OutputDict.instructions]

/-- What the VLAN keys stand for. -/
def OutputDict.vlanActions (conf : OutputDict) : List Act :=
  conf.popVlans.toList.flatMap (List.replicate · .popVlan) ++
    (conf.vlanVid.toList.flatMap pushVlan ++ (conf.swapVid.toList.map setVlanVid ++
      conf.vlanVids.toList.flatMap (·.flatMap pushVlan)))

theorem actions_eq (conf : OutputDict) (via : OutputResult) : ∃ later, conf.actions via = conf.vlanActions ++ later ∧
    conf.takenActions via = rewriteVlan conf ++ later := by
  refine ⟨_, ?_, rfl⟩
  simp only [OutputDict.actions, OutputDict.vlanActions, List.append_assoc]

/-- Of several ways to write a VLAN the dict form takes the first alone. -/
theorem rewriteVlan_eq_iff : rewriteVlan conf = conf.vlanActions ↔ conf.OneRewrite := by
  have pops : List.replicate (conf.popVlans.getD 0) Act.popVlan =
      conf.popVlans.toList.flatMap (List.replicate · .popVlan) := by
    cases conf.popVlans <;> simp
  have pushes : ∀ vlans : List PushedVlan, vlans.flatMap pushVlan = [] ↔ vlans = [] := by
    intro vlans
    cases vlans <;> simp [pushVlan]
  rw [rewriteVlan, OutputDict.vlanActions, pops, List.append_cancel_left_eq,
    OutputDict.OneRewrite]
  cases vlan : conf.vlanVid <;> cases swap : conf.swapVid <;> cases vlans : conf.vlanVids <;>
    simp [pushes, pushVlan]

theorem rewriteVlan_sublist : (rewriteVlan conf).Sublist conf.vlanActions := by
  have pops : List.replicate (conf.popVlans.getD 0) Act.popVlan =
      conf.popVlans.toList.flatMap (List.replicate · .popVlan) := by
    cases conf.popVlans <;> simp
  rw [rewriteVlan, OutputDict.vlanActions, pops]
  refine List.Sublist.append_left ?_ _
  cases conf.vlanVid with
  | some vlan => simp
  | none =>
      cases conf.swapVid with
      | some vid => simp
      | none => cases conf.vlanVids <;> simp

theorem takenActions_sublist : (conf.takenActions via).Sublist (conf.actions via) := by
  obtain ⟨later, all, taken⟩ := actions_eq conf via
  rw [all, taken]
  exact rewriteVlan_sublist.append_right later

theorem takenActions_eq_iff : conf.takenActions via = conf.actions via ↔ conf.OneRewrite := by
  obtain ⟨later, all, taken⟩ := actions_eq conf via
  rw [all, taken, List.append_cancel_right_eq, rewriteVlan_eq_iff]

end Dict

/-! ## What a tunnel does -/

/-- The failover groups of output actions. -/
def Output.failovers : Output → List Failover
  | .dict conf => conf.failover.toList
  | .ordered actions => actions.filterMap fun
      | .failover conf => some conf
      | _ => none

section Tunnels

variable {output : Output} {list : List OutputAction} {result : OutputResult}

/-- The rule of a tunnel has no instructions but gotos. -/
def OnlyGotos (inst : List Inst) : Prop := ∀ instr ∈ inst, ∃ tableId, instr = .gotoTable tableId

theorem onlyGotos_append {first later : List Inst} (gotos : OnlyGotos first)
    (gotos' : OnlyGotos later) : OnlyGotos (first ++ later) := by
  intro instr member
  rcases List.mem_append.mp member with member | member
  · exact gotos instr member
  · exact gotos' instr member

theorem build_plain {action : OutputAction} (builds : action.build noTunnel = some result) :
    OnlyGotos result.inst ∧
      result.ofmsgs = (Output.ordered [action]).failovers.flatMap Failover.groupadd := by
  cases action <;> cases builds <;> simp [OnlyGotos, Output.failovers, OutputResult.nothing]

theorem buildOrdered_plain (builds : buildOrderedOutputActions noTunnel list = some result) :
    OnlyGotos result.inst ∧
      result.ofmsgs = (Output.ordered list).failovers.flatMap Failover.groupadd := by
  induction list generalizing result with
  | nil =>
      cases builds
      exact ⟨nofun, rfl⟩
  | cons action rest ih =>
      rw [buildOrderedOutputActions] at builds
      obtain ⟨first, built, builds⟩ := Option.bind_eq_some_iff.mp builds
      obtain ⟨later, built', builds⟩ := Option.bind_eq_some_iff.mp builds
      cases builds
      obtain ⟨gotos, ofmsgs⟩ := build_plain built
      obtain ⟨gotos', ofmsgs'⟩ := ih built'
      refine ⟨onlyGotos_append gotos gotos', ?_⟩
      rw [OutputResult.append, ofmsgs, ofmsgs', ← List.flatMap_append]
      simp only [Output.failovers, ← List.filterMap_append, List.singleton_append]

theorem buildOutput_plain (builds : buildOutputActions noTunnel output = some result) :
    OnlyGotos result.inst ∧ result.ofmsgs = output.failovers.flatMap Failover.groupadd := by
  cases output with
  | ordered list => exact buildOrdered_plain builds
  | dict conf =>
      have via : conf.viaTunnel noTunnel = some .nothing := by
        rw [OutputDict.viaTunnel]
        split <;> rfl
      rw [buildOutputActions, buildDict_eq via] at builds
      cases builds
      refine ⟨?_, rfl⟩
      intro instr member
      obtain ⟨tableId, _, rfl⟩ := List.mem_map.mp member
      exact ⟨tableId, rfl⟩

theorem groupadds_eq_nil {failovers : List Failover} :
    failovers.flatMap Failover.groupadd = [] ↔ failovers = [] := by
  cases failovers <;> simp [Failover.groupadd]

/-- The rules of the tunnel add no groups. -/
def OutputDict.NoTunnelGroups (conf : OutputDict) (tunnelRules : TunnelRules) : Prop :=
  ∀ id ∈ conf.tunnel, ∀ sourceRule ∈ tunnelRules, ∀ output ∈ sourceRule id, output.failovers = []

variable {conf : OutputDict} {tunnelRules : TunnelRules} {via : OutputResult}

/-- A tunnel does nothing, or what its rule for the source is. -/
theorem viaTunnel_cases (known : conf.viaTunnel (tunnelActions tunnelRules) = some via) :
    (via = .nothing ∧ ∀ id ∈ conf.tunnel, tunnelRules = none) ∨
      ∃ id sourceRule output, conf.tunnel = some id ∧ tunnelRules = some sourceRule ∧
        sourceRule id = some output ∧ buildOutputActions noTunnel output = some via := by
  cases tunnel : conf.tunnel with
  | none =>
      rw [OutputDict.viaTunnel, tunnel] at known
      cases known
      exact .inl ⟨rfl, by simp⟩
  | some id =>
      rw [OutputDict.viaTunnel, tunnel] at known
      dsimp only at known
      cases rules : tunnelRules with
      | none =>
          rw [rules] at known
          cases known
          exact .inl ⟨rfl, fun _ _ => rfl⟩
      | some sourceRule =>
          rw [rules, tunnelActions] at known
          obtain ⟨output, found, builds⟩ := Option.bind_eq_some_iff.mp known
          exact .inr ⟨id, sourceRule, output, rfl, rfl, found, builds⟩

theorem onlyGotos_via (known : conf.viaTunnel (tunnelActions tunnelRules) = some via) :
    OnlyGotos via.inst := by
  rcases viaTunnel_cases known with ⟨rfl, _⟩ | ⟨_, _, _, _, _, _, builds⟩
  · exact nofun
  · exact (buildOutput_plain builds).1

theorem via_ofmsgs_iff (known : conf.viaTunnel (tunnelActions tunnelRules) = some via) :
    via.ofmsgs = [] ↔ conf.NoTunnelGroups tunnelRules := by
  rcases viaTunnel_cases known with ⟨rfl, nowhere⟩ | ⟨id, sourceRule, output, tunnel, rfl, found,
    builds⟩
  · refine ⟨fun _ id isTunnel sourceRule rules => ?_, fun _ => rfl⟩
    rw [nowhere id isTunnel] at rules
    cases rules
  · rw [(buildOutput_plain builds).2, groupadds_eq_nil, OutputDict.NoTunnelGroups, tunnel]
    simp [found]

end Tunnels

/-! ## Rules in the two forms -/

section Entries

variable {rule : RuleConf} {actions : Actions} {conf : OutputDict} {context : Context}
  {meter : List Inst} {via : OutputResult}

/-- The entry with these actions, before and after the packet is allowed or not. -/
def RuleConf.entryOf (rule : RuleConf) (context : Context) (inst : List Inst) (acts : List Act)
    (ofmsgs : List Ofmsg) : AclEntry where
  matchFields := matchFromDict (rule.matchDict context)
  inst := inst ++ if acts.isEmpty then [] else [.applyActions acts]
  cookie := rule.cookie
  ofmsgs

/-- The instructions of a rule, of which the last one is for the packets it allows. -/
def Actions.allInst (actions : Actions) (conf : OutputDict) (context : Context)
    (meter : List Inst) (via : OutputResult) : List Inst :=
  meter ++ conf.instructions via ++ if actions.allowed then actions.allowInst context else []

theorem Actions.build_eq {result : OutputResult} (meterKnown : actions.meterInst context = some meter)
    (output : actions.outputResult context = some result) :
    actions.build context = some
      (meter ++ result.inst ++ (if actions.allowed then actions.allowInst context else []),
        actions.mirror.toList.map .output ++ (result.actions ++
          if actions.allowed || result.ports.isNone then actions.ct.toList.map buildCtActions
          else []), result.ofmsgs) := by
  simp only [Actions.build, meterKnown, output, Option.bind_eq_bind, Option.bind_some]
  cases allowed : actions.allowed <;> cases ports : result.ports <;> simp

/-- The entry of a rule, given what its output actions are. -/
theorem buildAclEntry_withOutput (output : Output) {result : OutputResult}
    (meterKnown : actions.meterInst context = some meter)
    (builds : buildOutputActions (tunnelActions context.tunnelRules) output = some result) :
    buildAclEntry (rule.withOutput actions output) context = some
      (rule.entryOf context
        (meter ++ result.inst ++ (if actions.allowed then actions.allowInst context else []))
        (actions.mirror.toList.map .output ++ (result.actions ++
          if actions.allowed || result.ports.isNone then actions.ct.toList.map buildCtActions
          else [])) result.ofmsgs) := by
  have built : ({ actions with output := some output } : Actions).build context = _ :=
    Actions.build_eq meterKnown builds
  rw [buildAclEntry, RuleConf.build, RuleConf.withOutput]
  dsimp only
  rw [built]
  rfl

/-- The ordered form takes in what follows only if the packet is allowed. -/
theorem buildAclEntry_ordered (rule : RuleConf)
    (known : Known actions conf context meter via) :
    buildAclEntry (rule.withOutput actions (.ordered conf.inOrder)) context = some
      (rule.entryOf context (actions.allInst conf context meter via)
        (actions.mirror.toList.map Act.output ++ (conf.actions via ++
          if actions.allowed then actions.ct.toList.map buildCtActions else []))
        (conf.messages via)) := by
  obtain ⟨ports, builds⟩ := buildOrdered_inOrder known.tunnel
  rw [buildAclEntry_withOutput (.ordered conf.inOrder) known.meter builds]
  simp [Actions.allInst]

/-- Without an output port the dict form takes in what follows in any case. -/
theorem buildAclEntry_dict (rule : RuleConf)
    (known : Known actions conf context meter via) :
    buildAclEntry (rule.withOutput actions (.dict conf)) context = some
      (rule.entryOf context (actions.allInst conf context meter via)
        (actions.mirror.toList.map Act.output ++ (conf.takenActions via ++
          if actions.allowed || conf.outputPort.isNone then
            actions.ct.toList.map buildCtActions else []))
        (conf.failover.toList.flatMap Failover.groupadd)) := by
  rw [buildAclEntry_withOutput (.dict conf) known.meter (buildDict_eq known.tunnel)]
  simp [Actions.allInst]

theorem onlyGotos_allInst (known : Known actions conf context meter via) :
    (actions.allInst conf context meter via).flatMap Inst.actions = [] := by
  have noActs : ∀ instr ∈ conf.instructions via, instr.actions = [] := by
    intro instr member
    rcases List.mem_append.mp member with member | member
    · obtain ⟨tableId, rfl⟩ := onlyGotos_via known.tunnel instr member
      rfl
    · obtain ⟨tableId, _, rfl⟩ := List.mem_map.mp member
      rfl
  have noMeterActs : ∀ instr ∈ meter, instr.actions = [] := by
    intro instr member
    have isMeter := known.meter
    rw [Actions.meterInst] at isMeter
    split at isMeter
    · cases isMeter
      cases member
    · obtain ⟨meterId, _, rfl⟩ := Option.map_eq_some_iff.mp isMeter
      cases List.mem_singleton.mp member
      rfl
  rw [List.flatMap_eq_nil_iff]
  intro instr member
  rcases List.mem_append.mp member with member | member
  · rcases List.mem_append.mp member with member | member
    · exact noMeterActs instr member
    · exact noActs instr member
  · split at member
    · cases List.mem_singleton.mp member
      rfl
    · cases member

theorem entryOf_actions {inst : List Inst} {acts : List Act} {ofmsgs : List Ofmsg}
    (noActs : inst.flatMap Inst.actions = []) :
    (rule.entryOf context inst acts ofmsgs).inst.flatMap Inst.actions = acts := by
  rw [RuleConf.entryOf, List.flatMap_append, noActs, List.nil_append]
  cases acts <;> simp [Inst.actions]

/-- The two forms are the same in effect, and complete. -/
structure SoundForms (actions : Actions) (conf : OutputDict) (context : Context) : Prop where
  oneRewrite : conf.OneRewrite
  noTunnelGroups : conf.NoTunnelGroups context.tunnelRules
  allowedCt : actions.ct.isSome → actions.allowed = true

/-- What is within two parts and has room for both of them leaves nothing out. -/
theorem parts_eq {taken all kept later : List Act} (within : taken.Sublist all)
    (within' : kept.Sublist later) (whole : (all ++ later).Sublist (taken ++ kept)) :
    taken = all ∧ kept = later := by
  have room := whole.length_le
  rw [List.length_append, List.length_append] at room
  have short := within.length_le
  have short' := within'.length_le
  exact ⟨within.eq_of_length (by omega), within'.eq_of_length (by omega)⟩

theorem ite_sublist {kept : Bool} {acts : List Act} :
    (if kept then acts else []).Sublist acts := by
  cases kept <;> simp

end Entries

/-! ## Rules of a port -/

/-- The rules of tunnel 300: it leaves by the first of two ports that is up. -/
def labTunnelRules : TunnelRules :=
  some fun id => if id = 300 then some (.ordered [.failover ⟨7, [1, 2]⟩, .port 1]) else none

/-- The context of a port whose packets are allowed to table 3. -/
def labContext : Context := ⟨fun _ => none, 1, 5, some 3, none, labTunnelRules⟩

/-- A rule without match fields and actions. -/
def labRule : RuleConf := ⟨none, none, none, [], RuleConf.keys_nil⟩

/-- Allow the packet, and send a copy with another VLAN to port 4. -/
def labActions : Actions := ⟨some 1, none, none, none, none, some ⟨true, none, none, none, none,
  none, none, none, none⟩⟩

/-- An output to port 1 and to VLAN 20. -/
def labOutput : OutputDict := ⟨some 1, none, some 20, none, none, some 4, none, none, none, none⟩

/-- Send the packet through the tunnel. -/
def labTunnel : OutputDict := ⟨none, none, none, none, none, none, none, none, some 300, none⟩

end Faucet.Acl
