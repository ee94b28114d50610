import Faucet.Acl.Table

/-!
# Rules with tunnels

A rule may send packets through tunnels, by their ids. What a tunnel does for a source is a rule
of its own, which is made when a way to the destination is known
(`updateSourceTunnelRules`). Each of these outputs or goes to a table, so a rule that has
been built with the rules of its tunnels does more than one built without them
(`weight_lt_of_tunnels`).
-/

set_option autoImplicit false

namespace Faucet.Acl

open OpenFlow

/-! ## The tunnels of a rule -/

/-- The id of a tunnel action. -/
def OutputAction.tunnel? : OutputAction → Option ℕ
  | .tunnel id => some id
  | _ => none

/-- The ids of the tunnels, one after the other. -/
def Output.tunnels : Output → List ℕ
  | .dict conf => conf.tunnel.toList
  | .ordered actions => actions.filterMap OutputAction.tunnel?

/-- The ids of the tunnels that the rule outputs to. -/
def RuleConf.tunnels (rule : RuleConf) : List ℕ :=
  match rule.actions.bind (·.output) with
  | none => []
  | some output => output.tunnels

/-! ## What a tunnel does -/

/-- An entry of `tunnel_dests`. -/
structure TunnelDest (Dp : Type) where
  dstDp : Dp
  dstPort : Option PortNo
  exitInstructions : List OutputAction
  maintainEncapsulation : Bool
  reverse : Bool

/-- `PCP_TUNNEL_FLAG`. -/
def pcpTunnelFlag : ℕ := 3
/-- `PCP_TUNNEL_REVERSE_DIRECTION_FLAG`. -/
def pcpTunnelReverseDirectionFlag : ℕ := 4

/-- `vlan_pcp`. -/
def vlanPcp : ℕ := 7

/-- The way of a tunnel at a datapath, from a source, as `update_source_tunnel_rules` is told it:
there is no port only where the tunnel ends at the datapath itself. -/
structure TunnelWay (Dp : Type) where
  dest : TunnelDest Dp
  currDp : Dp
  srcDp : Dp
  tunnelId : ℕ
  outPort : Option PortNo
  outputTable : ℕ
  ends : outPort = none → dest.dstDp = currDp

namespace TunnelWay

variable {Dp : Type} [DecidableEq Dp] (way : TunnelWay Dp)

/-- The VLAN of the tunnel, with the direction in its priority. -/
def encapsulation : List OutputAction :=
  [.vlanVids [⟨way.tunnelId, some ethType8021Q⟩],
    .setFields [⟨vlanPcp, if way.dest.reverse then pcpTunnelReverseDirectionFlag else pcpTunnelFlag⟩]]

/-- The port, or the output table at the end of a tunnel to a datapath. -/
def onward : OutputAction :=
  match way.outPort with
  | none => .goto way.outputTable
  | some port => .port port

/-- The rule that `update_source_tunnel_rules` makes. -/
def updateSourceTunnelRules : List OutputAction :=
  if way.currDp = way.srcDp ∧ way.currDp ≠ way.dest.dstDp then
    way.encapsulation ++ [way.onward, .popVlans 1]
  else if way.currDp = way.dest.dstDp ∧ way.currDp ≠ way.srcDp then
    (if way.dest.maintainEncapsulation then [] else [.popVlans 1]) ++ way.dest.exitInstructions ++
      [way.onward]
  else if way.currDp = way.srcDp ∧ way.currDp = way.dest.dstDp then
    way.dest.exitInstructions ++
      (if way.dest.maintainEncapsulation then way.encapsulation else []) ++ [way.onward]
  else [way.onward]

end TunnelWay

/-- `dyn_tunnel_rules` for one source: the rules of the tunnels whose ways are known. -/
def dynTunnelRules {Dp : Type} [DecidableEq Dp] (ways : ℕ → Option (TunnelWay Dp)) : TunnelRules :=
  some fun id => (ways id).map fun way => .ordered way.updateSourceTunnelRules

/-! ## How much a rule does -/

/-- How many instructions send a packet on. -/
def Inst.weight : Inst → ℕ
  | .applyActions actions => actions.countP Act.outputs
  | .gotoTable _ => 1
  | .meter _ => 0

/-- How many instructions of a rule send a packet on. -/
def weight (inst : List Inst) : ℕ := (inst.map Inst.weight).sum

/-- How many of the actions and instructions send a packet on. -/
def OutputResult.weight (result : OutputResult) : ℕ :=
  result.actions.countP Act.outputs + Acl.weight result.inst

/-- `OFPAT_OUTPUT` or `OFPAT_GROUP`, as it is sent. -/
def sentOutputs : OpenFlow.Act → Bool
  | .output _ | .group _ => true
  | _ => false

/-- How many instructions send a packet on, as they are sent. -/
def sentWeight : Instruction → ℕ
  | .applyActions actions => actions.countP sentOutputs
  | .gotoTable _ => 1
  | _ => 0

section Weight

variable {first later : List Inst} {acts : List Act} {table : AclTable} {inst trimmed : List Inst}

@[simp] theorem weight_nil : weight [] = 0 := rfl

@[simp] theorem weight_cons {instr : Inst} : weight (instr :: later) = instr.weight + weight later :=
  rfl

@[simp] theorem weight_append : weight (first ++ later) = weight first + weight later := by
  simp [weight]

/-- Nothing of it is lost when the instructions are sent. -/
theorem sum_sentWeight : ((inst.map Inst.wire).map sentWeight).sum = weight inst := by
  have sent : ∀ act : Act, sentOutputs act.wire = act.outputs := by
    intro act
    cases act <;> rfl
  have same : ∀ instr : Inst, sentWeight instr.wire = instr.weight := by
    intro instr
    cases instr with
    | applyActions actions =>
        simp only [Inst.wire, sentWeight, Inst.weight, List.countP_map]
        exact List.countP_congr fun act _ => by rw [Function.comp_apply, sent]
    | _ => rfl
  rw [List.map_map, weight]
  congr 1
  exact List.map_congr_left fun instr _ => same instr

/-! ### Trimming -/

theorem countP_trimLoop {newActions pendingActions actions : List Act}
    (none : pendingActions.countP Act.outputs = 0) :
    (trimLoop newActions pendingActions actions).countP Act.outputs =
      newActions.countP Act.outputs + actions.countP Act.outputs := by
  induction actions generalizing newActions pendingActions with
  | nil => simp [trimLoop]
  | cons action rest ih =>
      rw [trimLoop]
      split
      next outputs =>
        rw [ih rfl, List.countP_append, List.countP_append, none]
        simp [outputs]
        omega
      next quiet =>
        have none' : (pendingActions ++ [action]).countP Act.outputs = 0 := by
          rw [List.countP_append, none]
          simp [quiet]
        rw [ih none']
        simp [quiet]

theorem weight_trimEach {gotoPresent : Bool} (trims : table.trimEach gotoPresent inst = some trimmed) :
    weight trimmed = weight inst := by
  induction inst generalizing trimmed with
  | nil =>
      cases trims
      rfl
  | cons instr rest ih =>
      cases instr with
      | applyActions actions =>
          obtain ⟨kept, trimmedActions, trims⟩ := Option.bind_eq_some_iff.mp trims
          obtain ⟨later, laterTrims, trims⟩ := Option.bind_eq_some_iff.mp trims
          have same : kept.countP Act.outputs = actions.countP Act.outputs := by
            rw [AclTable.trimApply] at trimmedActions
            split at trimmedActions
            next =>
              rw [AclTable.trimActions] at trimmedActions
              split at trimmedActions
              next =>
                cases trimmedActions
                rw [countP_trimLoop List.countP_nil, List.countP_nil, Nat.zero_add]
              next => cases trimmedActions
            next =>
              cases trimmedActions
              rfl
          rw [weight_cons, Inst.weight, ← same, ← ih laterTrims]
          cases trims
          split
          next empty => simp [List.isEmpty_iff.mp empty]
          next => rfl
      | _ =>
          obtain ⟨later, laterTrims, trims⟩ := Option.bind_eq_some_iff.mp trims
          cases trims
          rw [weight_cons, weight_cons, ih laterTrims]

/-- Trimming leaves out nothing that sends a packet on. -/
theorem weight_trimInst (trims : table.trimInst inst = some trimmed) :
    weight trimmed = weight inst := by
  rw [AclTable.trimInst] at trims
  split at trims
  next => exact weight_trimEach trims
  next =>
    cases trims
    rfl

end Weight

/-! ### Output actions -/

section Outputs

variable {tunnel : ℕ → Option OutputResult} {list : List OutputAction} {output : Output}
  {result plain : OutputResult}

theorem weight_append_result {first later : OutputResult} :
    (first.append later).weight = first.weight + later.weight := by
  simp only [OutputResult.append, OutputResult.weight, List.countP_append, weight_append]
  omega

/-- Tunnels add to what the other actions do. -/
theorem weight_ordered (some_ : ∀ id result, tunnel id = some result → 1 ≤ result.weight)
    (builds : buildOrderedOutputActions tunnel list = some result)
    (buildsPlain : buildOrderedOutputActions noTunnel list = some plain) :
    plain.weight + (list.filterMap OutputAction.tunnel?).length ≤ result.weight := by
  induction list generalizing result plain with
  | nil =>
      cases builds
      cases buildsPlain
      exact Nat.le_refl _
  | cons action rest ih =>
      obtain ⟨first, built, builds⟩ := Option.bind_eq_some_iff.mp builds
      obtain ⟨later, laterBuilt, builds⟩ := Option.bind_eq_some_iff.mp builds
      cases builds
      obtain ⟨first', built', buildsPlain⟩ := Option.bind_eq_some_iff.mp buildsPlain
      obtain ⟨later', laterBuilt', buildsPlain⟩ := Option.bind_eq_some_iff.mp buildsPlain
      cases buildsPlain
      have rest := ih laterBuilt laterBuilt'
      rw [weight_append_result, weight_append_result]
      cases action with
      | tunnel id =>
          obtain ⟨via, found, rfl⟩ := Option.map_eq_some_iff.mp built
          have more : 1 ≤ via.weight := some_ id via found
          cases built'
          simp only [OutputAction.tunnel?, List.filterMap_cons, List.length_cons]
          simp only [OutputResult.weight, OutputResult.nothing, List.countP_nil, weight_nil] at rest more ⊢
          omega
      | _ =>
          cases Option.some.inj (built.symm.trans built')
          simp only [OutputAction.tunnel?, List.filterMap_cons]
          omega

theorem ports_ordered (builds : buildOrderedOutputActions tunnel list = some result) :
    result.ports.isSome = true := by
  cases list with
  | nil =>
      cases builds
      rfl
  | cons action rest =>
      obtain ⟨first, _, builds⟩ := Option.bind_eq_some_iff.mp builds
      obtain ⟨later, _, builds⟩ := Option.bind_eq_some_iff.mp builds
      cases builds
      rfl

/-- Something that sends the packet on does so, whatever the other actions are. -/
theorem weight_of_onward {action : OutputAction} (member : action ∈ list)
    (onward : ∀ built, action.build tunnel = some built → 1 ≤ built.weight)
    (builds : buildOrderedOutputActions tunnel list = some result) : 1 ≤ result.weight := by
  induction list generalizing result with
  | nil => cases member
  | cons first rest ih =>
      obtain ⟨built, firstBuilt, builds⟩ := Option.bind_eq_some_iff.mp builds
      obtain ⟨later, laterBuilt, builds⟩ := Option.bind_eq_some_iff.mp builds
      cases builds
      rw [weight_append_result]
      rcases List.mem_cons.mp member with rfl | member
      · have := onward built firstBuilt
        omega
      · have := ih member laterBuilt
        omega

/-- Tunnels add to what the other actions do, and a port is known either way. -/
theorem weight_output (some_ : ∀ id result, tunnel id = some result → 1 ≤ result.weight)
    (builds : buildOutputActions tunnel output = some result)
    (buildsPlain : buildOutputActions noTunnel output = some plain) :
    result.ports.isSome = plain.ports.isSome ∧
      plain.weight + output.tunnels.length ≤ result.weight := by
  cases output with
  | ordered list =>
      refine ⟨?_, weight_ordered some_ builds buildsPlain⟩
      rw [ports_ordered builds, ports_ordered buildsPlain]
  | dict conf =>
      obtain ⟨via, found, rfl⟩ := Option.map_eq_some_iff.mp builds
      obtain ⟨via', found', rfl⟩ := Option.map_eq_some_iff.mp buildsPlain
      refine ⟨rfl, ?_⟩
      have more : via'.weight + conf.tunnel.toList.length ≤ via.weight := by
        rw [OutputDict.viaTunnel] at found found'
        cases named : conf.tunnel with
        | none =>
            rw [named] at found found'
            cases found
            cases found'
            exact Nat.le_refl _
        | some id =>
            rw [named] at found found'
            cases found'
            have := some_ id via found
            simpa [OutputResult.weight, OutputResult.nothing] using this
      simp only [OutputResult.weight, List.countP_append, weight_append, Output.tunnels] at more ⊢
      omega

/-- Without tunnels it does not matter what tunnels do. -/
theorem ordered_of_noTunnels (none : list.filterMap OutputAction.tunnel? = []) :
    buildOrderedOutputActions tunnel list = buildOrderedOutputActions noTunnel list := by
  induction list with
  | nil => rfl
  | cons action rest ih =>
      cases action with
      | tunnel id => simp [OutputAction.tunnel?] at none
      | _ =>
          simp only [buildOrderedOutputActions, OutputAction.build]
          rw [ih none]

theorem output_of_noTunnels (none : output.tunnels = []) :
    buildOutputActions tunnel output = buildOutputActions noTunnel output := by
  cases output with
  | ordered list => exact ordered_of_noTunnels none
  | dict conf =>
      have noId : conf.tunnel = Option.none := Option.toList_eq_nil_iff.mp none
      rw [buildOutputActions, buildOutputActions, buildDictOutputActions, buildDictOutputActions,
        OutputDict.viaTunnel, OutputDict.viaTunnel, noId]

end Outputs

/-! ### The rule of a tunnel -/

section Ways

variable {Dp : Type} [DecidableEq Dp] {way : TunnelWay Dp} {ways : ℕ → Option (TunnelWay Dp)}
  {result : OutputResult}

theorem onward_mem : way.onward ∈ way.updateSourceTunnelRules := by
  rw [TunnelWay.updateSourceTunnelRules]
  split_ifs <;> simp

/-- A tunnel sends the packet on. -/
theorem weight_way
    (builds : buildOrderedOutputActions noTunnel way.updateSourceTunnelRules = some result) :
    1 ≤ result.weight := by
  refine weight_of_onward onward_mem (fun built onward => ?_) builds
  rw [TunnelWay.onward] at onward
  split at onward <;> cases onward <;> exact Nat.le_refl 1

theorem weight_tunnelActions {id : ℕ}
    (found : tunnelActions (dynTunnelRules ways) id = some result) : 1 ≤ result.weight := by
  obtain ⟨output, known, builds⟩ := Option.bind_eq_some_iff.mp found
  obtain ⟨way, _, rfl⟩ := Option.map_eq_some_iff.mp known
  exact weight_way builds

end Ways

/-! ### Rules -/

section Rules

variable {Dp : Type} [DecidableEq Dp] {ways : ℕ → Option (TunnelWay Dp)} {rule : RuleConf}
  {context : Context} {entry plain : AclEntry}

/-- Without tunnels it does not matter which rules the tunnels have. -/
theorem entry_of_noTunnels (none : rule.tunnels = []) (tunnelRules tunnelRules' : TunnelRules) :
    buildAclEntry rule { context with tunnelRules } =
      buildAclEntry rule { context with tunnelRules := tunnelRules' } := by
  rw [RuleConf.tunnels] at none
  rw [buildAclEntry, buildAclEntry, RuleConf.build, RuleConf.build]
  cases isActions : rule.actions with
  | none => rfl
  | some actions =>
      have same : actions.outputResult { context with tunnelRules } =
          actions.outputResult { context with tunnelRules := tunnelRules' } := by
        rw [Actions.outputResult, Actions.outputResult]
        cases isOutput : actions.output with
        | none => rfl
        | some output =>
            rw [isActions, Option.bind_some, isOutput] at none
            exact (output_of_noTunnels none).trans (output_of_noTunnels none).symm
      simp only [Actions.build, same]
      rfl

theorem weight_withActions (inst : List Inst) (acts : List Act) :
    weight (inst ++ if acts.isEmpty then [] else [.applyActions acts]) =
      weight inst + acts.countP Act.outputs := by
  cases acts with
  | nil => simp
  | cons => simp [Inst.weight]

/-- **A rule that has been built with its tunnels does more** than without them. -/
theorem weight_lt_of_tunnels (some_ : rule.tunnels ≠ [])
    (builds : buildAclEntry rule { context with tunnelRules := dynTunnelRules ways } = some entry)
    (buildsPlain : buildAclEntry rule { context with tunnelRules := none } = some plain) :
    weight plain.inst < weight entry.inst := by
  rw [RuleConf.tunnels] at some_
  obtain ⟨⟨inst, acts, ofmsgs⟩, built, rfl⟩ := Option.map_eq_some_iff.mp builds
  obtain ⟨⟨inst', acts', ofmsgs'⟩, built', rfl⟩ := Option.map_eq_some_iff.mp buildsPlain
  rw [RuleConf.build] at built built'
  cases isActions : rule.actions with
  | none =>
      rw [isActions] at some_
      exact absurd rfl some_
  | some actions =>
      rw [isActions] at built built' some_
      obtain ⟨meter, metered, built⟩ := Option.bind_eq_some_iff.mp built
      obtain ⟨result, output, built⟩ := Option.bind_eq_some_iff.mp built
      obtain ⟨meter', metered', built'⟩ := Option.bind_eq_some_iff.mp built'
      obtain ⟨result', output', built'⟩ := Option.bind_eq_some_iff.mp built'
      cases Option.some.inj (metered.symm.trans metered')
      cases isOutput : actions.output with
      | none =>
          rw [Option.bind_some, isOutput] at some_
          exact absurd rfl some_
      | some conf =>
          rw [Option.bind_some, isOutput] at some_
          rw [Actions.outputResult, isOutput] at output output'
          have more' := weight_output (fun _ _ => weight_tunnelActions) output output'
          have tunnels : 0 < conf.tunnels.length := List.length_pos_iff.mpr some_
          have allow : actions.allowInst { context with tunnelRules := dynTunnelRules ways } =
              actions.allowInst { context with tunnelRules := none } := rfl
          have more : result'.weight < result.weight := by omega
          dsimp only at built built' ⊢
          rw [more'.1] at built
          rw [weight_withActions, weight_withActions]
          simp only [OutputResult.weight] at more
          split at built
          next =>
            rw [if_pos ‹_›] at built'
            cases built
            cases built'
            simp only [weight_append, List.countP_append]
            omega
          next =>
            rw [if_neg ‹_›] at built'
            cases built
            cases built'
            simp only [weight_append, List.countP_append, allow]
            omega

end Rules

end Faucet.Acl
