import Faucet.Flooding.Messages

/-!
# Calls that leave the wanted rules installed

A call is safe (`CallSafe`) when no disabled port comes up unnoticed, no group is
recreated on a deletion or with different contents, a rule that a deletion wants is
there already and is not swept by the delete of a wider one, and a rule that is no
longer wanted neither is built on the way nor belongs to a port that has no outputs left.

After a safe call a rule of a VLAN is there exactly when it is wanted (`rule_installed`,
`rule_absent`).
-/

set_option autoImplicit false

namespace Faucet.Flooding

open OpenFlow TransitionSystem

/-! ## When a call is safe -/

/-- A rule of the port is sent at once, before all ports have been handled. -/
def InstallsEarly (dp : Dp) (handled : PortsBatch) (vid : Vid) (dst : FloodDst)
    (number : PortNo) : Prop :=
  ∃ vlan ∈ handled.early, vlan.vid = vid ∧ vlan.reservedInternalVlan = false ∧
    ∃ port ∈ vlan.allPorts dst.unicast, port.number = number ∧
      ∃ floodActs, dp.portRule vlan dst port = .install floodActs

/-- A delete of another rule of the port reaches this one too. -/
def Sweeps (dp : Dp) (command : PortsCommand) (handled : PortsBatch) (vid : Vid) (dst : FloodDst)
    (number : PortNo) : Prop :=
  ∃ vlan flowCommand, Builds dp command handled vlan flowCommand ∧ vlan.vid = vid ∧
    ∃ wide ∈ dp.vlanFloodDsts vlan.toVlanConf, wide ≠ dst ∧
      ∃ port ∈ vlan.allPorts wide.unicast, port.number = number ∧
        dp.portRule vlan wide port = .remove ∧
        (floodMatch vid (some number) wide).covers (floodMatch vid (some number) dst) = true

/-- What the loop over the ports of a VLAN does about the rule of a port is enough. -/
def RuleSafe (dp : Dp) (switch : Switch) (command : PortsCommand) (handled : PortsBatch)
    (conf : VlanConf) (dst : FloodDst) (port : Port) : Prop :=
  match dp.portRule (conf.resetPorts handled.ports) dst port with
  | .install _ => command = .delete →
      switch.flows (dp.flowId conf.vid (some port.number) dst) ≠ none ∧
        ¬ Sweeps dp command handled conf.vid dst port.number
  | .remove => ¬ InstallsEarly dp handled conf.vid dst port.number
  | .skip => ¬ InstallsEarly dp handled conf.vid dst port.number ∧
      switch.flows (dp.flowId conf.vid (some port.number) dst) = none

/-- The call is safe in this state. -/
structure CallSafe (dp : Dp) (ports : List Port) (switch : Switch) (command : PortsCommand)
    (portNums : List PortNo) (handled : PortsBatch) : Prop where
  disabled : command = .add → ∀ port ∈ ports, port.number ∈ portNums → port.enabled = false →
    port.dynPhysUp = true ∨ ∀ vid ∈ port.vlans, vid ∈ handled.touched
  deleted : dp.useGroupTable = true → command = .delete → handled.touched = []
  sameGroups : dp.useGroupTable = true → ∀ vlan ∈ handled.early, ∀ conf ∈ dp.vlans,
    conf.vid = vlan.vid → ∀ unicast unicast',
      vlan.floodGroupId unicast = (conf.resetPorts handled.ports).floodGroupId unicast' →
      vlan.floodGroup unicast = (conf.resetPorts handled.ports).floodGroup unicast'
  rules : ∀ conf ∈ dp.vlans, conf.reservedInternalVlan = false → conf.vid ∈ handled.touched →
    ∀ dst ∈ dp.vlanFloodDsts conf, ∀ port ∈ (conf.resetPorts handled.ports).allPorts dst.unicast,
      port.dynPhysUp = true → RuleSafe dp switch command handled conf dst port

/-- The calls for the ports of the event are safe. -/
def StepSafe (dp : Dp) (state : State) (event : Event) : Prop :=
  CallSafe dp state.ports state.switch event.command event.portNums
    (dp.handlePorts event.command state.ports event.portNums)

/-! ## The rules of a call -/

section Call

variable {dp : Dp} {command : PortsCommand} {order : SetOrder} {handled : PortsBatch}
  {ports : List Port} {portNums : List PortNo} {input : List Ofmsg} {switch next : Switch}
  {shuffle : Shuffle} {useBarriers : Bool} {conf : VlanConf} {dst : FloodDst}
  {inPort : Option Port} {floodActs : List Act}

theorem eq_of_vid {other : VlanConf} (known : conf ∈ dp.vlans) (known' : other ∈ dp.vlans)
    (same : conf.vid = other.vid) : conf = other :=
  List.inj_on_of_nodup_map dp.vids known known' same

/-- An add or a modify of a rule that is known by its VLAN, port and destination. -/
theorem setter_of_key {number : Option PortNo} {vid : Vid} {ofmsg : Ofmsg}
    (sends : Sends dp command handled input) (known : dst ∈ allFloodDsts) (member : ofmsg ∈ input)
    (isSet : sets (dp.flowId vid number dst) ofmsg = true) :
    ∃ vlan flowCommand, Builds dp command handled vlan flowCommand ∧ vlan.vid = vid ∧
      ∃ inPort floodActs, dp.ruleActs vlan dst inPort = some floodActs ∧
        inPort.map (·.number) = number := by
  obtain ⟨vlan, flowCommand, builds, dst', listed, inPort, floodActs, wanted, same, _⟩ :=
    sends.setter rfl member isSet
  obtain ⟨rfl, rfl, rfl⟩ := Dp.flowId_inj known (Dp.mem_allFloodDsts listed) same
  exact ⟨vlan, flowCommand, builds, rfl, inPort, floodActs, wanted, rfl⟩

/-- The rules of the VLANs, with their ports at one time, are of different flows. -/
theorem only_setter {other : VlanConf} {flowCommand : FlowCommand} {coldStart : Bool}
    {ofmsg : Ofmsg} (numbers : (ports.map (·.number)).Nodup) (known : conf ∈ dp.vlans)
    (known' : other ∈ dp.vlans) (listed : dst ∈ dp.vlanFloodDsts conf)
    (wanted : dp.ruleActs (conf.resetPorts ports) dst inPort = some floodActs)
    (built : ofmsg ∈ dp.buildFloodRules (other.resetPorts ports) flowCommand coldStart)
    (isSet : sets (dp.flowId conf.vid (inPort.map (·.number)) dst) ofmsg = true) :
    ofmsg = .flowMod
      (dp.buildFloodRule flowCommand conf.vid (inPort.map (·.number)) dst floodActs) := by
  obtain ⟨dst', listed', inPort', floodActs', wanted', same, rfl⟩ := setter_of_vlan built isSet
  obtain ⟨sameVid, sameNumber, rfl⟩ :=
    Dp.flowId_inj (Dp.mem_allFloodDsts listed) (Dp.mem_allFloodDsts listed') same
  cases eq_of_vid known known' sameVid
  have samePort : inPort' = inPort := by
    cases inPort with
    | none =>
        cases inPort' with
        | none => rfl
        | some => cases sameNumber
    | some port =>
        cases inPort' with
        | none => cases sameNumber
        | some port' =>
            have inVlan := (mem_allPorts.mp (Dp.ruleActs_port_iff.mp wanted).1).1
            have inVlan' := (mem_allPorts.mp (Dp.ruleActs_port_iff.mp wanted').1).1
            rw [eq_of_number numbers inVlan' inVlan (Option.some.inj sameNumber).symm]
  subst samePort
  rw [wanted] at wanted'
  cases wanted'
  rfl

/-- A rule that is wanted at the end is the last that is sent of its flow. -/
theorem final_setters (numbers : (handled.ports.map (·.number)).Nodup)
    (batch : input.filter dp.concerns = dp.batchMessages command order handled)
    (known : conf ∈ dp.vlans) (unreserved : conf.reservedInternalVlan = false)
    (touched : conf.vid ∈ handled.touched) (listed : dst ∈ dp.vlanFloodDsts conf)
    (wanted : dp.ruleActs (conf.resetPorts handled.ports) dst inPort = some floodActs) :
    ∃ first final, input.filter (sets (dp.flowId conf.vid (inPort.map (·.number)) dst)) =
        first ++ final ∧ final ≠ [] ∧
      ∀ ofmsg ∈ final, ofmsg = .flowMod
        (dp.buildFloodRule command.flowCommand conf.vid (inPort.map (·.number)) dst floodActs) := by
  have isSet : command.flowCommand = .add ∨ command.flowCommand = .modifyStrict := by
    cases command <;> simp [PortsCommand.flowCommand]
  rw [← filter_sets_concerns dp rfl, batch, Dp.batchMessages, List.filter_append]
  refine ⟨_, _, rfl, List.ne_nil_of_mem (List.mem_filter.mpr
    ⟨mem_finalMessages.mpr ⟨conf.resetPorts handled.ports, ?_, fun _ => unreserved, ?_⟩,
      sets_buildFloodRule floodActs isSet⟩), fun ofmsg member => ?_⟩
  · exact Dp.mem_resolve.mpr ⟨conf, known, order.mem_run.mpr touched, rfl⟩
  · exact Dp.mem_buildFloodRules.mpr ⟨dst, listed, .inl ⟨inPort, floodActs, wanted, rfl⟩⟩
  · obtain ⟨sent, isSet⟩ := List.mem_filter.mp member
    obtain ⟨vlan, resolved, _, built⟩ := mem_finalMessages.mp sent
    obtain ⟨other, known', _, rfl⟩ := Dp.mem_resolve.mp resolved
    exact only_setter numbers known known' listed wanted built isSet

theorem ruleActs_of_outside {port : Port} {vlan : Vlan}
    (outside : port ∉ vlan.allPorts dst.unicast) : dp.ruleActs vlan dst (some port) = none := by
  rw [Dp.ruleActs, if_neg outside]

theorem watched_none {vlan : Vlan} : Watched ports vlan dst none := by
  rintro _ ⟨⟩

/-! ## The ports of a call -/

/-- What a call makes of the ports, when no disabled port comes up unnoticed. -/
structure Handled (dp : Dp) (command : PortsCommand) (ports : List Port)
    (handled : PortsBatch) : Prop where
  numbers : (ports.map (·.number)).Nodup
  follows : Dp.Follows dp ports handled
  frame : ∀ conf : VlanConf, conf.vid ∉ handled.touched →
    conf.resetPorts handled.ports = conf.resetPorts ports
  kept : command = .delete → ∀ port ∈ handled.ports, port.dynPhysUp = true → port ∈ ports

theorem handled_of_unnoticed (numbers : (ports.map (·.number)).Nodup)
    (disabled : command = .add → ∀ port ∈ ports, port.number ∈ portNums → port.enabled = false →
      port.dynPhysUp = true ∨
        ∀ vid ∈ port.vlans, vid ∈ (dp.handlePorts command ports portNums).touched) :
    Handled dp command ports (dp.handlePorts command ports portNums) where
  numbers := numbers
  follows := Dp.follows_handlePorts dp command portNums numbers
  frame := by
    intro conf untouched
    refine Dp.resetPorts_handlePorts numbers untouched ?_
    intro isAdd port member listed isDisabled inVlan
    exact (disabled isAdd port member listed isDisabled).resolve_right fun all =>
      untouched (all conf.vid inVlan)
  kept := by
    rintro rfl port member isUp
    exact Dp.mem_of_up_of_delete member isUp

namespace Handled

variable (calls : Handled dp command ports handled)
include calls

theorem numbers_after : (handled.ports.map (·.number)).Nodup :=
  (numbers_of_config calls.follows.config).symm ▸ calls.numbers

/-- A port that is not flooded to has no rule, before the call as after it. -/
theorem counterpart {port : Port} (member : port ∈ handled.ports)
    (outside : port ∉ (conf.resetPorts handled.ports).allPorts dst.unicast) :
    ∃ before ∈ ports, before.number = port.number ∧
      before ∉ (conf.resetPorts ports).allPorts dst.unicast := by
  obtain ⟨before, member', same⟩ := exists_config calls.follows.config member
  refine ⟨before, member', Port.number_of_config same, fun inVlan => outside ?_⟩
  exact mem_allPorts.mpr ⟨member, (Port.inFlood_of_config same).mp (mem_allPorts.mp inVlan).2⟩

/-- The rule of a VLAN that is not touched, before the call. -/
theorem before_untouched (untouched : conf.vid ∉ handled.touched)
    (watched : Watched handled.ports (conf.resetPorts handled.ports) dst inPort) :
    ∃ before : Option Port, before.map (·.number) = inPort.map (·.number) ∧
      Watched ports (conf.resetPorts ports) dst before ∧
      dp.ruleActs (conf.resetPorts ports) dst before =
        dp.ruleActs (conf.resetPorts handled.ports) dst inPort := by
  rw [calls.frame conf untouched]
  cases inPort with
  | none => exact ⟨none, rfl, watched_none, rfl⟩
  | some port =>
      obtain ⟨member, alive⟩ := watched port rfl
      by_cases inVlan : port ∈ (conf.resetPorts handled.ports).allPorts dst.unicast
      · refine ⟨some port, rfl, ?_, rfl⟩
        rw [calls.frame conf untouched] at inVlan
        rintro _ ⟨⟩
        refine ⟨(mem_allPorts.mp inVlan).1, .inl (alive.resolve_right fun outside => outside ?_)⟩
        rwa [calls.frame conf untouched]
      · obtain ⟨before, member', number, outside⟩ := calls.counterpart member inVlan
        refine ⟨some before, congrArg some number, ?_, ?_⟩
        · rintro _ ⟨⟩
          exact ⟨member', .inr outside⟩
        · rw [calls.frame conf untouched] at inVlan
          rw [ruleActs_of_outside outside, ruleActs_of_outside inVlan]

end Handled

/-! ## What does not happen -/

theorem group_of_refersTo {groupId : ℕ}
    (refers : (dp.floodEntry floodActs).refersTo groupId = true) :
    ∃ target, .group target ∈ floodActs ∧ (groupId = ofpgAll ∨ target = groupId) := by
  obtain ⟨instruction, member, refers⟩ := List.any_eq_true.mp refers
  cases instruction with
  | applyActions actions =>
      obtain ⟨act, listed, refers⟩ := List.any_eq_true.mp refers
      cases act with
      | group target =>
          refine ⟨target, subset_of_floodInst member listed, ?_⟩
          simpa [Act.refersTo] using refers
      | _ => cases refers
  | _ => cases refers

/-- No group of a VLAN is the group that stands for all. -/
theorem floodGroupId_ne_all {snapshot : List Port} {unicast : Bool} (known : conf ∈ dp.vlans) :
    (conf.resetPorts snapshot).floodGroupId unicast ≠ ofpgAll := by
  have bound : ∀ vid : ℕ, vid < vlanGroupOffset → vid ≠ ofpgAll ∧
      vid + vlanGroupOffset ≠ ofpgAll := by
    intro vid bound
    unfold vlanGroupOffset at bound ⊢
    unfold ofpgAll
    omega
  have valid := (dp.vidValid conf known).2
  rw [Vlan.floodGroupId]
  split
  · exact (bound _ valid).2
  · exact (bound _ valid).1

/-- A group of a VLAN is deleted only with the rules of the VLAN. -/
theorem touched_of_group_delete {unicast : Bool} {target groupId : ℕ} {snapshot : List Port}
    (calls : Handled dp command ports handled) (sends : Sends dp command handled input)
    (group : dp.useGroupTable = true) (known : conf ∈ dp.vlans)
    (isTarget : target = (conf.resetPorts snapshot).floodGroupId unicast)
    (deletes : groupId = ofpgAll ∨ target = groupId)
    (member : .groupMod (.delete groupId) ∈ input) : conf.vid ∈ handled.touched := by
  have isGroup : target = conf.vid ∨ target = conf.vid + vlanGroupOffset := by
    rw [isTarget, Vlan.floodGroupId]
    split
    · exact .inr rfl
    · exact .inl rfl
  have concerns : dp.concerns (.groupMod (.delete groupId)) = true := by
    rw [Dp.concerns, group, Bool.true_and, Dp.isFloodGroup, Bool.or_eq_true, beq_iff_eq,
      List.any_eq_true]
    rcases deletes with all | rfl
    · exact .inl all
    · exact .inr ⟨conf, known, by simpa using isGroup⟩
  obtain ⟨vlan, flowCommand, builds, built⟩ := (sends.built _ concerns).mp member
  obtain ⟨_, listed⟩ := groupMod_mem_buildFloodRules.mp built
  obtain ⟨unicast', isDelete | isAdd⟩ := mem_floodGroupMods.mp listed
  · cases isDelete
    obtain ⟨other, known', snapshot', _, rfl, touched⟩ := builds.exists_conf calls.follows
    have valid := (dp.vidValid conf known).2
    have valid' := (dp.vidValid other known').2
    rcases deletes with all | same
    · exact absurd all (floodGroupId_ne_all known')
    · have sameVid : (conf.resetPorts snapshot).vid = (other.resetPorts snapshot').vid :=
        vid_of_floodGroupId valid valid' (isTarget.symm.trans same)
      rw [Dp.resetPorts_vid, Dp.resetPorts_vid] at sameVid
      rwa [sameVid]
  · cases isAdd

/-- A rule of a VLAN that is not touched stays as it is. -/
theorem rule_kept (calls : Handled dp command ports handled)
    (sends : Sends dp command handled input) (known : conf ∈ dp.vlans)
    (listed : dst ∈ dp.vlanFloodDsts conf) (untouched : conf.vid ∉ handled.touched)
    (delivers : switch.deliver shuffle useBarriers input = some next)
    (present : switch.flows (dp.flowId conf.vid (inPort.map (·.number)) dst) =
      (dp.ruleActs (conf.resetPorts ports) dst inPort).map dp.floodEntry) :
    next.flows (dp.flowId conf.vid (inPort.map (·.number)) dst) =
      switch.flows (dp.flowId conf.vid (inPort.map (·.number)) dst) := by
  have isTouched : ∀ {vlan flowCommand}, Builds dp command handled vlan flowCommand →
      vlan.vid = conf.vid → False := by
    intro vlan flowCommand builds same
    obtain ⟨other, _, snapshot, _, rfl, touched⟩ := builds.exists_conf calls.follows
    rw [Dp.resetPorts_vid] at same
    exact untouched (same ▸ touched)
  refine deliver_kept delivers (fun ofmsg member => ?_) fun entry found removed => ?_
  · by_contra isSet
    obtain ⟨vlan, flowCommand, builds, same, _⟩ := setter_of_key sends
      (Dp.mem_allFloodDsts listed) member (by simpa using isSet)
    exact isTouched builds same
  · rcases sends.removed rfl removed with
      ⟨vlan, flowCommand, builds, dst', _, port, _, _, covers, _⟩ | ⟨groupId, member, refers⟩
    · exact isTouched builds (of_floodMatch_covers covers).1
    · rw [present, Option.map_eq_some_iff] at found
      obtain ⟨floodActs, wanted, rfl⟩ := found
      obtain ⟨target, inActs, deletes⟩ := group_of_refersTo refers
      obtain ⟨group, isTarget⟩ := Dp.group_of_ruleActs wanted inActs
      exact untouched (touched_of_group_delete calls sends group known isTarget deletes member)

/-! ## What happens to the rules of a VLAN that is touched -/

theorem vlanActs_isSome {vlan : Vlan} (wanted : dp.vlanActs vlan dst = some floodActs)
    (vlan' : Vlan) : ∃ floodActs', dp.vlanActs vlan' dst = some floodActs' := by
  unfold Dp.vlanActs at wanted ⊢
  split at wanted
  next => cases wanted
  next notCombinatorial =>
    rw [if_neg notCombinatorial]
    split
    · exact ⟨_, rfl⟩
    · exact ⟨_, rfl⟩

/-- A port that is flooded to at some time of the call is flooded to at the end. -/
theorem mem_allPorts_of_builds {vlan : Vlan} {flowCommand : FlowCommand} {port port' : Port}
    {excludeUnicast : Bool} (calls : Handled dp command ports handled)
    (builds : Builds dp command handled vlan flowCommand) (same : vlan.vid = conf.vid)
    (inVlan : port' ∈ vlan.allPorts excludeUnicast) (number : port'.number = port.number)
    (member : port ∈ handled.ports) :
    port ∈ (conf.resetPorts handled.ports).allPorts excludeUnicast := by
  obtain ⟨other, _, snapshot, config, rfl, _⟩ := builds.exists_conf calls.follows
  rw [Dp.resetPorts_vid] at same
  obtain ⟨inSnapshot, inFlood⟩ := mem_allPorts.mp inVlan
  obtain ⟨after, member', sameConfig⟩ :=
    exists_config (config.trans calls.follows.config.symm) inSnapshot
  have isPort : after = port :=
    eq_of_number calls.numbers_after member' member ((Port.number_of_config sameConfig).trans number)
  rw [mem_allPorts, ← isPort, ← same]
  exact ⟨member', (Port.inFlood_of_config sameConfig).mpr inFlood⟩

section Touched

variable (calls : Handled dp command ports handled) (installed : Installed dp ports switch)
  (safe : CallSafe dp ports switch command portNums handled)
  (batch : input.filter dp.concerns = dp.batchMessages command order handled)
  (delivers : switch.deliver shuffle useBarriers input = some next)
  (known : conf ∈ dp.vlans) (unreserved : conf.reservedInternalVlan = false)
  (touched : conf.vid ∈ handled.touched) (listed : dst ∈ dp.vlanFloodDsts conf)
  (watched : Watched handled.ports (conf.resetPorts handled.ports) dst inPort)

include watched in
theorem up_of_watched {port : Port} (isPort : inPort = some port)
    (inVlan : port ∈ (conf.resetPorts handled.ports).allPorts dst.unicast) :
    port.dynPhysUp = true :=
  (watched port isPort).2.resolve_right fun outside => outside inVlan

include calls installed safe known unreserved touched listed watched in
/-- A deletion finds the rule that it wants to modify. -/
theorem present_of_delete (isDelete : command = .delete)
    (wanted : dp.ruleActs (conf.resetPorts handled.ports) dst inPort = some floodActs) :
    ∃ before, switch.flows (dp.flowId conf.vid (inPort.map (·.number)) dst) =
        some (dp.floodEntry before) ∧
      ∀ target, .group target ∈ before → dp.useGroupTable = true := by
  have found : ∃ before, dp.ruleActs (conf.resetPorts ports) dst inPort = some before ∧
      switch.flows (dp.flowId conf.vid (inPort.map (·.number)) dst) =
        some (dp.floodEntry before) := by
    cases inPort with
    | none =>
        obtain ⟨before, wasWanted⟩ := vlanActs_isSome wanted (conf.resetPorts ports)
        refine ⟨before, wasWanted, ?_⟩
        rw [installed.rules conf known unreserved dst listed none watched_none]
        exact congrArg (Option.map dp.floodEntry) wasWanted
    | some port =>
        obtain ⟨inVlan, rule⟩ := Dp.ruleActs_port_iff.mp wanted
        have isUp := up_of_watched watched rfl inVlan
        have rulesSafe := safe.rules conf known unreserved touched dst listed port inVlan isUp
        rw [RuleSafe, rule] at rulesSafe
        have present := (rulesSafe isDelete).1
        have rule' := installed.rules conf known unreserved dst listed (some port) (by
          rintro _ ⟨⟩
          exact ⟨calls.kept isDelete port (watched port rfl).1 isUp, .inl isUp⟩)
        rw [Option.map_some] at rule'
        rw [rule', ne_eq, Option.map_eq_none_iff] at present
        obtain ⟨before, wasWanted⟩ := Option.ne_none_iff_exists'.mp present
        refine ⟨before, wasWanted, ?_⟩
        rw [Option.map_some, rule', wasWanted]
        rfl
  obtain ⟨before, wasWanted, present⟩ := found
  exact ⟨before, present, fun target inActs => (Dp.group_of_ruleActs wasWanted inActs).1⟩

include calls installed safe batch delivers known unreserved touched listed watched in
/-- **A rule that is wanted** after the call is there. -/
theorem rule_installed
    (wanted : dp.ruleActs (conf.resetPorts handled.ports) dst inPort = some floodActs) :
    next.flows (dp.flowId conf.vid (inPort.map (·.number)) dst) =
      some (dp.floodEntry floodActs) := by
  have sends := sends_of_filter batch
  obtain ⟨first, final, setters, some_set, only⟩ :=
    final_setters calls.numbers_after batch known unreserved touched listed wanted
  cases command with
  | add => exact sends.oneTable.deliver_added rfl delivers setters some_set only rfl
  | delete =>
      obtain ⟨before, present, grouped⟩ :=
        present_of_delete calls installed safe known unreserved touched listed watched rfl wanted
      have noGroup : ¬ dp.useGroupTable = true := by
        intro group
        rw [safe.deleted group rfl] at touched
        cases touched
      refine sends.oneTable.deliver_modified rfl delivers setters some_set only rfl present ?_
      intro removed
      rcases sends.removed rfl removed with
        ⟨vlan, flowCommand, builds, wide, listed', port', inVlan', rule', covers, notReadded⟩ |
        ⟨groupId, _, refers⟩
      · obtain ⟨sameVid, isPort⟩ := of_floodMatch_covers covers
        obtain ⟨port, rfl, number⟩ := Option.map_eq_some_iff.mp isPort
        by_cases same : wide = dst
        · obtain ⟨ofmsg, member⟩ := List.exists_mem_of_ne_nil final some_set
          have inInput : ofmsg ∈ input.filter (sets _) :=
            setters ▸ List.mem_append_right _ member
          refine notReadded ⟨ofmsg, (List.mem_filter.mp inInput).1, ?_, ?_⟩
          · exact msgKind_of_sets (List.mem_filter.mp inInput).2
          · rw [only ofmsg member, same, sameVid, ← number]
            rfl
        · obtain ⟨inVlan, rule⟩ := Dp.ruleActs_port_iff.mp wanted
          have isUp := up_of_watched watched rfl inVlan
          have rulesSafe := safe.rules conf known unreserved touched dst listed port inVlan isUp
          rw [RuleSafe, rule] at rulesSafe
          refine (rulesSafe rfl).2 ⟨vlan, flowCommand, builds, sameVid, wide, listed', same, port',
            inVlan', number.symm, rule', ?_⟩
          rw [sameVid, ← number] at covers
          exact covers
      · obtain ⟨target, inActs, _⟩ := group_of_refersTo refers
        exact noGroup (grouped target inActs)

include calls safe batch known unreserved touched listed watched in
/-- A rule that is not wanted is neither added nor modified. -/
theorem unset_of_unwanted
    (unwanted : dp.ruleActs (conf.resetPorts handled.ports) dst inPort = none) :
    ∀ ofmsg ∈ input, sets (dp.flowId conf.vid (inPort.map (·.number)) dst) ofmsg = false := by
  intro ofmsg member
  by_contra isSet
  obtain ⟨vlan, flowCommand, builds, sameVid, inPort', floodActs, wanted, number⟩ :=
    setter_of_key (sends_of_filter batch) (Dp.mem_allFloodDsts listed) member (by simpa using isSet)
  cases inPort with
  | none =>
      cases inPort' with
      | none =>
          obtain ⟨_, some_acts⟩ := vlanActs_isSome wanted (conf.resetPorts handled.ports)
          exact Option.some_ne_none _ (some_acts.symm.trans unwanted)
      | some => cases number
  | some port =>
      cases inPort' with
      | none => cases number
      | some port' =>
          have sameNumber : port'.number = port.number := Option.some.inj number
          obtain ⟨inVlan', rule'⟩ := Dp.ruleActs_port_iff.mp wanted
          have inVlan := mem_allPorts_of_builds calls builds sameVid inVlan' sameNumber
            (watched port rfl).1
          have isUp := up_of_watched watched rfl inVlan
          have rulesSafe := safe.rules conf known unreserved touched dst listed port inVlan isUp
          cases builds with
          | early sent unreserved' =>
              have installs : InstallsEarly dp handled conf.vid dst port.number :=
                ⟨vlan, sent, sameVid, unreserved', port', inVlan', sameNumber, floodActs, rule'⟩
              cases rule : dp.portRule (conf.resetPorts handled.ports) dst port with
              | install floodActs' =>
                  have wanted' := Dp.ruleActs_port_iff.mpr ⟨inVlan, rule⟩
                  rw [unwanted] at wanted'
                  cases wanted'
              | remove =>
                  rw [RuleSafe, rule] at rulesSafe
                  exact rulesSafe installs
              | skip =>
                  rw [RuleSafe, rule] at rulesSafe
                  exact rulesSafe.1 installs
          | final known' =>
              rw [Dp.resetPorts_vid] at sameVid
              cases eq_of_vid known' known sameVid
              have isPort := eq_of_number calls.numbers_after (mem_allPorts.mp inVlan').1
                (mem_allPorts.mp inVlan).1 sameNumber
              rw [isPort, unwanted] at wanted
              cases wanted

include calls installed safe batch delivers known unreserved touched listed watched in
/-- **A rule that is not wanted** after the call is not there. -/
theorem rule_absent (unwanted : dp.ruleActs (conf.resetPorts handled.ports) dst inPort = none) :
    next.flows (dp.flowId conf.vid (inPort.map (·.number)) dst) = none := by
  have sends := sends_of_filter batch
  have unset := unset_of_unwanted calls safe batch known unreserved touched listed watched unwanted
  have notAdded : ¬ Adds input (dp.flowId conf.vid (inPort.map (·.number)) dst) := by
    intro added
    obtain ⟨mod, member, _, isSet⟩ := adds_iff.mp added
    rw [unset _ member] at isSet
    cases isSet
  refine deliver_gone delivers notAdded fun entry present => ?_
  cases inPort with
  | none =>
      have rule := installed.rules conf known unreserved dst listed none watched_none
      rw [Option.map_none] at present rule
      rw [rule, Option.map_eq_some_iff] at present
      obtain ⟨floodActs, wanted, _⟩ := present
      obtain ⟨_, some_acts⟩ := vlanActs_isSome wanted (conf.resetPorts handled.ports)
      exact absurd (some_acts.symm.trans unwanted) (Option.some_ne_none _)
  | some port =>
      rw [Option.map_some] at present unset
      by_cases inVlan : port ∈ (conf.resetPorts handled.ports).allPorts dst.unicast
      · have isUp := up_of_watched watched rfl inVlan
        have rulesSafe := safe.rules conf known unreserved touched dst listed port inVlan isUp
        cases rule : dp.portRule (conf.resetPorts handled.ports) dst port with
        | install floodActs =>
            have wanted := Dp.ruleActs_port_iff.mpr ⟨inVlan, rule⟩
            rw [unwanted] at wanted
            cases wanted
        | remove =>
            have member : .flowMod (dp.floodRuleDel conf.vid port.number dst) ∈ input := by
              refine (sends.built _ (concerns_of_table (.inl rfl))).mpr
                ⟨_, _, .final known touched fun _ => unreserved, ?_⟩
              exact Dp.mem_buildFloodRules.mpr ⟨dst, listed, .inr ⟨rfl, port, inVlan, rule, rfl⟩⟩
            refine ⟨_, member, ?_, fun dropped => ?_, ?_⟩
            · rcases msgKind_flowMod (dp.floodRuleDel conf.vid port.number dst) with
                ⟨_, kind | kind⟩ | ⟨notDel, _⟩
              · simp [isDelete, kind]
              · simp [isDelete, kind]
              · cases notDel
            · obtain ⟨other, member', kind, sameKey⟩ :=
                (sends.oneTable.dropped_iff_readded member rfl).mp dropped
              obtain ⟨mod, rfl, notDel⟩ := flowMod_of_flowaddmod kind
              simp only [flowmodkey, Option.some.injEq, FlowmodKey.mk.injEq] at sameKey
              have isSet := unset _ member'
              rw [sets, notDel, FlowMod.names, sameKey.1, sameKey.2.2.1, sameKey.2.2.2] at isSet
              simp [Dp.floodRuleDel, Dp.flowId] at isSet
            · refine removes_iff.mpr ⟨reaches_floodRuleDel.mpr ⟨rfl, ?_⟩, (by intros; contradiction)⟩
              exact Match.covers_self
        | skip =>
            rw [RuleSafe, rule] at rulesSafe
            rw [rulesSafe.2] at present
            cases present
      · obtain ⟨before, member, number, outside⟩ := calls.counterpart (watched port rfl).1 inVlan
        have rule' := installed.rules conf known unreserved dst listed (some before) (by
          rintro _ ⟨⟩
          exact ⟨member, .inr outside⟩)
        rw [Option.map_some, number, ruleActs_of_outside outside] at rule'
        rw [rule'] at present
        cases present

end Touched

end Call

end Faucet.Flooding
