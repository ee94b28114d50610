import Faucet.Lacp.VlanRules
import Faucet.Learning.Messages

/-!
# What touches the drop rule of a port

A message touches the drop rule of a port only when it is about all that the port sends,
at the priority of that rule. So of a batch the messages `disable_forwarding` and
`enable_forwarding` of the port alone decide what becomes of it (`Decides`, `deliver_of_decides`).
-/

set_option autoImplicit false

namespace Faucet.Lacp

open OpenFlow
open Learning (inPort ethDst vlanVid Touches)

variable {dp : Datapath} {p q : PortNo} {mod : FlowMod} {field : OxmField} {mods more : List FlowMod}

/-! ## Messages that do not touch it -/

theorem match_of_touches (touches : Touches mod (dp.dropFlow p)) :
    mod.matchFields.covers (Datapath.portMatch p) = true := by
  have ofEq : mod.matchFields = Datapath.portMatch p →
      mod.matchFields.covers (Datapath.portMatch p) = true := by
    rintro same
    rw [same]
    exact Match.covers_self
  rcases touches with ⟨_, named⟩ | reaches
  · rw [FlowMod.names, Bool.and_eq_true, beq_iff_eq] at named
    exact ofEq named.2
  · rw [FlowMod.reaches, Bool.and_eq_true] at reaches
    cases command : mod.command with
    | delete =>
        rw [command] at reaches
        exact reaches.2
    | deleteStrict =>
        rw [command] at reaches
        obtain ⟨_, same⟩ := (Bool.and_eq_true _ _).mp reaches.2
        exact ofEq (beq_iff_eq.mp same)
    | _ =>
        rw [command] at reaches
        cases reaches.2

/-- A message that matches another field than the port. -/
theorem not_touches_of_field (member : field ∈ mod.matchFields.items) (other : field.field ≠ 0) :
    ¬ Touches mod (dp.dropFlow p) := by
  intro touches
  obtain ⟨same, listed, covers⟩ := Match.covers_iff.mp (match_of_touches touches) field member
  cases List.mem_singleton.mp listed
  rw [OxmField.covers, Bool.and_eq_true, beq_iff_eq] at covers
  exact other covers.1

/-- A message about another port. -/
theorem not_touches_of_port (member : inPort q ∈ mod.matchFields.items) (different : q ≠ p) :
    ¬ Touches mod (dp.dropFlow p) := by
  intro touches
  have listed := Match.mem_of_covers rfl (match_of_touches touches) member
  cases List.mem_singleton.mp listed
  exact different rfl

/-- An add at another priority. -/
theorem not_touches_of_priority (isAdd : mod.command = .add) (different : mod.priority ≠ dp.highPriority) :
    ¬ Touches mod (dp.dropFlow p) := by
  rintro (⟨_, named⟩ | reaches)
  · rw [FlowMod.names, Bool.and_eq_true, Bool.and_eq_true, beq_iff_eq, beq_iff_eq] at named
    exact different named.1.2
  · simp [FlowMod.reaches, isAdd] at reaches

/-- The message is an add or a delete of the `vlan` table. -/
structure VlanMod (dp : Datapath) (mod : FlowMod) : Prop where
  inTable : mod.tableId = dp.vlanTable.val
  cookie : mod.cookie = dp.flowCookie
  noModify : mod.command ≠ .modifyStrict

theorem vlanMod_flowmod {fields : Match} {priority : ℕ} {instructions : List Instruction} :
    VlanMod dp (dp.flowmod fields priority instructions) := ⟨rfl, rfl, nofun⟩

theorem vlanMod_flowdel {fields : Match} {priority : ℕ} {strict : Bool} :
    VlanMod dp (dp.flowdel fields priority strict) := by
  refine ⟨rfl, rfl, ?_⟩
  cases strict <;> nofun

/-- Messages that do not touch the drop rule of the port. -/
def Quiet (dp : Datapath) (p : PortNo) (mods : List FlowMod) : Prop :=
  ∀ mod ∈ mods, VlanMod dp mod ∧ ¬ Touches mod (dp.dropFlow p)

theorem quiet_nil : Quiet dp p [] := nofun

theorem Quiet.append (first : Quiet dp p mods) (second : Quiet dp p more) :
    Quiet dp p (mods ++ more) := by
  intro mod member
  rcases List.mem_append.mp member with member | member
  · exact first mod member
  · exact second mod member

theorem quiet_singleton (vlanMod : VlanMod dp mod) (untouched : ¬ Touches mod (dp.dropFlow p)) :
    Quiet dp p [mod] := by
  intro other member
  cases List.mem_singleton.mp member
  exact ⟨vlanMod, untouched⟩

theorem Quiet.ite {condition : Prop} [Decidable condition] (first : condition → Quiet dp p mods)
    (second : ¬ condition → Quiet dp p more) : Quiet dp p (if condition then mods else more) := by
  split
  next holds => exact first holds
  next fails => exact second fails

section Rules

variable {priority : ℕ} {instructions : List Instruction} {strict : Bool} {vid : Flooding.Vid}

theorem quiet_flowmod {fields : Match} (member : field ∈ fields.items) (other : field.field ≠ 0) :
    Quiet dp p [dp.flowmod fields priority instructions] :=
  quiet_singleton vlanMod_flowmod (not_touches_of_field member other)

theorem quiet_flowdel {fields : Match} (member : field ∈ fields.items) (other : field.field ≠ 0) :
    Quiet dp p [dp.flowdel fields priority strict] :=
  quiet_singleton vlanMod_flowdel (not_touches_of_field member other)

/-- A rule for all that a port sends, at another priority. -/
theorem quiet_portRule (different : priority ≠ dp.highPriority) :
    Quiet dp p [dp.flowmod (Datapath.portMatch q) priority instructions] :=
  quiet_singleton vlanMod_flowmod (not_touches_of_priority rfl different)

theorem vlanVid_mem : vlanVid vid ∈ (Datapath.vlanMatch q vid).items := by
  rw [Datapath.vlanMatch, Match.mem_ofFields (by simp [inPort, vlanVid])]
  simp

theorem nullVlan_mem : nullVlan ∈ (Datapath.nullVlanMatch q).items := by
  rw [Datapath.nullVlanMatch, Match.mem_ofFields (by simp [inPort, nullVlan])]
  simp

theorem ethTypeSlow_mem : ethTypeSlow ∈ (Datapath.lacpMatch q).items := by
  rw [Datapath.lacpMatch, Match.mem_ofFields (by simp [inPort, ethDst, ethTypeSlow])]
  simp

theorem ethTypeLldp_mem : ethTypeLldp ∈ (Datapath.lldpMatch q).items := by
  rw [Datapath.lldpMatch, Match.mem_ofFields (by simp [inPort, lldpMacNearestBridge, ethTypeLldp])]
  simp

theorem inPort_mem : inPort q ∈ (Datapath.portMatch q).items := List.mem_singleton_self _

end Rules

/-! ## The managers -/

variable {port : LagPort}

theorem quiet_addPort : Quiet dp p (dp.addPort port) := by
  rw [Datapath.addPort]
  refine .append (.ite (fun _ => .append (.append ?_ ?_) (.ite (fun _ => ?_) fun _ => quiet_nil))
    fun _ => quiet_nil) ?_
  · intro mod member
    obtain ⟨vlan, _, rfl⟩ := List.mem_map.mp member
    exact quiet_flowmod vlanVid_mem nofun _ (List.mem_singleton_self _)
  · split
    · exact quiet_flowmod nullVlan_mem nofun
    · exact .ite (fun _ => quiet_flowmod nullVlan_mem nofun) fun _ => quiet_nil
  · exact quiet_flowmod ethTypeSlow_mem nofun
  · split
    · exact (quiet_flowmod nullVlan_mem nofun).append (quiet_portRule dp.managerLow_ne)
    · exact quiet_nil

theorem quiet_delPort : Quiet dp p (dp.delPort port) := by
  rw [Datapath.delPort]
  refine .ite (fun _ => .append (.append (.ite (fun _ => ?_) fun _ => quiet_nil) ?_)
    (.ite (fun _ => ?_) fun _ => quiet_nil)) fun _ => quiet_nil
  · exact quiet_flowdel nullVlan_mem nofun
  · intro mod member
    obtain ⟨vlan, _, rfl⟩ := List.mem_map.mp member
    exact quiet_flowdel vlanVid_mem nofun _ (List.mem_singleton_self _)
  · exact quiet_flowdel ethTypeSlow_mem nofun

theorem quiet_managersAddPort : Quiet dp p (dp.managersAddPort port) := by
  rw [Datapath.managersAddPort]
  refine .append (.append (.append quiet_addPort (.ite (fun _ => ?_) fun _ => quiet_nil)) ?_)
    (.ite (fun _ => ?_) fun _ => quiet_nil)
  · exact quiet_flowmod ethTypeLldp_mem nofun
  · split
    · exact quiet_portRule dp.low_ne
    · exact quiet_nil
  · exact quiet_portRule dp.highest_ne

/-- The delete of all that an output only port has is about that port. -/
theorem quiet_managersDelPort (different : port.number ≠ p) :
    Quiet dp p (dp.managersDelPort port) := by
  rw [Datapath.managersDelPort]
  refine .append (.append quiet_delPort (.ite (fun _ => ?_) fun _ => quiet_nil))
    (.ite (fun _ => ?_) fun _ => quiet_nil)
  · exact quiet_flowdel ethTypeLldp_mem nofun
  · exact quiet_singleton vlanMod_flowdel (not_touches_of_port inPort_mem different)

/-! ## What a batch decides -/

/-- `disable_forwarding` or `enable_forwarding`. -/
def Datapath.ruleMod (dp : Datapath) (p : PortNo) (disables : Bool) : FlowMod :=
  if disables then dp.disableForwarding p else dp.enableForwarding p

/-- The messages that touch the drop rule are all to disable the port, or all to enable it. -/
structure Decides (dp : Datapath) (p : PortNo) (mods : List FlowMod) (verdict : Option Bool) : Prop where
  vlanMods : ∀ mod ∈ mods, VlanMod dp mod
  given : ∀ disables ∈ verdict, dp.ruleMod p disables ∈ mods
  only : ∀ mod ∈ mods, Touches mod (dp.dropFlow p) →
    ∃ disables ∈ verdict, mod = dp.ruleMod p disables

/-- What becomes of the rule. -/
def Datapath.ruleAfter (dp : Datapath) (current : Option FlowEntry) : Option Bool → Option FlowEntry
  | none => current
  | some true => some dp.dropEntry
  | some false => none

theorem Quiet.decides (quiet : Quiet dp p mods) : Decides dp p mods none :=
  ⟨fun mod member => (quiet mod member).1, by simp,
    fun mod member touches => absurd touches (quiet mod member).2⟩

theorem Decides.append {first second : Option Bool} (decides : Decides dp p mods first)
    (decidesMore : Decides dp p more second) (agree : ∀ disables ∈ first, ∀ other ∈ second, disables = other) :
    Decides dp p (mods ++ more) (first.or second) := by
  have mem_or : ∀ disables, (disables ∈ first ∨ disables ∈ second) → disables ∈ first.or second := by
    intro disables member
    cases first with
    | none => exact member.resolve_left nofun
    | some given =>
        rcases member with member | member
        · exact member
        · rw [agree given rfl disables member]
          rfl
  refine ⟨fun mod member => ?_, fun disables member => ?_, fun mod member touches => ?_⟩
  · exact (List.mem_append.mp member).elim (decides.vlanMods mod) (decidesMore.vlanMods mod)
  · cases first with
    | none => exact List.mem_append_right _ (decidesMore.given disables member)
    | some given => exact List.mem_append_left _ (decides.given disables member)
  · rcases List.mem_append.mp member with member | member
    · obtain ⟨disables, listed, same⟩ := decides.only mod member touches
      exact ⟨disables, mem_or disables (.inl listed), same⟩
    · obtain ⟨disables, listed, same⟩ := decidesMore.only mod member touches
      exact ⟨disables, mem_or disables (.inr listed), same⟩

theorem vlanMod_ruleMod {disables : Bool} : VlanMod dp (dp.ruleMod p disables) := by
  cases disables
  · exact vlanMod_flowdel
  · exact vlanMod_flowmod

theorem decides_ruleMod {disables : Bool} : Decides dp p [dp.ruleMod p disables] (some disables) := by
  refine ⟨fun mod member => ?_, fun other member => ?_, fun mod member _ => ⟨disables, rfl, ?_⟩⟩
  · cases List.mem_singleton.mp member
    exact vlanMod_ruleMod
  · cases member
    exact List.mem_singleton_self _
  · exact List.mem_singleton.mp member

/-- The rule of another port. -/
theorem quiet_ruleMod {disables : Bool} (different : q ≠ p) : Quiet dp p [dp.ruleMod q disables] := by
  refine quiet_singleton vlanMod_ruleMod ?_
  cases disables
  · exact not_touches_of_port inPort_mem different
  · exact not_touches_of_port inPort_mem different

/-! ## What becomes of the rule -/

section Delivered

variable {shuffle : Shuffle} {useBarriers : Bool} {switch next : Switch} {input : List Ofmsg}

theorem ruleMod_entry_disable : (dp.ruleMod p true).entry = dp.dropEntry := rfl

theorem ruleMod_names : (dp.ruleMod p true).names (dp.dropFlow p) = true := by
  simp [FlowMod.names, Datapath.ruleMod, Datapath.disableForwarding, Datapath.flowdrop,
    Datapath.flowmod, Datapath.dropFlow]

theorem ruleMod_reaches : (dp.ruleMod p false).reaches (dp.dropFlow p) = true := by
  simp [FlowMod.reaches, Datapath.ruleMod, Datapath.enableForwarding, Datapath.flowdel,
    Datapath.dropFlow]

/-- The messages of a batch about the table. -/
theorem tableMessages_of_decides {verdict : Option Bool} (decides : Decides dp p mods verdict)
    (batch : input.filter (concernsTable dp.vlanTable) = mods.map .flowMod) :
    TableMessages dp.vlanTable dp.flowCookie mods input :=
  ⟨batch, fun mod member => (decides.vlanMods mod member).inTable,
    fun mod member => (decides.vlanMods mod member).cookie⟩

/-- The only adds of the rule are those of `disable_forwarding`. -/
theorem Decides.disables_of_adds {verdict : Option Bool} (decides : Decides dp p mods verdict)
    (member : mod ∈ mods) (isAdd : mod.command = .add) (named : mod.names (dp.dropFlow p) = true) :
    verdict = some true ∧ mod = dp.ruleMod p true := by
  obtain ⟨disables, given, rfl⟩ := decides.only mod member (.inl ⟨isAdd, named⟩)
  cases disables with
  | true => exact ⟨given, rfl⟩
  | false => cases isAdd

/-- **A batch that decides the rule** installs or removes it, whatever it was. -/
theorem deliver_of_decides {disables : Bool} (decides : Decides dp p mods (some disables))
    (batch : input.filter (concernsTable dp.vlanTable) = mods.map .flowMod)
    (delivers : switch.deliver shuffle useBarriers input = some next) :
    next.flows (dp.dropFlow p) = if disables then some dp.dropEntry else none := by
  have messages := tableMessages_of_decides decides batch
  have given := decides.given disables rfl
  cases disables with
  | true =>
      obtain ⟨mod, member, isAdd, named, flows⟩ := messages.deliver_adds
        (fun mod member => (decides.vlanMods mod member).noModify) rfl delivers
        ⟨_, given, rfl, ruleMod_names⟩
      rw [flows, (decides.disables_of_adds member isAdd named).2, ruleMod_entry_disable]
      rfl
  | false =>
      have notAdded : ∀ mod ∈ mods, mod.command = .add → mod.names (dp.dropFlow p) = false := by
        intro mod member isAdd
        rw [← Bool.not_eq_true]
        intro named
        cases (decides.disables_of_adds member isAdd named).1
      refine messages.deliver_deletes rfl delivers notAdded given rfl ?_ ruleMod_reaches rfl
      intro other member notDel sameMatch samePriority
      have isAdd : other.command = .add := by
        have noModify := (decides.vlanMods other member).noModify
        rw [FlowMod.isFlowdel] at notDel
        cases command : other.command <;> simp_all
      have named : other.names (dp.dropFlow p) = true := by
        rw [FlowMod.names, (decides.vlanMods other member).inTable, sameMatch, samePriority]
        simp [Datapath.ruleMod, Datapath.enableForwarding, Datapath.flowdel, Datapath.dropFlow]
      cases (decides.disables_of_adds member isAdd named).1

/-- The rule stays in a batch that does not touch it. -/
theorem deliver_of_quiet (decides : Decides dp p mods none)
    (batch : input.filter (concernsTable dp.vlanTable) = mods.map .flowMod)
    (delivers : switch.deliver shuffle useBarriers input = some next)
    (known : ∀ entry ∈ switch.flows (dp.dropFlow p), entry = dp.dropEntry) :
    next.flows (dp.dropFlow p) = switch.flows (dp.dropFlow p) := by
  refine (tableMessages_of_decides decides batch).deliver_stays
    (fun mod member => (decides.vlanMods mod member).noModify) rfl delivers
    (fun mod member isAdd => ?_) (fun mod member => ?_) fun entry current groupId => ?_
  · rw [← Bool.not_eq_true]
    intro named
    cases (decides.disables_of_adds member isAdd named).1
  · rw [← Bool.not_eq_true]
    intro reaches
    obtain ⟨_, given, _⟩ := decides.only mod member (.inr reaches)
    cases given
  · rw [known entry current]
    rfl

section Cold

variable {verdict : Option Bool} (decides : Decides dp p mods verdict)
  (batch : input.filter (concernsTable dp.vlanTable) = (dp.defaultFlows ++ mods).map .flowMod)
include batch

theorem mem_of_cold (about : mod.tableId = dp.vlanTable.val ∨ mod.tableId = ofpttAll) :
    .flowMod mod ∈ input ↔ mod ∈ dp.defaultFlows ++ mods := by
  have concerns : concernsTable dp.vlanTable (.flowMod mod) = true := by
    simpa [concernsTable] using about
  have ofBatch : .flowMod mod ∈ input.filter (concernsTable dp.vlanTable) ↔ .flowMod mod ∈ input := by
    rw [List.mem_filter, concerns]
    exact and_iff_left rfl
  rw [← ofBatch, batch, List.mem_map]
  constructor
  · rintro ⟨other, member, ⟨⟩⟩
    exact member
  · exact fun member => ⟨mod, member, rfl⟩

/-- Every flow is removed first. -/
theorem removed_of_cold {flow : FlowId} (entry : FlowEntry) : RemovedLinked input flow entry := by
  have listed : Datapath.wildcardFlowdel ∈ dp.defaultFlows ++ mods := by
    simp [Datapath.defaultFlows]
  refine ⟨.flowMod Datapath.wildcardFlowdel, (mem_of_cold batch (.inr rfl)).mpr listed, rfl, ?_, rfl⟩
  rintro ⟨kind, _⟩
  cases kind

include decides

/-- What sets the rule is `disable_forwarding`. -/
theorem eq_disable_of_cold {ofmsg : Ofmsg} (member : ofmsg ∈ input)
    (isSet : sets (dp.dropFlow p) ofmsg = true) :
    verdict = some true ∧ ofmsg = .flowMod (dp.ruleMod p true) := by
  cases ofmsg with
  | flowMod mod =>
      rw [sets, Bool.and_eq_true, Bool.not_eq_true'] at isSet
      obtain ⟨notDel, named⟩ := isSet
      have inTable : mod.tableId = dp.vlanTable.val := by
        rw [FlowMod.names, Bool.and_eq_true, Bool.and_eq_true, beq_iff_eq] at named
        exact named.1.1
      rcases List.mem_append.mp ((mem_of_cold batch (.inl inTable)).mp member) with first | later
      · rw [Datapath.defaultFlows, List.mem_pair] at first
        rcases first with rfl | rfl
        · cases notDel
        · rw [FlowMod.names, Bool.and_eq_true, beq_iff_eq] at named
          cases congrArg Match.items named.2
      · have isAdd : mod.command = .add := by
          have noModify := (decides.vlanMods mod later).noModify
          rw [FlowMod.isFlowdel] at notDel
          cases command : mod.command <;> simp_all
        obtain ⟨same, rfl⟩ := decides.disables_of_adds later isAdd named
        exact ⟨same, rfl⟩
  | _ => cases isSet

/-- **A cold start removes the rule**, unless one of its messages installs it again. -/
theorem deliver_of_cold (noEnable : verdict ≠ some false)
    (delivers : switch.deliver shuffle useBarriers input = some next) :
    next.flows (dp.dropFlow p) = dp.ruleAfter none verdict := by
  cases verdict with
  | none =>
      refine deliver_gone delivers ?_ fun entry _ => removed_of_cold batch entry
      rintro ⟨mod, member, isAdd, named⟩
      have isSet : sets (dp.dropFlow p) (.flowMod mod) = true := by
        simp [sets, FlowMod.isFlowdel, isAdd, named]
      cases (eq_disable_of_cold decides batch member isSet).1
  | some disables =>
      cases disables with
      | false => exact absurd rfl noEnable
      | true =>
          have inTable : (dp.ruleMod p true).tableId = dp.vlanTable.val := rfl
          have sent : .flowMod (dp.ruleMod p true) ∈ input :=
            (mem_of_cold batch (.inl inTable)).mpr
              (List.mem_append_right _ (decides.given true rfl))
          have isSet : sets (dp.dropFlow p) (.flowMod (dp.ruleMod p true)) = true := by
            rw [sets, ruleMod_names]
            rfl
          have some_set : input.filter (sets (dp.dropFlow p)) ≠ [] :=
            List.ne_nil_of_mem (List.mem_filter.mpr ⟨sent, isSet⟩)
          have same : ∀ ofmsg ∈ input.filter (sets (dp.dropFlow p)),
              ofmsg = .flowMod (dp.ruleMod p true) := by
            intro ofmsg member
            obtain ⟨member, isSet⟩ := List.mem_filter.mp member
            exact (eq_disable_of_cold decides batch member isSet).2
          obtain ⟨gone, _, flows⟩ := deliver_flows delivers (dp.dropFlow p)
          obtain ⟨earlier, last, split⟩ := (List.eq_nil_or_concat' _).resolve_left some_set
          rw [split] at same flows
          have oneKey : ∀ ofmsg ∈ earlier ++ [last],
              flowmodkey ofmsg = flowmodkey (.flowMod (dp.ruleMod p true)) :=
            fun ofmsg member => congrArg flowmodkey (same ofmsg member)
          rw [flows, values_of_one_key oneKey, same last (by simp)]
          rfl

end Cold

end Delivered

end Faucet.Lacp
