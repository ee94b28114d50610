import Faucet.Lacp.Forwarding

/-!
# The rules of a port without LACP

The rules of the `vlan` table for the packets of a port are those that the managers want for it as
long as it is running, and there are none when it is not, or is not configured (`portRules`). A
message is about one port (`AboutPort`), so what a batch makes of the rules of a port follows
from the messages about it alone (`Follows`).
-/

set_option autoImplicit false

namespace Faucet.Lacp

open OpenFlow
open Egress (ignorePort)
open Learning (inPort)

variable {dp : Datapath} {p q : PortNo} {mod : FlowMod} {mods rules wanted : List FlowMod}
  {port : LagPort}

/-! ## Messages about a port -/

/-- The message adds or deletes rules for the packets that the port sends. -/
structure AboutPort (dp : Datapath) (p : PortNo) (mod : FlowMod) : Prop where
  vlanMod : VlanMod dp mod
  sends : inPort p ∈ mod.matchFields.items

theorem port_of_match {fields : Match} (first : inPort p ∈ fields.items)
    (second : inPort q ∈ fields.items) : p = q := by
  have kinds : (fields.items.map (·.field)).Nodup :=
    (List.pairwise_map.mpr fields.sorted).imp ne_of_lt
  have same := List.inj_on_of_nodup_map kinds first second rfl
  exact (OxmField.mk.inj same).2.1

theorem aboutPort_flowmod {fields : Match} {priority : ℕ} {instructions : List Instruction}
    (sends : inPort p ∈ fields.items) : AboutPort dp p (dp.flowmod fields priority instructions) :=
  ⟨vlanMod_flowmod, sends⟩

theorem aboutPort_flowdel {fields : Match} {priority : ℕ} {strict : Bool}
    (sends : inPort p ∈ fields.items) : AboutPort dp p (dp.flowdel fields priority strict) :=
  ⟨vlanMod_flowdel, sends⟩

theorem inPort_vlanMatch {vid : Flooding.Vid} : inPort p ∈ (Datapath.vlanMatch p vid).items := by
  rw [Datapath.vlanMatch, Match.mem_ofFields (by simp [inPort, Learning.vlanVid])]
  exact List.mem_cons_self

theorem inPort_nullVlanMatch : inPort p ∈ (Datapath.nullVlanMatch p).items := by
  rw [Datapath.nullVlanMatch, Match.mem_ofFields (by simp [inPort, nullVlan])]
  exact List.mem_cons_self

theorem inPort_lacpMatch : inPort p ∈ (Datapath.lacpMatch p).items := by
  rw [Datapath.lacpMatch, Match.mem_ofFields (by simp [inPort, Learning.ethDst, ethTypeSlow])]
  exact List.mem_cons_self

theorem inPort_lldpMatch : inPort p ∈ (Datapath.lldpMatch p).items := by
  rw [Datapath.lldpMatch, Match.mem_ofFields (by simp [inPort, lldpMacNearestBridge, ethTypeLldp])]
  exact List.mem_cons_self

/-! ## The managers -/

theorem rule_addPort : ∀ mod ∈ dp.addPort port,
    AboutPort dp port.number mod ∧ mod.command = .add := by
  intro mod member
  simp only [Datapath.addPort, List.mem_append, List.mem_ite_nil_right, List.mem_map] at member
  rcases member with ⟨_, ((⟨vlan, _, rfl⟩ | member) | ⟨_, member⟩)⟩ | member
  · exact ⟨aboutPort_flowmod inPort_vlanMatch, rfl⟩
  · split at member
    next =>
      cases List.mem_singleton.mp member
      exact ⟨aboutPort_flowmod inPort_nullVlanMatch, rfl⟩
    next =>
      cases List.mem_singleton.mp (List.mem_ite_nil_right.mp member).2
      exact ⟨aboutPort_flowmod inPort_nullVlanMatch, rfl⟩
  · cases List.mem_singleton.mp member
    exact ⟨aboutPort_flowmod inPort_lacpMatch, rfl⟩
  · split at member
    next =>
      rcases List.mem_pair.mp member with rfl | rfl
      · exact ⟨aboutPort_flowmod inPort_nullVlanMatch, rfl⟩
      · exact ⟨aboutPort_flowmod inPort_mem, rfl⟩
    next => cases member

theorem delete_delPort : ∀ mod ∈ dp.delPort port,
    AboutPort dp port.number mod ∧ mod.command = .delete := by
  intro mod member
  simp only [Datapath.delPort, List.mem_append, List.mem_ite_nil_right, List.mem_map] at member
  rcases member with ⟨_, ((⟨_, member⟩ | ⟨vlan, _, rfl⟩) | ⟨_, member⟩)⟩
  · cases List.mem_singleton.mp member
    exact ⟨aboutPort_flowdel inPort_nullVlanMatch, rfl⟩
  · exact ⟨aboutPort_flowdel inPort_vlanMatch, rfl⟩
  · cases List.mem_singleton.mp member
    exact ⟨aboutPort_flowdel inPort_lacpMatch, rfl⟩

theorem rule_managersAddPort (port : LagPort) : ∀ mod ∈ dp.managersAddPort port,
    AboutPort dp port.number mod ∧ mod.command = .add := by
  intro mod member
  simp only [Datapath.managersAddPort, List.mem_append, List.mem_ite_nil_right] at member
  rcases member with ((member | ⟨_, member⟩) | member) | ⟨_, member⟩
  · exact rule_addPort mod member
  · cases List.mem_singleton.mp member
    exact ⟨aboutPort_flowmod inPort_lldpMatch, rfl⟩
  · split at member
    next =>
      cases List.mem_singleton.mp member
      exact ⟨aboutPort_flowmod inPort_mem, rfl⟩
    next => cases member
  · cases List.mem_singleton.mp member
    exact ⟨aboutPort_flowmod inPort_mem, rfl⟩

theorem delete_managersDelPort (port : LagPort) : ∀ mod ∈ dp.managersDelPort port,
    AboutPort dp port.number mod ∧ mod.command = .delete := by
  intro mod member
  simp only [Datapath.managersDelPort, List.mem_append, List.mem_ite_nil_right] at member
  rcases member with (member | ⟨_, member⟩) | ⟨_, member⟩
  · exact delete_delPort mod member
  · cases List.mem_singleton.mp member
    exact ⟨aboutPort_flowdel inPort_lldpMatch, rfl⟩
  · cases List.mem_singleton.mp member
    exact ⟨aboutPort_flowdel inPort_mem, rfl⟩

theorem aboutPort_changed {coldStart : Bool} : ∀ mod ∈ (if port.forwards then
      [dp.enableForwarding port.number] else dp.disableForwarding port.number ::
        if coldStart then [] else dp.delPort port ++ dp.addPort port),
    AboutPort dp port.number mod := by
  intro mod member
  split at member
  · cases List.mem_singleton.mp member
    exact aboutPort_flowdel inPort_mem
  · rcases List.mem_cons.mp member with rfl | member
    · exact aboutPort_flowmod inPort_mem
    · split at member
      · cases member
      · rcases List.mem_append.mp member with member | member
        · exact (delete_delPort mod member).1
        · exact (rule_addPort mod member).1

theorem aboutPort_lacpUpdate (port : LagPort) {lacpUp lacpPkt coldStart selected : Bool}
    {now : Option ℤ} :
    ∀ mod ∈ (dp.lacpUpdate port lacpUp lacpPkt coldStart selected now).2,
      AboutPort dp port.number mod := by
  intro mod member
  generalize result : dp.lacpUpdate port lacpUp lacpPkt coldStart selected now = next at member
  obtain ⟨updated, _, same⟩ : ∃ (updated : Prop) (_ : Decidable updated), next.2 =
      if updated then
        if next.1.forwards then [dp.enableForwarding next.1.number]
        else dp.disableForwarding next.1.number ::
          if coldStart then [] else dp.delPort next.1 ++ dp.addPort next.1
      else [] := by
    subst result
    exact ⟨_, _, rfl⟩
  have number : next.1.number = port.number := by
    rw [← result]
    exact lacpUpdate_number
  rw [same] at member
  rw [← number]
  split at member
  · exact aboutPort_changed mod member
  · cases member

/-! ## Loops over ports -/

/-- A change of a port keeps its number, and sends messages about it alone. -/
structure OnePort (dp : Datapath) (change : LagPort → LagPort × List FlowMod) : Prop where
  number : ∀ port, (change port).1.number = port.number
  about : ∀ port, ∀ mod ∈ (change port).2, AboutPort dp port.number mod

theorem onePort_lacpUpdate {lacpUp lacpPkt coldStart : Bool} {now : Option ℤ}
    (nominated : PortNo → Bool) : OnePort dp fun port =>
      dp.lacpUpdate port lacpUp lacpPkt coldStart (nominated port.number) now :=
  ⟨fun _ => lacpUpdate_number, fun port => aboutPort_lacpUpdate port⟩

theorem onePort_portUp (dp : Datapath) (nominated : PortNo → Bool) (coldStart : Bool) :
    OnePort dp (dp.portUp nominated coldStart) := by
  refine ⟨(local_portUp dp 0 nominated coldStart).number, fun port mod member => ?_⟩
  rw [Datapath.portUp] at member
  dsimp only at member
  split at member
  · cases member
  · split at member
    · rcases List.mem_append.mp member with member | member
      · exact (rule_managersAddPort (port.setPhysUp true) mod member).1
      · exact aboutPort_lacpUpdate (port.setPhysUp true) mod member
    · exact (rule_managersAddPort (port.setPhysUp true) mod member).1

theorem onePort_portDown (dp : Datapath) (nominated : PortNo → Bool) :
    OnePort dp (dp.portDown nominated) := by
  refine ⟨(local_portDown dp 0 nominated).number, fun port mod member => ?_⟩
  rw [Datapath.portDown] at member
  split at member
  · exact aboutPort_lacpUpdate (port.setPhysUp false) mod member
  · exact (delete_managersDelPort (port.setPhysUp false) mod member).1

section EachPort

variable {change : LagPort → LagPort × List FlowMod} {ports : List LagPort}
  {numbers : List PortNo}

/-- The messages of a loop are about ports. -/
theorem OnePort.about_eachPort (onePort : OnePort dp change) :
    ∀ mod ∈ (eachPort change ports numbers).2, ∃ q, AboutPort dp q mod := by
  induction numbers generalizing ports with
  | nil => exact List.forall_mem_nil _
  | cons portNo rest ih =>
      rw [eachPort]
      cases port? ports portNo with
      | none => exact ih
      | some port =>
          intro mod member
          rcases List.mem_append.mp member with own | later
          · exact ⟨port.number, onePort.about port mod own⟩
          · exact ih mod later

theorem findPort_setPort_none (next : LagPort) (absent : findPort ports p = none) :
    findPort (setPort ports next) p = none := by
  rw [findPort, List.find?_eq_none] at absent ⊢
  intro other member
  obtain ⟨earlier, known, rfl⟩ := List.mem_map.mp member
  have different := absent earlier known
  split
  next same =>
    rw [← same]
    exact different
  next => exact different

/-- A port that is not there or not in the list stays, and there are no messages about it. -/
theorem OnePort.eachPort_of_absent (onePort : OnePort dp change)
    (absent : findPort ports p = none ∨ p ∉ numbers) :
    findPort (eachPort change ports numbers).1 p = findPort ports p ∧
      ∀ mod ∈ (eachPort change ports numbers).2, inPort p ∉ mod.matchFields.items := by
  induction numbers generalizing ports with
  | nil => exact ⟨rfl, List.forall_mem_nil _⟩
  | cons portNo rest ih =>
      have later : findPort ports p = none ∨ p ∉ rest :=
        absent.imp_right fun absent member => absent (List.mem_cons_of_mem _ member)
      rw [eachPort]
      cases there : port? ports portNo with
      | none => exact ih later
      | some other =>
          have found := findPort_of_port? there
          have different : other.number ≠ p := by
            rintro rfl
            rw [number_of_findPort found] at absent
            rcases absent with none | absent
            · cases found.symm.trans none
            · exact absent List.mem_cons_self
          have stays : findPort (setPort ports (change other).1) p = findPort ports p := by
            cases known : findPort ports p with
            | none => exact findPort_setPort_none _ known
            | some port => rw [findPort_setPort _ known, onePort.number, if_neg different]
          have aside : findPort (setPort ports (change other).1) p = none ∨ p ∉ rest := by
            rwa [stays]
          obtain ⟨kept, others⟩ := ih aside
          refine ⟨kept.trans stays, fun mod member sends => ?_⟩
          rcases List.mem_append.mp member with first | later
          · exact different (port_of_match (onePort.about other mod first).sends sends)
          · exact others mod later sends

/-- A port that is listed once is changed, and the messages about it are those of this change. -/
theorem OnePort.eachPort_of_mem (onePort : OnePort dp change) (once : numbers.Nodup)
    (member : p ∈ numbers) (valid : ignorePort p = false) (found : findPort ports p = some port) :
    findPort (eachPort change ports numbers).1 p = some (change port).1 ∧
      ∀ mod, mod ∈ (eachPort change ports numbers).2 ∧ inPort p ∈ mod.matchFields.items ↔
        mod ∈ (change port).2 := by
  have own : port.number = p := number_of_findPort found
  induction numbers generalizing ports with
  | nil => cases member
  | cons portNo rest ih =>
      rw [List.nodup_cons] at once
      rw [eachPort]
      by_cases same : portNo = p
      · subst same
        rw [port?_of_valid valid, found]
        dsimp only
        have aside : findPort (setPort ports (change port).1) portNo = none ∨ portNo ∉ rest :=
          .inr once.1
        obtain ⟨kept, others⟩ := onePort.eachPort_of_absent aside
        refine ⟨kept.trans ?_, fun mod => ⟨?_, fun listed => ⟨List.mem_append_left _ listed, ?_⟩⟩⟩
        · rw [findPort_setPort _ found, onePort.number, if_pos own]
        · rintro ⟨listed, sends⟩
          rcases List.mem_append.mp listed with first | later
          · exact first
          · exact absurd sends (others mod later)
        · rw [← own]
          exact (onePort.about port mod listed).sends
      · have later : p ∈ rest := (List.mem_cons.mp member).resolve_left (Ne.symm same)
        cases there : port? ports portNo with
        | none => exact ih once.2 later found
        | some other =>
            have otherNumber := number_of_findPort (findPort_of_port? there)
            have different : other.number ≠ p := otherNumber ▸ same
            have stays := findPort_setPort (change other).1 found
            rw [onePort.number, if_neg different] at stays
            obtain ⟨final, messages⟩ := ih once.2 later stays
            refine ⟨final, fun mod => Iff.trans ?_ (messages mod)⟩
            refine and_congr_left fun sends => ?_
            rw [List.mem_append]
            refine or_iff_right fun first => ?_
            exact different (port_of_match (onePort.about other mod first).sends sends)

/-- **The rule for a loop that has each port once**, seen from one port. -/
theorem OnePort.eachPort_own (onePort : OnePort dp change) (ports : List LagPort)
    (once : numbers.Nodup) (valid : ignorePort p = false) :
    findPort (eachPort change ports numbers).1 p =
        (findPort ports p).map (fun port => if p ∈ numbers then (change port).1 else port) ∧
      ∀ mod, mod ∈ (eachPort change ports numbers).2 ∧ inPort p ∈ mod.matchFields.items ↔
        p ∈ numbers ∧ ∃ port ∈ findPort ports p, mod ∈ (change port).2 := by
  by_cases absent : findPort ports p = none ∨ p ∉ numbers
  · obtain ⟨kept, others⟩ := onePort.eachPort_of_absent absent
    refine ⟨kept.trans ?_, fun mod => ⟨fun own => absurd own.2 (others mod own.1), ?_⟩⟩
    · rcases absent with none | absent
      · rw [none, Option.map_none]
      · simp only [if_neg absent, Option.map_id']
    · rintro ⟨member, port, found, _⟩
      rcases absent with none | absent
      · cases found.symm.trans none
      · exact absurd member absent
  · rw [not_or, not_not] at absent
    obtain ⟨isThere, member⟩ := absent
    obtain ⟨port, found⟩ := Option.ne_none_iff_exists'.mp isThere
    obtain ⟨final, messages⟩ := onePort.eachPort_of_mem once member valid found
    refine ⟨?_, fun mod => (messages mod).trans ?_⟩
    · rw [final, found, Option.map_some, if_pos member]
    · rw [found]
      simp only [member, true_and, Option.mem_some_iff, exists_eq_left']

theorem map_number_setPort (next : LagPort) :
    (setPort ports next).map (·.number) = ports.map (·.number) := by
  rw [setPort, List.map_map]
  refine List.map_congr_left fun port _ => ?_
  rw [Function.comp_apply]
  split
  next same => exact same.symm
  next => rfl

theorem map_number_eachPort :
    (eachPort change ports numbers).1.map (·.number) = ports.map (·.number) := by
  induction numbers generalizing ports with
  | nil => rfl
  | cons portNo rest ih =>
      rw [eachPort]
      cases port? ports portNo with
      | none => exact ih
      | some other => exact ih.trans (map_number_setPort _)

end EachPort

/-! ## What a batch makes of the rules of a port -/

/-- A flow has the entry of a rule for it, or there is neither a rule nor the flow. -/
def Ruled (rules : List FlowMod) (flow : FlowId) (entry : Option FlowEntry) : Prop :=
  (∃ rule ∈ rules, rule.names flow = true ∧ entry = some rule.entry) ∨
    (∀ rule ∈ rules, rule.names flow = false) ∧ entry = none

/-- Of all rules of the table for packets of the port there are just these. -/
def HasRules (dp : Datapath) (p : PortNo) (rules : List FlowMod) (switch : Switch) : Prop :=
  ∀ flow, flow.tableId = dp.vlanTable → inPort p ∈ flow.matchFields.items →
    Ruled rules flow (switch.flows flow)

/-- A delete of what the rule installs. -/
structure Withdraws (delete rule : FlowMod) : Prop where
  command : delete.command = .delete
  anyPort : delete.outPort = none
  matchFields : delete.matchFields = rule.matchFields
  priority : delete.priority = rule.priority

/-- The messages about the port add the rules that are wanted, and delete the others. -/
structure Rewrites (p : PortNo) (rules mods wanted : List FlowMod) : Prop where
  only : ∀ mod ∈ mods, inPort p ∈ mod.matchFields.items → mod.command = .add → mod ∈ wanted
  adds : ∀ mod ∈ wanted, mod ∈ mods ∧ mod.command = .add
  deletes : ∀ rule ∈ rules, rule ∈ wanted ∨ ∃ delete ∈ mods, Withdraws delete rule

/-- There are no messages about the port and its rules are as wanted. -/
structure Leaves (p : PortNo) (rules mods wanted : List FlowMod) : Prop where
  others : ∀ mod ∈ mods, inPort p ∉ mod.matchFields.items
  same : rules = wanted

section Delivered

variable {shuffle : Shuffle} {useBarriers : Bool} {switch next : Switch} {input : List Ofmsg}
  {flow : FlowId}

theorem match_of_names (named : mod.names flow = true) : mod.matchFields = flow.matchFields := by
  rw [FlowMod.names, Bool.and_eq_true, beq_iff_eq] at named
  exact named.2

theorem sends_of_names (sends : inPort p ∈ flow.matchFields.items) (named : mod.names flow = true) :
    inPort p ∈ mod.matchFields.items := by
  rw [match_of_names named]
  exact sends

/-- A message that reaches a flow of the port is about the port. -/
theorem sends_of_reaches (about : AboutPort dp q mod) (sends : inPort p ∈ flow.matchFields.items)
    (reaches : mod.reaches flow = true) : inPort p ∈ mod.matchFields.items := by
  rw [FlowMod.reaches, Bool.and_eq_true] at reaches
  cases command : mod.command with
  | delete =>
      rw [command] at reaches
      have listed := Match.mem_of_covers rfl reaches.2 about.sends
      rw [port_of_match sends listed]
      exact about.sends
  | deleteStrict =>
      rw [command] at reaches
      obtain ⟨_, same⟩ := (Bool.and_eq_true _ _).mp reaches.2
      rw [beq_iff_eq.mp same]
      exact sends
  | _ =>
      rw [command] at reaches
      cases reaches.2

theorem Withdraws.removes {delete rule : FlowMod} {entry : FlowEntry}
    (withdraws : Withdraws delete rule) (inTable : delete.tableId = flow.tableId.val)
    (named : rule.names flow = true) : delete.removes flow entry = true := by
  rw [FlowMod.removes, FlowMod.reaches, FlowMod.outPortMatches, withdraws.command,
    withdraws.anyPort, withdraws.matchFields, match_of_names named, Match.covers_self, inTable]
  simp

theorem add_of_not_isFlowdel (vlanMod : VlanMod dp mod) (notDel : mod.isFlowdel = false) :
    mod.command = .add := by
  have noModify := vlanMod.noModify
  rw [FlowMod.isFlowdel] at notDel
  cases command : mod.command <;> simp_all

section Table

variable (about : ∀ mod ∈ mods, ∃ q, AboutPort dp q mod)
  (batch : input.filter (concernsTable dp.vlanTable) = mods.map .flowMod)
  (delivers : switch.deliver shuffle useBarriers input = some next)
include about

theorem noModify_of_about : ∀ mod ∈ mods, mod.command ≠ .modifyStrict :=
  fun mod member => (about mod member).elim fun _ about => about.vlanMod.noModify

include batch

theorem tableMessages_of_about : TableMessages dp.vlanTable dp.flowCookie mods input :=
  ⟨batch, fun mod member => (about mod member).elim fun _ about => about.vlanMod.inTable,
    fun mod member => (about mod member).elim fun _ about => about.vlanMod.cookie⟩

include delivers

/-- **The rules of a port that a batch rewrites** are those that are wanted. -/
theorem Rewrites.hasRules (rewrites : Rewrites p rules mods wanted)
    (before : HasRules dp p rules switch) : HasRules dp p wanted next := by
  intro flow inTable sends
  have messages := tableMessages_of_about about batch
  by_cases named : ∃ mod ∈ wanted, mod.names flow = true
  · obtain ⟨rule, listed, isNamed⟩ := named
    obtain ⟨sent, isAdd⟩ := rewrites.adds rule listed
    obtain ⟨mod, member, isAdd, isNamed, flows⟩ := messages.deliver_adds
      (noModify_of_about about) inTable delivers ⟨rule, sent, isAdd, isNamed⟩
    exact .inl ⟨mod, rewrites.only mod member (sends_of_names sends isNamed) isAdd, isNamed, flows⟩
  · have unnamed : ∀ mod ∈ wanted, mod.names flow = false := by
      intro mod listed
      rw [← Bool.not_eq_true]
      exact fun isNamed => named ⟨mod, listed, isNamed⟩
    refine .inr ⟨unnamed, deliver_gone delivers ?_ fun entry current => ?_⟩
    · rw [messages.adds_iff inTable]
      rintro ⟨mod, member, isAdd, isNamed⟩
      exact named ⟨mod, rewrites.only mod member (sends_of_names sends isNamed) isAdd, isNamed⟩
    · rcases before flow inTable sends with ⟨rule, listed, isNamed, _⟩ | ⟨_, none⟩
      · rcases rewrites.deletes rule listed with still | ⟨delete, member, withdraws⟩
        · exact absurd ⟨rule, still, isNamed⟩ named
        · obtain ⟨_, aboutDelete⟩ := about delete member
          have sameTable : delete.tableId = flow.tableId.val := by
            rw [aboutDelete.vlanMod.inTable, inTable]
          refine messages.removedLinked_of member (by simp [FlowMod.isFlowdel, withdraws.command])
            (fun other listed' notDel sameMatch samePriority => ?_)
            (withdraws.removes sameTable isNamed)
          -- an add with the key of the delete would be a rule for the flow
          obtain ⟨_, aboutOther⟩ := about other listed'
          have isAdd := add_of_not_isFlowdel aboutOther.vlanMod notDel
          have isNamed' : other.names flow = true := by
            rw [FlowMod.names, Bool.and_eq_true, Bool.and_eq_true, beq_iff_eq,
              beq_iff_eq] at isNamed
            rw [FlowMod.names, aboutOther.vlanMod.inTable, inTable, sameMatch, samePriority,
              withdraws.matchFields, withdraws.priority, isNamed.1.2, isNamed.2]
            simp
          exact named
            ⟨other, rewrites.only other listed' (sends_of_names sends isNamed') isAdd, isNamed'⟩
      · cases current.symm.trans none

/-- The rules of a port that a batch is not about stay, when they refer to no group. -/
theorem Leaves.hasRules (leaves : Leaves p rules mods wanted)
    (noGroups : ∀ rule ∈ rules, ∀ groupId, rule.entry.refersTo groupId = false)
    (before : HasRules dp p rules switch) : HasRules dp p wanted next := by
  intro flow inTable sends
  rw [← leaves.same]
  have messages := tableMessages_of_about about batch
  have stays : next.flows flow = switch.flows flow := by
    refine messages.deliver_stays (noModify_of_about about) inTable delivers
      (fun mod member _ => ?_) (fun mod member => ?_) fun entry current => ?_
    · rw [← Bool.not_eq_true]
      exact fun isNamed => leaves.others mod member (sends_of_names sends isNamed)
    · rw [← Bool.not_eq_true]
      obtain ⟨_, aboutMod⟩ := about mod member
      exact fun reaches => leaves.others mod member (sends_of_reaches aboutMod sends reaches)
    · rcases before flow inTable sends with ⟨rule, listed, _, installed⟩ | ⟨_, none⟩
      · cases current.symm.trans installed
        exact noGroups rule listed
      · cases current.symm.trans none
  rw [stays]
  exact before flow inTable sends

end Table

section Cold

variable (about : ∀ mod ∈ mods, ∃ q, AboutPort dp q mod)
  (batch : input.filter (concernsTable dp.vlanTable) = (dp.defaultFlows ++ mods).map .flowMod)
include about

theorem key_of_cold {mod : FlowMod} (member : mod ∈ mods) (named : mod.names flow = true) :
    flowmodkey (.flowMod mod) =
      some ⟨flow.matchFields, dp.flowCookie, flow.priority, dp.vlanTable.val⟩ := by
  obtain ⟨_, aboutMod⟩ := about mod member
  rw [FlowMod.names, Bool.and_eq_true, Bool.and_eq_true, beq_iff_eq, beq_iff_eq,
    beq_iff_eq] at named
  rw [flowmodkey, named.1.2, named.2, aboutMod.vlanMod.cookie, aboutMod.vlanMod.inTable]

include batch

/-- What sets a flow of the port is an add among the later messages. -/
theorem add_of_cold {ofmsg : Ofmsg} (inTable : flow.tableId = dp.vlanTable)
    (sends : inPort p ∈ flow.matchFields.items) (member : ofmsg ∈ input)
    (isSet : sets flow ofmsg = true) : ∃ mod ∈ mods, ofmsg = .flowMod mod ∧
      mod.command = .add ∧ mod.names flow = true := by
  cases ofmsg with
  | flowMod mod =>
      rw [sets, Bool.and_eq_true, Bool.not_eq_true'] at isSet
      obtain ⟨notDel, named⟩ := isSet
      have sameTable : mod.tableId = dp.vlanTable.val := by
        rw [FlowMod.names, Bool.and_eq_true, Bool.and_eq_true, beq_iff_eq, inTable] at named
        exact named.1.1
      rcases List.mem_append.mp ((mem_of_cold batch (.inl sameTable)).mp member) with first | later
      · rw [Datapath.defaultFlows, List.mem_pair] at first
        rcases first with rfl | rfl
        · cases notDel
        · cases sends_of_names sends named
      · obtain ⟨_, aboutMod⟩ := about mod later
        exact ⟨mod, later, rfl, add_of_not_isFlowdel aboutMod.vlanMod notDel, named⟩
  | _ => cases isSet

/-- **The rules of a port after a cold start** are those that it adds. -/
theorem hasRules_of_cold (delivers : switch.deliver shuffle useBarriers input = some next)
    (only : ∀ mod ∈ mods, inPort p ∈ mod.matchFields.items → mod.command = .add → mod ∈ wanted)
    (adds : ∀ mod ∈ wanted, mod ∈ mods ∧ mod.command = .add) : HasRules dp p wanted next := by
  intro flow inTable sends
  by_cases named : ∃ mod ∈ wanted, mod.names flow = true
  · obtain ⟨rule, listed, isNamed⟩ := named
    obtain ⟨member, isAdd⟩ := adds rule listed
    obtain ⟨_, aboutRule⟩ := about rule member
    have sent : .flowMod rule ∈ input :=
      (mem_of_cold batch (.inl aboutRule.vlanMod.inTable)).mpr (List.mem_append_right _ member)
    have some_set : input.filter (sets flow) ≠ [] := List.ne_nil_of_mem
      (List.mem_filter.mpr ⟨sent, by simp [sets, FlowMod.isFlowdel, isAdd, isNamed]⟩)
    have setters : ∀ ofmsg ∈ input.filter (sets flow), ∃ mod ∈ mods, ofmsg = .flowMod mod ∧
        mod.command = .add ∧ mod.names flow = true := by
      intro ofmsg member
      obtain ⟨member, isSet⟩ := List.mem_filter.mp member
      exact add_of_cold about batch inTable sends member isSet
    obtain ⟨gone, _, flows⟩ := deliver_flows delivers flow
    obtain ⟨earlier, last, split⟩ := (List.eq_nil_or_concat' _).resolve_left some_set
    rw [split] at setters flows
    have oneKey : ∀ ofmsg ∈ earlier ++ [last], flowmodkey ofmsg =
        some ⟨flow.matchFields, dp.flowCookie, flow.priority, dp.vlanTable.val⟩ := by
      intro ofmsg listed
      obtain ⟨mod, member, rfl, _, isNamed⟩ := setters ofmsg listed
      exact key_of_cold about member isNamed
    obtain ⟨mod, member, rfl, isAdd, isNamed⟩ := setters last (by simp)
    refine .inl ⟨mod, only mod member (sends_of_names sends isNamed) isAdd, isNamed, ?_⟩
    rw [flows, values_of_one_key oneKey]
    simp [outcome, Outcome.next, Outcome.run, isAdd]
  · have unnamed : ∀ mod ∈ wanted, mod.names flow = false := by
      intro mod listed
      rw [← Bool.not_eq_true]
      exact fun isNamed => named ⟨mod, listed, isNamed⟩
    refine .inr ⟨unnamed, deliver_gone delivers ?_ fun entry _ => removed_of_cold batch entry⟩
    rintro ⟨mod, member, isAdd, isNamed⟩
    have isSet : sets flow (.flowMod mod) = true := by
      simp [sets, FlowMod.isFlowdel, isAdd, isNamed]
    obtain ⟨other, listed, same, _⟩ := add_of_cold about batch inTable sends member isSet
    cases same
    exact named ⟨mod, only mod listed (sends_of_names sends isNamed) isAdd, isNamed⟩

end Cold

end Delivered

end Faucet.Lacp
