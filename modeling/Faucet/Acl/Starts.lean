import Faucet.Acl.Accepted

/-!
# Starting a datapath with access lists

The parts of the ACL manager for a configured datapath, each with the table that was made
for its ACLs. All messages of a start can be built just when there are priorities for the
rules, the VLANs are noted where they are matched, and the flows of exact tables have all
their fields (`starts_iff`).
-/

set_option autoImplicit false

namespace Faucet.Acl.DpConf

open OpenFlow
open Faucet.Pipeline (Dp Ipv minimumFaucetPipelineTables faucetPipeline portAclDefaultConfig
  vlanAclDefaultConfig egressAclDefaultConfig)

variable {ν : Type} [DecidableEq ν] {conf : DpConf ν} {rest : Rest} {table : AclTable}
  {part : Part} {name : ν}

/-- What there is for the ACLs of the datapath. -/
def parts (conf : DpConf ν) (rest : Rest) : List Part :=
  (conf.manager rest).parts (conf.ports.map conf.port) (conf.vlans.map conf.vlan)

/-! ## The three tables -/

theorem included_egressAcl {dp : Dp} : dp.included .egressAcl = dp.aclTables.egressAcl.isSome := by
  have fib : ∀ ipv : Ipv, ipv.fibName ≠ .egressAcl := by
    intro ipv
    cases ipv <;> decide
  simp [Dp.included, minimumFaucetPipelineTables, Faucet.Pipeline.AclTables.get, fib, BEq.beq]

theorem table_of_vlan (member : table ∈ (conf.manager rest).vlanAclTable) :
    MadeFor table conf.vlanAcls := by
  have some_ : conf.vlanAcls ≠ [] := by
    intro none
    obtain ⟨valveTable, found, _⟩ := Option.map_eq_some_iff.mp member
    have there := Dp.isSome_table? (conf.dp rest) .vlanAcl
    rw [found, Dp.included_vlanAcl] at there
    have absent : (conf.dp rest).aclTables.vlanAcl = Option.none := tableContents_eq_none.mpr none
    rw [absent] at there
    cases there
  obtain ⟨made, found, isMade⟩ := madeFor_of_table conf rest .vlanAcl vlanAclDefaultConfig
    (by decide) rfl rfl rfl some_
  cases found.symm.trans member
  exact isMade

theorem table_of_egress (member : table ∈ (conf.manager rest).egressAclTable) :
    MadeFor table conf.egressAcls := by
  have some_ : conf.egressAcls ≠ [] := by
    intro none
    obtain ⟨valveTable, found, _⟩ := Option.map_eq_some_iff.mp member
    have there := Dp.isSome_table? (conf.dp rest) .egressAcl
    rw [found, included_egressAcl] at there
    have absent : (conf.dp rest).aclTables.egressAcl = Option.none := tableContents_eq_none.mpr none
    rw [absent] at there
    cases there
  obtain ⟨made, found, isMade⟩ := madeFor_of_table conf rest .egressAcl egressAclDefaultConfig
    (by decide) rfl rfl rfl some_
  cases found.symm.trans member
  exact isMade

theorem table_of_port (some_ : conf.portAcls ≠ [])
    (member : table ∈ (conf.manager rest).portAclTable) : MadeFor table conf.portAcls := by
  obtain ⟨made, found, isMade⟩ := madeFor_of_table conf rest .portAcl portAclDefaultConfig
    (by decide) rfl rfl rfl some_
  cases found.symm.trans member
  exact isMade

/-- Without ACLs the table is the default of hardware with fixed ids. -/
theorem table_without_acls (none : conf.portAcls = [])
    (member : table ∈ (conf.manager rest).portAclTable) : table.matchTypes = [(inPort, false)] := by
  obtain ⟨valveTable, found, rfl⟩ := Option.map_eq_some_iff.mp member
  have there : (conf.dp rest).included .portAcl = true := by
    rw [← Dp.isSome_table?, found]
    rfl
  have isPipeline : portAclDefaultConfig ∈ faucetPipeline := by decide
  obtain ⟨other, found', same⟩ := Dp.exists_table? there isPipeline rfl rfl
  cases found.symm.trans found'
  have absent : (conf.dp rest).aclTables.get .portAcl = Option.none :=
    tableContents_eq_none.mpr none
  have isDefault : portAclDefaultConfig.name = .portAcl := rfl
  rw [Dp.ownConfig, isDefault, absent] at same
  exact congrArg Prod.fst same

/-- The port of a flow may be matched. -/
theorem port_noted (resolved : conf.Resolved) (noDpAcls : conf.dpAcls = [])
    (member : table ∈ (conf.manager rest).portAclTable) :
    MatchTypes.Has table.matchTypes inPort ∧ MatchTypes.Distinct table.matchTypes := by
  by_cases some_ : conf.portAcls = []
  · rw [table_without_acls some_ member]
    exact ⟨⟨false, List.mem_singleton_self _⟩, List.nodup_singleton _⟩
  · have made := table_of_port some_ member
    refine ⟨?_, made.distinct⟩
    obtain ⟨acl, listed⟩ := List.exists_mem_of_ne_nil _ some_
    rw [made.has_iff]
    rcases List.mem_append.mp listed with listed | listed
    · obtain ⟨dot1x, isDot1x, _⟩ := List.mem_flatMap.mp listed
      refine ⟨fixedAcl portAcl8021x, List.mem_append_left _ ?_, false, by decide⟩
      exact List.mem_flatMap.mpr ⟨dot1x, isDot1x, List.mem_cons_self⟩
    · obtain ⟨name, applied, rfl⟩ := List.mem_map.mp listed
      refine ⟨conf.counted name, List.mem_append_right _ listed, ?_⟩
      rcases List.mem_append.mp applied with applied | isTunnel
      · rw [appliedIn, if_pos noDpAcls] at applied
        obtain ⟨port, isPort, applied⟩ := List.mem_flatMap.mp applied
        refine has_inPort resolved noDpAcls ⟨⟨name, none, some port.number⟩, ?_, rfl⟩
        refine List.mem_append_left _ (List.mem_flatMap.mpr ⟨port, isPort, ?_⟩)
        exact List.mem_map.mpr
          ⟨name, List.mem_append_left _ (List.mem_append_left _ applied), rfl⟩
      · rw [counted, remembered, if_pos (resolved.tunnels name isTunnel)]
        exact MatchTypes.has_noteAll.mpr (.inr ⟨(inPort, false), by simp, rfl⟩)

/-! ## Parts -/

/-- All that the parts need, except for the VLANs. -/
structure Sound (part : Part) : Prop where
  ready : part.Ready
  distinct : MatchTypes.Distinct part.table.matchTypes
  covered : (part.context.vid ≠ none → MatchTypes.Has part.table.matchTypes vlanVid) →
    ∀ fields ∈ part.matches, ∀ field ∈ fields.items,
      MatchTypes.Covers part.table.matchTypes field.field field.mask.isSome

theorem sound_list (names : List ν) {acls : List Counted} {context : Context} {exact_ : Bool}
    (resolved : conf.Resolved) (made : MadeFor table acls)
    (counted : ∀ name ∈ names, conf.counted name ∈ acls)
    (used : ∀ name ∈ names, ∃ call ∈ conf.calls, call.name = name)
    (meters : context.meters = conf.meters) (tunnels : context.tunnelRules = none)
    (later : context.vid = none → ∀ name ∈ names, ∃ call ∈ conf.laterCalls, call.name = name)
    (port : context.portNum ≠ none → MatchTypes.Has table.matchTypes inPort) :
    Sound (.list ⟨table, context, names.map fun name => (conf.acl name).conf, exact_⟩) where
  ready := instructed_of_counted resolved made counted used meters tunnels exact_
  distinct := made.distinct
  covered := by
    intro vlan fields member
    obtain ⟨rule, known, rfl⟩ := List.mem_map.mp member
    exact covered_of_counted resolved made counted used later port vlan known

/-- A place with one field. -/
theorem sound_allow {context : Context} {field : OxmField} (isPlace : context.place = .single field)
    (unmasked : field.mask = none) (distinct : MatchTypes.Distinct table.matchTypes)
    (has : (context.vid ≠ none → MatchTypes.Has table.matchTypes vlanVid) →
      MatchTypes.Has table.matchTypes field.field) :
    Sound (.allow table context) where
  ready := trivial
  distinct := distinct
  covered := by
    intro vlan fields member other present
    cases List.mem_singleton.mp member
    rw [isPlace] at present
    cases List.mem_singleton.mp present
    rw [unmasked]
    exact (has vlan).covers

theorem place_of_port (conf : DpConf ν) (rest : Rest) (port : PortNo) :
    ((conf.manager rest).portContext (some port)).place = .single ⟨inPort, port, none⟩ := rfl

theorem place_of_vlan (conf : DpConf ν) (rest : Rest) (vid : ℕ) : ((conf.manager rest).vlanOutContext vid).place =
    .single ⟨vlanVid, vidPresent vid, none⟩ := rfl

omit [DecidableEq ν] in
theorem calls_of_vlan {vlan : VlanConf ν} (isVlan : vlan ∈ conf.vlans)
    (applied : name ∈ vlan.aclsIn ++ vlan.aclsOut) : ∃ call ∈ conf.calls, call.name = name :=
  ⟨⟨name, some vlan.vid, none⟩, List.mem_append_left _ (List.mem_flatMap.mpr
    ⟨vlan, isVlan, List.mem_map.mpr ⟨name, applied, rfl⟩⟩), rfl⟩

omit [DecidableEq ν] in
theorem calls_of_port {port : PortConf ν} (isPort : port ∈ conf.ports)
    (applied : name ∈ port.aclsIn) : ∃ call ∈ conf.laterCalls, call.name = name :=
  ⟨⟨name, none, some port.number⟩, List.mem_append_left _ (List.mem_flatMap.mpr
    ⟨port, isPort, List.mem_map.mpr
      ⟨name, List.mem_append_left _ (List.mem_append_left _ applied), rfl⟩⟩), rfl⟩

omit [DecidableEq ν] in
theorem calls_of_dp (applied : name ∈ conf.dpAcls) : ∃ call ∈ conf.laterCalls, call.name = name :=
  ⟨⟨name, none, none⟩, List.mem_append_right _
    (List.mem_map.mpr ⟨name, List.mem_append_left _ applied, rfl⟩), rfl⟩

omit [DecidableEq ν] in
theorem calls_of_later (used : ∃ call ∈ conf.laterCalls, call.name = name) :
    ∃ call ∈ conf.calls, call.name = name :=
  used.imp fun _ member => ⟨List.mem_append_right _ member.1, member.2⟩

/-- The names that count for a table. -/
theorem counted_applied (applied : name ∈ conf.appliedIn) : conf.counted name ∈ conf.portAcls :=
  List.mem_append_right _ (List.mem_map.mpr ⟨name, List.mem_append_left _ applied, rfl⟩)

theorem part_sound (resolved : conf.Resolved) (member : part ∈ conf.parts rest) : Sound part := by
  rcases AclManager.part_cases member with ⟨member, isTable, _⟩ |
    ⟨_, known, member, isTable, _⟩ | ⟨_, known, member, isTable, _⟩ |
    ⟨_, known, member, isTable, noDpAcls, _⟩
  · -- the ACLs of the datapath
    rw [AclManager.dpParts] at member
    split at member
    next => cases member
    next some_ =>
      obtain ⟨table, _, rfl⟩ := List.mem_map.mp member
      have notEmpty : conf.dpAcls ≠ [] := fun empty => some_ (congrArg (List.map _) empty)
      have counted : ∀ name ∈ conf.dpAcls, conf.counted name ∈ conf.portAcls := fun name applied =>
        counted_applied (by rw [appliedIn, if_neg notEmpty]; exact applied)
      obtain ⟨name, applied⟩ := List.exists_mem_of_ne_nil _ notEmpty
      have made := table_of_port (List.ne_nil_of_mem (counted name applied)) isTable
      exact sound_list conf.dpAcls resolved made counted
        (fun name applied => calls_of_later (calls_of_dp applied)) rfl rfl
        (fun _ name applied => calls_of_dp applied) (fun isPort => absurd rfl isPort)
  · obtain ⟨vlan, isVlan, rfl⟩ := List.mem_map.mp known
    rw [AclManager.vlanInParts] at member
    split at member
    next => cases member
    next =>
      obtain ⟨table, _, rfl⟩ := List.mem_map.mp member
      exact sound_list vlan.aclsIn resolved (table_of_vlan isTable)
        (fun name applied => List.mem_map.mpr
          ⟨name, List.mem_flatMap.mpr ⟨vlan, isVlan, applied⟩, rfl⟩)
        (fun name applied => calls_of_vlan isVlan (List.mem_append_left _ applied)) rfl rfl
        (fun noVlan => absurd noVlan (Option.some_ne_none _)) (fun isPort => absurd rfl isPort)
  · obtain ⟨vlan, isVlan, rfl⟩ := List.mem_map.mp known
    obtain ⟨table, _, rfl⟩ := List.mem_map.mp member
    split at isTable
    next some_ =>
      rw [if_pos some_]
      exact sound_list vlan.aclsOut resolved (table_of_egress isTable)
        (fun name applied => List.mem_map.mpr
          ⟨name, List.mem_flatMap.mpr ⟨vlan, isVlan, applied⟩, rfl⟩)
        (fun name applied => calls_of_vlan isVlan (List.mem_append_right _ applied)) rfl rfl
        (fun noVlan => absurd noVlan (Option.some_ne_none _)) (fun isPort => absurd rfl isPort)
    next none =>
      rw [if_neg none]
      exact sound_allow (place_of_vlan conf rest vlan.vid) rfl
        (table_of_egress isTable).distinct fun has => has (Option.some_ne_none _)
  · obtain ⟨port, isPort, rfl⟩ := List.mem_map.mp known
    obtain ⟨table, allowed, member⟩ := List.mem_flatMap.mp member
    have noDp : conf.dpAcls = [] := List.map_eq_nil_iff.mp noDpAcls
    split at member
    next some_ =>
      cases List.mem_singleton.mp member
      have counted : ∀ name ∈ port.aclsIn, conf.counted name ∈ conf.portAcls := fun name applied =>
        counted_applied (by
          rw [appliedIn, if_pos noDp]
          exact List.mem_flatMap.mpr ⟨port, isPort, applied⟩)
      have notEmpty : port.aclsIn ≠ [] := fun empty => some_ (congrArg (List.map _) empty)
      obtain ⟨name, applied⟩ := List.exists_mem_of_ne_nil _ notEmpty
      have made := table_of_port (List.ne_nil_of_mem (counted name applied)) isTable
      exact sound_list port.aclsIn resolved made counted
        (fun name applied => calls_of_later (calls_of_port isPort applied)) rfl rfl
        (fun _ name applied => calls_of_port isPort applied)
        (fun _ => (port_noted resolved noDp isTable).1)
    next =>
      split at member
      next =>
        cases List.mem_singleton.mp member
        have noted := port_noted resolved noDp isTable
        exact sound_allow (place_of_port conf rest port.number) rfl noted.2
          fun _ => noted.1
      next => cases member

/-! ## VLANs -/

/-- Where the ACLs of VLANs are applied, one of them notes the VLAN. -/
structure VlansNoted (conf : DpConf ν) : Prop where
  incoming : (∃ vlan ∈ conf.vlans, vlan.aclsIn ≠ []) →
    ∃ vlan ∈ conf.vlans, ∃ name ∈ vlan.aclsIn, conf.NotesVlan name
  outgoing : (∃ vlan ∈ conf.vlans, vlan.aclsOut ≠ []) →
    ∃ vlan ∈ conf.vlans, ∃ name ∈ vlan.aclsOut, conf.NotesVlan name

/-- A table for ACLs of VLANs lets the VLAN be matched when one of them notes it. -/
theorem vlan_noted_iff (resolved : conf.Resolved) {acls : VlanConf ν → List ν}
    (among : ∀ vlan, acls vlan ⊆ vlan.aclsIn ++ vlan.aclsOut)
    (made : MadeFor table ((conf.vlans.flatMap acls).map conf.counted)) :
    MatchTypes.Has table.matchTypes vlanVid ↔
      ∃ vlan ∈ conf.vlans, ∃ name ∈ acls vlan, conf.NotesVlan name := by
  rw [made.has_iff]
  constructor
  · rintro ⟨_, listed, has⟩
    obtain ⟨name, applied, rfl⟩ := List.mem_map.mp listed
    obtain ⟨vlan, isVlan, applied⟩ := List.mem_flatMap.mp applied
    obtain ⟨call, found⟩ := exists_lastCall (calls_of_vlan isVlan (among vlan applied))
    exact ⟨vlan, isVlan, name, applied, (has_vlanVid resolved found).mp has⟩
  · rintro ⟨vlan, isVlan, name, applied, notes⟩
    obtain ⟨call, found⟩ := exists_lastCall (calls_of_vlan isVlan (among vlan applied))
    exact ⟨_, List.mem_map.mpr ⟨name, List.mem_flatMap.mpr ⟨vlan, isVlan, applied⟩, rfl⟩,
      (has_vlanVid resolved found).mpr notes⟩

theorem exists_vlanAclTable (rest : Rest) (some_ : ∃ vlan ∈ conf.vlans, vlan.aclsIn ≠ []) :
    ∃ table, (conf.manager rest).vlanAclTable = some table := by
  obtain ⟨vlan, isVlan, notEmpty⟩ := some_
  obtain ⟨name, applied⟩ := List.exists_mem_of_ne_nil _ notEmpty
  have counted : conf.counted name ∈ conf.vlanAcls :=
    List.mem_map.mpr ⟨name, List.mem_flatMap.mpr ⟨vlan, isVlan, applied⟩, rfl⟩
  obtain ⟨made, found, _⟩ := madeFor_of_table conf rest .vlanAcl vlanAclDefaultConfig
    (by decide) rfl rfl rfl
    (List.ne_nil_of_mem counted)
  exact ⟨made, found⟩

theorem exists_egressAclTable (rest : Rest) (some_ : ∃ vlan ∈ conf.vlans, vlan.aclsOut ≠ []) :
    ∃ table, (conf.manager rest).egressAclTable = some table := by
  obtain ⟨vlan, isVlan, notEmpty⟩ := some_
  obtain ⟨name, applied⟩ := List.exists_mem_of_ne_nil _ notEmpty
  have counted : conf.counted name ∈ conf.egressAcls :=
    List.mem_map.mpr ⟨name, List.mem_flatMap.mpr ⟨vlan, isVlan, applied⟩, rfl⟩
  obtain ⟨made, found, _⟩ := madeFor_of_table conf rest .egressAcl egressAclDefaultConfig
    (by decide) rfl rfl rfl
    (List.ne_nil_of_mem counted)
  exact ⟨made, found⟩

theorem hasTables : (conf.manager rest).HasTables (conf.vlans.map conf.vlan) where
  dp := by
    intro some_
    have notEmpty : conf.dpAcls ≠ [] := fun empty => some_ (congrArg (List.map _) empty)
    obtain ⟨name, applied⟩ := List.exists_mem_of_ne_nil _ notEmpty
    have counted : conf.counted name ∈ conf.portAcls :=
      counted_applied (by rw [appliedIn, if_neg notEmpty]; exact applied)
    obtain ⟨made, found, _⟩ := madeFor_of_table conf rest .portAcl portAclDefaultConfig
      (by decide) rfl rfl rfl
      (List.ne_nil_of_mem counted)
    exact Option.ne_none_iff_exists'.mpr ⟨made, found⟩
  vlanIn := by
    intro _ known some_
    obtain ⟨vlan, isVlan, rfl⟩ := List.mem_map.mp known
    have notEmpty : vlan.aclsIn ≠ [] := fun empty => some_ (congrArg (List.map _) empty)
    exact Option.ne_none_iff_exists'.mpr (exists_vlanAclTable rest ⟨vlan, isVlan, notEmpty⟩)

/-- The rules of a VLAN match it. -/
theorem vlan_matched {placement : Placement} {vid : ℕ} (isVlan : placement.context.vid = some vid)
    (some_ : placement.acls ≠ []) :
    ∃ fields ∈ (Part.list placement).matches, ∃ field ∈ fields.items, field.field = vlanVid := by
  obtain ⟨acl, applied⟩ := List.exists_mem_of_ne_nil _ some_
  obtain ⟨rule, member⟩ := exists_rule_of_acl acl
  obtain ⟨value, present, _⟩ := fieldAt_vlan rule _ isVlan
  exact ⟨_, List.mem_map.mpr ⟨rule, List.mem_flatMap.mpr ⟨acl, applied, member⟩, rfl⟩, _,
    (Match.get_eq_some_iff.mp present).1, rfl⟩

/-- **The VLANs are noted** just when each part of a VLAN has a table that lets the VLAN
be matched. -/
theorem vlansNoted_iff (rest : Rest) (resolved : conf.Resolved) : conf.VlansNoted ↔
    ∀ part ∈ conf.parts rest, part.context.vid ≠ none →
      MatchTypes.Has part.table.matchTypes vlanVid := by
  constructor
  · intro noted part member isVlan
    rcases AclManager.part_cases member with ⟨member, _, _⟩ |
      ⟨_, known, member, isTable, _⟩ | ⟨_, known, member, isTable, _⟩ | ⟨_, _, _, _, _, context⟩
    · rw [AclManager.dpParts] at member
      split at member
      next => cases member
      next =>
        obtain ⟨table, _, rfl⟩ := List.mem_map.mp member
        exact absurd rfl isVlan
    · obtain ⟨vlan, isVlan, rfl⟩ := List.mem_map.mp known
      rw [AclManager.vlanInParts] at member
      split at member
      next => cases member
      next some_ =>
        have notEmpty : vlan.aclsIn ≠ [] := fun empty => some_ (congrArg (List.map _) empty)
        exact (vlan_noted_iff resolved (fun vlan => List.subset_append_left _ _)
          (table_of_vlan isTable)).mpr (noted.incoming ⟨vlan, isVlan, notEmpty⟩)
    · have made := table_of_egress isTable
      refine (vlan_noted_iff resolved (fun vlan => List.subset_append_right _ _) made).mpr
        (noted.outgoing ?_)
      -- there is a table, so that there are ACLs
      by_contra empty
      push Not at empty
      have none : conf.egressAcls = [] := by
        rw [egressAcls, List.map_eq_nil_iff, List.flatMap_eq_nil_iff]
        exact empty
      obtain ⟨valveTable, found, _⟩ := Option.map_eq_some_iff.mp isTable
      have there := Dp.isSome_table? (conf.dp rest) .egressAcl
      have absent : (conf.dp rest).aclTables.egressAcl = Option.none :=
        tableContents_eq_none.mpr none
      rw [found, included_egressAcl, absent] at there
      cases there
    · rw [context] at isVlan
      exact absurd rfl isVlan
  · intro has
    constructor
    · intro some_
      obtain ⟨table, isTable⟩ := exists_vlanAclTable rest some_
      obtain ⟨vlan, isVlan, notEmpty⟩ := some_
      have applied : (conf.vlan vlan).aclsIn ≠ [] := fun empty =>
        notEmpty (List.map_eq_nil_iff.mp empty)
      have member : Part.list ⟨table, (conf.manager rest).vlanInContext vlan.vid,
          (conf.vlan vlan).aclsIn, AclManager.exactMatch (conf.vlan vlan).aclsIn⟩ ∈
            conf.parts rest := by
        refine List.mem_append_left _ (List.mem_append_right _ (List.mem_flatMap.mpr
          ⟨conf.vlan vlan, List.mem_map.mpr ⟨vlan, isVlan, rfl⟩, List.mem_append_left _ ?_⟩))
        rw [AclManager.vlanInParts, if_neg applied, isTable]
        exact List.mem_singleton_self _
      exact (vlan_noted_iff resolved (fun vlan => List.subset_append_left _ _)
        (table_of_vlan isTable)).mp (has _ member (Option.some_ne_none _))
    · intro some_
      obtain ⟨table, isTable⟩ := exists_egressAclTable rest some_
      obtain ⟨vlan, isVlan, notEmpty⟩ := some_
      have applied : (conf.vlan vlan).aclsOut ≠ [] := fun empty =>
        notEmpty (List.map_eq_nil_iff.mp empty)
      have member : Part.list ⟨table, (conf.manager rest).vlanOutContext vlan.vid,
          (conf.vlan vlan).aclsOut, AclManager.exactMatch (conf.vlan vlan).aclsOut⟩ ∈
            conf.parts rest := by
        refine List.mem_append_left _ (List.mem_append_right _ (List.mem_flatMap.mpr
          ⟨conf.vlan vlan, List.mem_map.mpr ⟨vlan, isVlan, rfl⟩, List.mem_append_right _ ?_⟩))
        rw [AclManager.vlanOutParts, isTable]
        refine List.mem_map.mpr ⟨table, List.mem_singleton_self _, ?_⟩
        rw [if_pos applied]
        rfl
      exact (vlan_noted_iff resolved (fun vlan => List.subset_append_right _ _)
        (table_of_egress isTable)).mp (has _ member (Option.some_ne_none _))

/-- A part of a VLAN has a flow that matches it. -/
theorem exists_vlan_field (member : part ∈ conf.parts rest) (isVlan : part.context.vid ≠ none) :
    ∃ fields ∈ part.matches, ∃ field ∈ fields.items, field.field = vlanVid := by
  obtain ⟨vid, isVid⟩ := Option.ne_none_iff_exists'.mp isVlan
  rcases AclManager.part_cases member with ⟨member, _, _⟩ |
    ⟨_, known, member, _, _⟩ | ⟨_, known, member, _, _⟩ | ⟨_, _, _, _, _, context⟩
  · rw [AclManager.dpParts] at member
    split at member
    next => cases member
    next =>
      obtain ⟨table, _, rfl⟩ := List.mem_map.mp member
      exact absurd rfl isVlan
  · rw [AclManager.vlanInParts] at member
    split at member
    next => cases member
    next some_ =>
      obtain ⟨table, _, rfl⟩ := List.mem_map.mp member
      exact vlan_matched isVid some_
  · obtain ⟨table, _, rfl⟩ := List.mem_map.mp member
    split
    next some_ =>
      rw [if_pos some_] at isVid
      exact vlan_matched isVid some_
    next =>
      exact ⟨_, List.mem_singleton_self _, _, List.mem_singleton_self _, rfl⟩
  · rw [context] at isVlan
    exact absurd rfl isVlan

/-! ## Starting -/

/-- There are priorities for the rules of all lists. -/
def Prioritized (conf : DpConf ν) (rest : Rest) : Prop :=
  ∀ part ∈ conf.parts rest, part.Prioritized

/-- The flows of exact tables have all the fields of their table. -/
def ExactMatched (conf : DpConf ν) (rest : Rest) : Prop :=
  ∀ part ∈ conf.parts rest, part.table.exactMatch = true →
    ∀ fields ∈ part.matches, part.table.Full fields

/-- The parts are built just when they have priorities, and their matches are good for
their tables. -/
theorem start_iff_verified (resolved : conf.Resolved) :
    (∃ own, conf.start rest = some own) ↔ conf.Prioritized rest ∧ ∀ part ∈ conf.parts rest,
      ∀ fields ∈ part.matches, part.table.verifies fields = true := by
  have built : ∀ part ∈ conf.parts rest, (∃ own, part.ofmsgs = some own) ↔
      part.Prioritized ∧ ∀ fields ∈ part.matches, part.table.verifies fields = true :=
    fun part member => built_iff (part_sound resolved member).ready
  rw [start, AclManager.messages_eq hasTables]
  constructor
  · rintro ⟨own, collected⟩
    have each : ∀ part ∈ conf.parts rest,
        part.Prioritized ∧ ∀ fields ∈ part.matches, part.table.verifies fields = true := by
      intro part member
      obtain ⟨built_, isBuilt, _⟩ := (collect_spec collected).1 _ (List.mem_map_of_mem member)
      exact (built part member).mp ⟨built_, isBuilt⟩
    exact ⟨fun part member => (each part member).1, fun part member => (each part member).2⟩
  · rintro ⟨prioritized, verified⟩
    refine exists_collect fun ofmsgs member => ?_
    obtain ⟨part, listed, rfl⟩ := List.mem_map.mp member
    exact (built part listed).mpr ⟨prioritized part listed, verified part listed⟩

/-- **A datapath with ACLs can be started** just when there are priorities for all rules,
where VLANs have ACLs, one of them notes the VLAN, and the flows of exact tables have all
the fields of their table. -/
theorem starts_iff (conf : DpConf ν) (rest : Rest) (resolved : conf.Resolved) :
    (∃ own, conf.start rest = some own) ↔
      conf.Prioritized rest ∧ conf.VlansNoted ∧ conf.ExactMatched rest := by
  rw [start_iff_verified resolved, vlansNoted_iff rest resolved]
  refine and_congr_right fun _ => ?_
  constructor
  · intro verified
    constructor
    · intro part member isVlan
      obtain ⟨fields, listed, field, present, isField⟩ := exists_vlan_field member isVlan
      have covered := ((verifies_iff (part_sound resolved member).distinct).mp
        (verified part member fields listed)).1 field present
      exact isField ▸ covered.has
    · intro part member exact_ fields listed
      exact ((verifies_iff (part_sound resolved member).distinct).mp
        (verified part member fields listed)).2 exact_
  · rintro ⟨noted, full⟩ part member fields listed
    have sound := part_sound resolved member
    exact (verifies_iff sound.distinct).mpr
      ⟨sound.covered (noted part member) fields listed,
        fun exact_ => full part member exact_ fields listed⟩

/-- One ACL, which allows IPv4, for a VLAN and for a port. -/
def sharedConf : DpConf Unit where
  acl _ :=
    { conf :=
        { rules :=
            [{ cookie := none
               description := none
               actions := some ⟨some 1, none, none, none, none, none⟩
               matchFields := [(.field Faucet.Pipeline.ethType, ⟨0x0800, none⟩)]
               keys := List.nodup_singleton _ }]
          exactMatch := false
          someRule := List.cons_ne_nil _ _ }
      dot1xAssigned := false
      exits := [] }
  names := [()]
  vlans := [⟨100, [()], []⟩]
  ports := [⟨1, [()], false, false, false, false⟩]
  dpAcls := []
  dot1x := none
  tunnelAcls := []
  meters := fun _ => none

/-- A datapath that needs nothing but ACLs. -/
def plainRest : Rest where
  dp := ⟨false, ⟨none, none, none⟩, [], false, false, false, false, false, false⟩
  cookie := 0x5adc15c0
  useIdleTimeout := false

theorem resolved_sharedConf : sharedConf.Resolved where
  built := by
    have all : ∀ call ∈ sharedConf.calls, (sharedConf.buildCall call).isSome = true := by decide
    exact fun call member => Option.isSome_iff_exists.mp (all call member)
  dpAlone := fun some_ => absurd rfl some_
  tunnels := nofun
  plain := by
    intro _ rule member entry listed isPort
    cases List.mem_singleton.mp member
    cases List.mem_singleton.mp listed
    cases isPort

/-- The port comes last, and nothing notes the VLAN. -/
theorem starts_iff_shared : ¬ ∃ own, sharedConf.start plainRest = some own := by
  intro starts
  have noted := ((starts_iff sharedConf plainRest resolved_sharedConf).mp starts).2.1
  obtain ⟨_, _, _, _, ⟨call, found, isVlan⟩ | tunnel | ⟨rule, member, entry, listed, isVlan⟩⟩ :=
    noted.incoming ⟨_, List.mem_singleton_self _, List.cons_ne_nil _ _⟩
  · cases found
    exact isVlan rfl
  · cases tunnel
  · cases List.mem_singleton.mp member
    cases List.mem_singleton.mp listed
    cases isVlan

end Faucet.Acl.DpConf
