import Faucet.Library.Numbered
import Faucet.Pipeline.Tables

/-!
# How the tables are laid out

Whatever a datapath needs, the tables that its flows may go on to are there, and they
come later. So a packet passes through the pipeline once (`pipeline_forward`). The ids tell
the tables apart unless the hardware has fixed ids and the datapath has both a
coprocessor and VLANs with ACLs for incoming packets (`tableById_iff`).
-/

set_option autoImplicit false

namespace Faucet.Pipeline

/-! ## The whole pipeline -/

/-- The place of a table in the whole pipeline. -/
def TableName.place (name : TableName) : ℕ := faucetPipeline.findIdx (·.name == name)

theorem pairwise_place :
    faucetPipeline.Pairwise fun first second => first.name.place < second.name.place := by decide

/-- Each table names only tables that come later. -/
theorem place_of_goes : ∀ config ∈ faucetPipeline,
    (∀ next ∈ config.nextTables, config.name.place < next.place) ∧
      ∀ next ∈ config.missGoto, config.name.place < next.place := by decide

theorem exists_default (name : TableName) : ∃ config ∈ faucetPipeline, config.name = name := by
  cases name <;> decide

/-- The ids of the defaults rise as well, but for two tables that have the same one. -/
theorem tableId_of_place : ∀ first ∈ faucetPipeline, ∀ second ∈ faucetPipeline,
    first.name.place < second.name.place →
      first.tableId < second.tableId ∨ first.name = .copro ∧ second.name = .vlanAcl ∧
        first.tableId = second.tableId := by decide

/-- The coprocessor goes on to one table. -/
theorem vlanAcl_not_after_copro : ∀ config ∈ faucetPipeline, config.name = .copro →
    .vlanAcl ∉ config.nextTables ∧ config.missGoto ≠ some .vlanAcl := by decide

theorem default_of_name : ∀ first ∈ faucetPipeline, ∀ second ∈ faucetPipeline,
    first.name = second.name → first = second := by decide

/-- A table where packets go that match no flow is one of the minimum, and no ACL table
has one by default. -/
theorem missGoto_minimum : ∀ config ∈ faucetPipeline, ∀ next ∈ config.missGoto,
    minimumFaucetPipelineTables.contains next = true := by decide

namespace Dp

variable {dp : Dp} {default config : ValveTableConfig} {name next : TableName} {i : ℕ}

/-! ## One table -/

/-- Where a table stands and where it leads. -/
def wiring (config : ValveTableConfig) : TableName × ℕ × List TableName × Option TableName :=
  (config.name, config.tableId, config.nextTables, config.missGoto)

section TableConfig

theorem wiring_withMetadata : wiring (dp.withMetadata config) = wiring config := by
  unfold withMetadata
  split <;> rfl

theorem wiring_withExternals : wiring (dp.withExternals config) = wiring config := by
  unfold withExternals
  split <;> rfl

theorem wiring_withRestrictedBcast : wiring (dp.withRestrictedBcast config) = wiring config := by
  unfold withRestrictedBcast
  split <;> rfl

theorem wiring_withTableId : wiring (dp.withTableId i config) =
    (config.name, if dp.staticTableIds then config.tableId else i, config.nextTables,
      config.missGoto) := by
  unfold withTableId
  split <;> rfl

theorem wiring_withEgressAcl : wiring (dp.withEgressAcl config) =
    (config.name, config.tableId, config.nextTables,
      if dp.included .egressAcl && config.name == .ethDst then some .egressAcl
      else config.missGoto) := by
  unfold withEgressAcl
  split <;> rfl

theorem wiring_ownConfig : wiring (dp.ownConfig default) =
    (default.name, default.tableId, default.nextTables,
      if (dp.aclTables.get default.name).isSome then none else default.missGoto) := by
  unfold ownConfig
  cases dp.aclTables.get default.name <;> rfl

/-- With ACLs of outgoing packets `eth_dst` goes on to their table, and an ACL table
itself goes nowhere. -/
theorem wiring_tableConfig : wiring (dp.tableConfig default i) =
    (default.name, if dp.staticTableIds then default.tableId else i,
      default.nextTables.filter dp.included,
      if dp.included .egressAcl && default.name == .ethDst then some .egressAcl
      else if (dp.aclTables.get default.name).isSome then none else default.missGoto) := by
  have filtered : ∀ config, wiring (dp.withNextTables config) =
      ((wiring config).1, (wiring config).2.1, (wiring config).2.2.1.filter dp.included,
        (wiring config).2.2.2) := fun _ => rfl
  have missing : ∀ config, wiring (dp.withEgressAcl config) =
      ((wiring config).1, (wiring config).2.1, (wiring config).2.2.1,
        if dp.included .egressAcl && (wiring config).1 == .ethDst then some .egressAcl
        else (wiring config).2.2.2) := fun _ => wiring_withEgressAcl
  have numbered : ∀ config, wiring (dp.withTableId i config) =
      ((wiring config).1, if dp.staticTableIds then (wiring config).2.1 else i,
        (wiring config).2.2.1, (wiring config).2.2.2) := fun _ => wiring_withTableId
  rw [tableConfig, filtered, missing, wiring_withRestrictedBcast, wiring_withExternals, numbered,
    wiring_withMetadata, wiring_ownConfig]

@[simp] theorem name_tableConfig : (dp.tableConfig default i).name = default.name :=
  congrArg (·.1) wiring_tableConfig

theorem tableId_tableConfig : (dp.tableConfig default i).tableId =
    if dp.staticTableIds then default.tableId else i :=
  congrArg (·.2.1) wiring_tableConfig

theorem nextTables_tableConfig : (dp.tableConfig default i).nextTables =
    default.nextTables.filter dp.included :=
  congrArg (·.2.2.1) wiring_tableConfig

theorem missGoto_tableConfig : (dp.tableConfig default i).missGoto =
    if dp.included .egressAcl && default.name == .ethDst then some .egressAcl
    else if (dp.aclTables.get default.name).isSome then none else default.missGoto :=
  congrArg (·.2.2.2) wiring_tableConfig

end TableConfig

/-! ## All tables -/

theorem mem_tableConfigs : config ∈ dp.tableConfigs ↔
    ∃ default i, (default, i) ∈ dp.canonicalConfigs.zipIdx ∧ config = dp.tableConfig default i := by
  rw [tableConfigs, List.mem_map]
  constructor
  · rintro ⟨⟨default, i⟩, member, rfl⟩
    exact ⟨default, i, member, rfl⟩
  · rintro ⟨default, i, member, rfl⟩
    exact ⟨(default, i), member, rfl⟩

theorem mem_canonicalConfigs (member : (default, i) ∈ dp.canonicalConfigs.zipIdx) :
    default ∈ faucetPipeline ∧ dp.included default.name = true := by
  have listed : default ∈ dp.canonicalConfigs := List.fst_mem_of_mem_zipIdx member
  exact List.mem_filter.mp listed

/-- A table that is included is there. -/
theorem exists_config (there : dp.included name = true) :
    ∃ config ∈ dp.tableConfigs, config.name = name := by
  obtain ⟨default, listed, rfl⟩ := exists_default name
  have member : default ∈ dp.canonicalConfigs := List.mem_filter.mpr ⟨listed, there⟩
  obtain ⟨i, short, same⟩ := List.getElem_of_mem member
  have numbered : (default, i) ∈ dp.canonicalConfigs.zipIdx :=
    List.mk_mem_zipIdx_iff_getElem?.mpr (List.getElem?_eq_some_iff.mpr ⟨short, same⟩)
  exact ⟨_, mem_tableConfigs.mpr ⟨default, i, numbered, rfl⟩, name_tableConfig⟩

/-- There is one table of a name. -/
theorem config_unique {first second : ValveTableConfig} (member : first ∈ dp.tableConfigs)
    (member' : second ∈ dp.tableConfigs) (same : first.name = second.name) : first = second := by
  obtain ⟨default, i, numbered, rfl⟩ := mem_tableConfigs.mp member
  obtain ⟨default', j, numbered', rfl⟩ := mem_tableConfigs.mp member'
  have increasing : dp.canonicalConfigs.Pairwise fun a b => a.name.place < b.name.place :=
    pairwise_place.filter _
  rw [name_tableConfig, name_tableConfig] at same
  obtain rfl := default_of_name default (mem_canonicalConfigs numbered).1 default'
    (mem_canonicalConfigs numbered').1 same
  have distinct : dp.canonicalConfigs.Nodup := by
    apply increasing.imp
    rintro a _ less rfl
    exact Nat.lt_irrefl _ less
  have at_ := List.mk_mem_zipIdx_iff_getElem?.mp numbered
  have at_' := List.mk_mem_zipIdx_iff_getElem?.mp numbered'
  obtain ⟨short, same⟩ := List.getElem?_eq_some_iff.mp at_
  obtain ⟨short', same'⟩ := List.getElem?_eq_some_iff.mp at_'
  have equal : i = j := (distinct.getElem_inj_iff).mp (same.trans same'.symm)
  rw [equal]

theorem config?_eq_some_iff : dp.config? name = some config ↔
    config ∈ dp.tableConfigs ∧ config.name = name := by
  rw [config?]
  constructor
  · intro found
    exact ⟨List.mem_of_find?_eq_some found, by simpa using List.find?_some found⟩
  · rintro ⟨member, rfl⟩
    have some_ : (dp.tableConfigs.find? (·.name == config.name)).isSome :=
      List.find?_isSome.mpr ⟨config, member, by simp⟩
    obtain ⟨other, found⟩ := Option.isSome_iff_exists.mp some_
    have same : other.name = config.name := by simpa using List.find?_some found
    rw [found, config_unique (List.mem_of_find?_eq_some found) member same]

/-! ## Going on -/

/-- A table that comes later has a greater id, unless it is that of ACLs of VLANs and the
other one that of the coprocessor. -/
theorem tableId_lt {first second : ValveTableConfig} (member : first ∈ dp.tableConfigs)
    (member' : second ∈ dp.tableConfigs) (before : first.name.place < second.name.place)
    (apart : ¬ (first.name = .copro ∧ second.name = .vlanAcl)) :
    first.tableId < second.tableId := by
  obtain ⟨default, i, numbered, rfl⟩ := mem_tableConfigs.mp member
  obtain ⟨default', j, numbered', rfl⟩ := mem_tableConfigs.mp member'
  rw [name_tableConfig, name_tableConfig] at before apart
  rw [tableId_tableConfig, tableId_tableConfig]
  split
  next =>
    rcases tableId_of_place default (mem_canonicalConfigs numbered).1 default'
      (mem_canonicalConfigs numbered').1 before with less | ⟨copro, vlanAcl, _⟩
    · exact less
    · exact absurd ⟨copro, vlanAcl⟩ apart
  next =>
    have increasing : dp.canonicalConfigs.Pairwise fun a b => a.name.place < b.name.place :=
      pairwise_place.filter _
    exact Numbered.place_lt increasing numbered numbered' before

/-- What a table names is there and comes later. -/
theorem of_named (member : config ∈ dp.tableConfigs)
    (named : next ∈ config.nextTables ∨ config.missGoto = some next) :
    dp.included next = true ∧ config.name.place < next.place ∧
      ¬ (config.name = .copro ∧ next = .vlanAcl) := by
  obtain ⟨default, i, numbered, rfl⟩ := mem_tableConfigs.mp member
  obtain ⟨listed, there⟩ := mem_canonicalConfigs numbered
  rw [nextTables_tableConfig, missGoto_tableConfig, List.mem_filter] at named
  rw [name_tableConfig]
  rcases named with ⟨named, present⟩ | named
  · refine ⟨present, (place_of_goes default listed).1 next named, ?_⟩
    rintro ⟨copro, rfl⟩
    exact (vlanAcl_not_after_copro default listed copro).1 named
  · split at named
    next isEthDst =>
      cases named
      obtain ⟨present, isEthDst⟩ := Bool.and_eq_true_iff.mp isEthDst
      rw [beq_iff_eq] at isEthDst
      rw [isEthDst]
      exact ⟨present, by decide, by decide⟩
    next =>
      split at named
      next => cases named
      next =>
        refine ⟨?_, (place_of_goes default listed).2 next named, ?_⟩
        · rw [included, missGoto_minimum default listed next named]
          simp
        · rintro ⟨copro, rfl⟩
          exact (vlanAcl_not_after_copro default listed copro).2 named

theorem exists_named (member : config ∈ dp.tableConfigs)
    (named : next ∈ config.nextTables ∨ config.missGoto = some next) :
    ∃ other, dp.config? next = some other ∧ config.tableId < other.tableId := by
  obtain ⟨there, before, apart⟩ := of_named member named
  obtain ⟨other, member', rfl⟩ := exists_config there
  exact ⟨other, config?_eq_some_iff.mpr ⟨member', rfl⟩, tableId_lt member member' before apart⟩

/-! ## Tables -/

/-- A table with the ids of its next tables. -/
def valveTable (dp : Dp) (config : ValveTableConfig) : ValveTable :=
  ⟨config, config.nextTables.filterMap fun name => (dp.config? name).map (·.tableId)⟩

theorem table?_eq : dp.table? name = (dp.config? name).map dp.valveTable := by
  rw [table?, config?, tables, List.find?_map]
  rfl

/-- The flows of the first table, or its default, may send a packet on to the other one. -/
def Goes (first second : ValveTable) : Prop :=
  second.name ∈ first.config.nextTables ∨ first.config.missGoto = some second.name

/-- The pipeline leads forward: what is named is there and has a greater id, the ids of
the next tables are theirs, and a packet passes each table at most once. -/
structure Forward (dp : Dp) : Prop where
  named : ∀ table ∈ dp.tables, ∀ name,
    name ∈ table.config.nextTables ∨ table.config.missGoto = some name →
      ∃ next, dp.table? name = some next ∧ table.tableId < next.tableId
  ids : ∀ table ∈ dp.tables, ∀ id, id ∈ table.nextTables ↔
    ∃ name ∈ table.config.nextTables, ∃ next, dp.table? name = some next ∧ next.tableId = id
  walks : ∀ walk ⊆ dp.tables, walk.IsChain Goes →
    walk.Nodup ∧ walk.length ≤ dp.tables.length

theorem mem_tables {table : ValveTable} : table ∈ dp.tables ↔
    ∃ config ∈ dp.tableConfigs, table = dp.valveTable config := by
  rw [tables, List.mem_map]
  exact exists_congr fun config => and_congr_right fun _ => eq_comm

/-- **The pipeline leads forward**, whatever the datapath needs. -/
theorem pipeline_forward (dp : Dp) : dp.Forward where
  named := by
    rintro table member name named
    obtain ⟨config, listed, rfl⟩ := mem_tables.mp member
    obtain ⟨other, found, less⟩ := exists_named listed named
    exact ⟨dp.valveTable other, by rw [table?_eq, found]; rfl, less⟩
  ids := by
    rintro table member id
    obtain ⟨config, listed, rfl⟩ := mem_tables.mp member
    simp only [valveTable, List.mem_filterMap, Option.map_eq_some_iff, table?_eq]
    constructor
    · rintro ⟨name, named, other, found, rfl⟩
      exact ⟨name, named, dp.valveTable other, ⟨other, found, rfl⟩, rfl⟩
    · rintro ⟨name, named, _, ⟨other, found, rfl⟩, rfl⟩
      exact ⟨name, named, other, found, rfl⟩
  walks := by
    intro walk within chain
    -- what is on the walk is there, so that a step leads to a greater id
    have up : ∀ first second, (first ∈ dp.tables ∧ second ∈ dp.tables ∧ Goes first second) →
        first.tableId < second.tableId := by
      rintro first second ⟨member, member', goes⟩
      obtain ⟨config, listed, rfl⟩ := mem_tables.mp member
      obtain ⟨config', listed', rfl⟩ := mem_tables.mp member'
      obtain ⟨_, before, apart⟩ := of_named listed goes
      exact tableId_lt listed listed' before apart
    have inside : walk.IsChain fun first second =>
        first ∈ dp.tables ∧ second ∈ dp.tables ∧ Goes first second := by
      rw [List.isChain_iff_getElem] at chain ⊢
      intro i short
      exact ⟨within (List.getElem_mem _), within (List.getElem_mem _), chain i short⟩
    exact Numbered.length_le_of_chain up inside within

theorem isSome_table? (dp : Dp) (name : TableName) : (dp.table? name).isSome = dp.included name := by
  rw [table?_eq, Option.isSome_map, Bool.eq_iff_iff, Option.isSome_iff_exists]
  constructor
  · rintro ⟨config, found⟩
    obtain ⟨member, rfl⟩ := config?_eq_some_iff.mp found
    obtain ⟨default, i, numbered, rfl⟩ := mem_tableConfigs.mp member
    rw [name_tableConfig]
    exact (mem_canonicalConfigs numbered).2
  · intro there
    obtain ⟨config, member, rfl⟩ := exists_config there
    exact ⟨config, config?_eq_some_iff.mpr ⟨member, rfl⟩⟩

/-! ### ACL tables -/

/-- What the flows of a table have to fit. -/
def contents (config : ValveTableConfig) : List (ℕ × Bool) × List ℕ × Bool :=
  (config.matchTypes, config.setFields, config.exactMatch)

theorem contents_withMetadata : contents (dp.withMetadata config) = contents config := by
  unfold withMetadata
  split <;> rfl

theorem contents_withTableId : contents (dp.withTableId i config) = contents config := by
  unfold withTableId
  split <;> rfl

theorem contents_withEgressAcl : contents (dp.withEgressAcl config) = contents config := by
  unfold withEgressAcl
  split <;> rfl

/-- Other tables than these are as they are by default, or as the ACLs want them. -/
theorem contents_tableConfig
    (other : [.vlan, .ethDst, .flood].contains default.name = false) :
    contents (dp.tableConfig default i) = contents (dp.ownConfig default) := by
  have named : (dp.withTableId i (dp.withMetadata (dp.ownConfig default))).name = default.name := by
    have first : wiring (dp.withTableId i (dp.withMetadata (dp.ownConfig default))) = _ :=
      wiring_withTableId
    have second : wiring (dp.withMetadata (dp.ownConfig default)) = _ := wiring_withMetadata
    exact ((congrArg (·.1) first).trans (congrArg (·.1) second)).trans (congrArg (·.1) wiring_ownConfig)
  have external : dp.withExternals (dp.withTableId i (dp.withMetadata (dp.ownConfig default))) =
      dp.withTableId i (dp.withMetadata (dp.ownConfig default)) := by
    rw [withExternals, named, other, Bool.and_false, if_neg Bool.false_ne_true]
  have notFlood : (default.name == .flood) = false := by
    rw [List.contains_eq_mem, decide_eq_false_iff_not] at other
    exact beq_eq_false_iff_ne.mpr fun same => other (by rw [same]; decide)
  have restricted : dp.withRestrictedBcast
        (dp.withTableId i (dp.withMetadata (dp.ownConfig default))) =
      dp.withTableId i (dp.withMetadata (dp.ownConfig default)) := by
    rw [withRestrictedBcast, named, notFlood, Bool.and_false, if_neg Bool.false_ne_true]
  rw [tableConfig, external, restricted]
  exact (contents_withEgressAcl.trans contents_withTableId).trans contents_withMetadata

/-- A table other than these is its default, or what the ACLs want in its place. -/
theorem exists_table? (there : dp.included name = true) (member : default ∈ faucetPipeline)
    (isDefault : default.name = name)
    (other : [.vlan, .ethDst, .flood].contains name = false) :
    ∃ table, dp.table? name = some table ∧ contents table.config = contents (dp.ownConfig default) := by
  obtain ⟨config, listed, isName⟩ := exists_config there
  obtain ⟨default', i, numbered, rfl⟩ := mem_tableConfigs.mp listed
  rw [name_tableConfig] at isName
  obtain rfl := default_of_name default' (mem_canonicalConfigs numbered).1 default member
    (isName.trans isDefault.symm)
  refine ⟨dp.valveTable (dp.tableConfig default' i), ?_, contents_tableConfig (isName ▸ other)⟩
  rw [table?_eq, config?_eq_some_iff.mpr ⟨listed, name_tableConfig.trans isName⟩]
  rfl

/-! ## Ids -/

/-- Two tables have one id. -/
def Collides (dp : Dp) : Prop :=
  dp.staticTableIds = true ∧ dp.coprocessorPorts = true ∧ dp.aclTables.vlanAcl.isSome = true

theorem fibName_ne (ipv : Ipv) : ipv.fibName ≠ .copro ∧ ipv.fibName ≠ .vlanAcl := by
  cases ipv <;> decide

theorem included_copro : dp.included .copro = dp.coprocessorPorts := by
  simp [included, minimumFaucetPipelineTables, AclTables.get, (fibName_ne _).1, BEq.beq]

theorem included_vlanAcl : dp.included .vlanAcl = dp.aclTables.vlanAcl.isSome := by
  simp [included, minimumFaucetPipelineTables, AclTables.get, (fibName_ne _).2, BEq.beq]

theorem place_injective {name' : TableName} (same : name.place = name'.place) : name = name' := by
  revert same
  cases name <;> cases name' <;> decide

/-- Tables of one id are the same, unless the ids collide. -/
theorem config_of_tableId {first second : ValveTableConfig} (apart : ¬ dp.Collides)
    (member : first ∈ dp.tableConfigs) (member' : second ∈ dp.tableConfigs)
    (same : first.tableId = second.tableId) : first = second := by
  have pair : ∀ a ∈ dp.tableConfigs, ∀ b ∈ dp.tableConfigs, a.tableId = b.tableId →
      ¬ a.name.place < b.name.place := by
    intro a listed b listed' same before
    by_cases both : a.name = .copro ∧ b.name = .vlanAcl
    · -- they have the same id just when the hardware has fixed ones
      obtain ⟨default, i, numbered, rfl⟩ := mem_tableConfigs.mp listed
      obtain ⟨default', j, numbered', rfl⟩ := mem_tableConfigs.mp listed'
      have copro := (mem_canonicalConfigs numbered).2
      have vlanAcl := (mem_canonicalConfigs numbered').2
      rw [name_tableConfig, name_tableConfig] at both
      rw [both.1, included_copro] at copro
      rw [both.2, included_vlanAcl] at vlanAcl
      rw [tableId_tableConfig, tableId_tableConfig] at same
      split at same
      next static => exact apart ⟨static, copro, vlanAcl⟩
      next =>
        have increasing : dp.canonicalConfigs.Pairwise fun a b => a.name.place < b.name.place :=
          pairwise_place.filter _
        rw [name_tableConfig, name_tableConfig] at before
        exact absurd same (Numbered.place_lt increasing numbered numbered' before).ne
    · exact absurd same (tableId_lt listed listed' before both).ne
  refine config_unique member member' (place_injective ?_)
  exact Nat.le_antisymm (Nat.le_of_not_lt (pair second member' first member same.symm))
    (Nat.le_of_not_lt (pair first member second member' same))

/-- With fixed ids the tables that collide have one. -/
theorem exists_collision (collides : dp.Collides) :
    ∃ first ∈ dp.tableConfigs, ∃ second ∈ dp.tableConfigs,
      first.name = .copro ∧ second.name = .vlanAcl ∧ first.tableId = second.tableId := by
  obtain ⟨static, copro, vlanAcl⟩ := collides
  obtain ⟨first, member, isCopro⟩ := exists_config (included_copro.trans copro)
  obtain ⟨second, member', isVlanAcl⟩ := exists_config (included_vlanAcl.trans vlanAcl)
  refine ⟨first, member, second, member', isCopro, isVlanAcl, ?_⟩
  obtain ⟨default, i, numbered, rfl⟩ := mem_tableConfigs.mp member
  obtain ⟨default', j, numbered', rfl⟩ := mem_tableConfigs.mp member'
  rw [name_tableConfig] at isCopro isVlanAcl
  have isDefault := default_of_name default (mem_canonicalConfigs numbered).1 coproDefaultConfig
    (by decide) isCopro
  have isDefault' := default_of_name default' (mem_canonicalConfigs numbered').1
    vlanAclDefaultConfig (by decide) isVlanAcl
  rw [tableId_tableConfig, tableId_tableConfig, if_pos static, if_pos static, isDefault, isDefault']
  rfl

/-- **A table is found by its id** just when the ids do not collide: the hardware has no
fixed ids, or there is no coprocessor, or VLANs have no ACLs for incoming packets. -/
theorem tableById_iff (dp : Dp) :
    (∀ table ∈ dp.tables, dp.tableById table.tableId = some table) ↔ ¬ dp.Collides := by
  constructor
  · intro found collides
    obtain ⟨first, member, second, member', isCopro, isVlanAcl, same⟩ := exists_collision collides
    have found_ := found _ (mem_tables.mpr ⟨first, member, rfl⟩)
    have found' := found _ (mem_tables.mpr ⟨second, member', rfl⟩)
    have sameId : (dp.valveTable first).tableId = (dp.valveTable second).tableId := same
    rw [sameId, found', Option.some_inj] at found_
    have name : second.name = first.name := congrArg ValveTable.name found_
    rw [isCopro, isVlanAcl] at name
    cases name
  · intro apart table member
    obtain ⟨config, listed, rfl⟩ := mem_tables.mp member
    have there : (dp.tables.find? (·.tableId == (dp.valveTable config).tableId)).isSome :=
      List.find?_isSome.mpr ⟨_, member, by simp⟩
    obtain ⟨other, found⟩ := Option.isSome_iff_exists.mp there
    obtain ⟨config', listed', rfl⟩ := mem_tables.mp (List.mem_of_find?_eq_some found)
    have sameId : (dp.valveTable config').tableId = (dp.valveTable config).tableId := by
      simpa using List.find?_some found
    rw [tableById, found, config_of_tableId apart listed' listed sameId]

end Dp

end Faucet.Pipeline
