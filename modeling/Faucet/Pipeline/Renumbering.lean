import Faucet.Pipeline.Layout

/-!
# When the tables get other ids

Where the hardware has no fixed ids, the tables that are there are numbered from zero. So when one
table is left out and another one comes in, the tables between them get other ids, but the
ids that are in use are the same. With fixed ids this happens to the two tables that share
one. A comparison of the ids that are in use sees neither (`pipelineTableids_eq_iff`).
-/

set_option autoImplicit false

namespace Faucet.Pipeline.Dp

/-! ## Ids in use -/

section Ids

variable (dp : Dp)

/-- `pipeline_tableids` -/
def pipelineTableids : Finset ℕ := (dp.tables.map (·.tableId)).toFinset

/-- The id of a table. -/
def idOf (name : TableName) : Option ℕ := (dp.table? name).map (·.tableId)

/-- The tables have the same ids, and the same tables are there. -/
def SameTables (old new : Dp) : Prop := ∀ name, old.idOf name = new.idOf name

/-- The id that is given to the default with this number. -/
def tableIdAt (default : ValveTableConfig) (i : ℕ) : ℕ :=
  if dp.staticTableIds then default.tableId else i

end Ids

variable {dp old new : Dp} {name : TableName} {id : ℕ}

theorem map_tableId : dp.tables.map (·.tableId) =
    dp.canonicalConfigs.zipIdx.map fun (default, i) => dp.tableIdAt default i := by
  rw [tables, tableConfigs, List.map_map, List.map_map]
  exact List.map_congr_left fun pair _ => tableId_tableConfig

/-- The id of a table comes from the defaults of the tables that are there. -/
theorem idOf_eq : dp.idOf name =
    (dp.canonicalConfigs.zipIdx.find? (·.1.name == name)).map fun (default, i) =>
      dp.tableIdAt default i := by
  rw [idOf, table?_eq, config?, tableConfigs, List.find?_map, Option.map_map, Option.map_map]
  have named : ((·.name == name) ∘ fun (default, i) => dp.tableConfig default i) =
      fun pair : ValveTableConfig × ℕ => pair.1.name == name := by
    funext pair
    exact congrArg (· == name) name_tableConfig
  rw [named]
  exact congrArg (Option.map · _) (funext fun pair => tableId_tableConfig)

theorem isSome_idOf : (dp.idOf name).isSome = dp.included name := by
  rw [idOf, Option.isSome_map, isSome_table?]

/-- The ids in use are those of the tables. -/
theorem mem_ids : id ∈ dp.pipelineTableids ↔ ∃ name, dp.idOf name = some id := by
  rw [pipelineTableids, List.mem_toFinset, List.mem_map]
  simp only [idOf, Option.map_eq_some_iff, table?_eq]
  constructor
  · rintro ⟨table, member, rfl⟩
    obtain ⟨config, listed, rfl⟩ := mem_tables.mp member
    exact ⟨config.name, dp.valveTable config,
      ⟨config, config?_eq_some_iff.mpr ⟨listed, rfl⟩, rfl⟩, rfl⟩
  · rintro ⟨_, _, ⟨config, found, rfl⟩, rfl⟩
    exact ⟨_, mem_tables.mpr ⟨config, (config?_eq_some_iff.mp found).1, rfl⟩, rfl⟩

/-- **The tables keep their ids** just when the same ones are there. -/
theorem sameTables_iff (hardware : old.staticTableIds = new.staticTableIds) :
    SameTables old new ↔ ∀ name, old.included name = new.included name := by
  constructor
  · intro same name
    rw [← isSome_idOf, ← isSome_idOf, same name]
  · intro same name
    -- the numbers follow from the tables that are there
    have defaults : old.canonicalConfigs = new.canonicalConfigs :=
      List.filter_congr fun config _ => same config.name
    have ids : old.tableIdAt = new.tableIdAt := by
      funext default i
      simp only [tableIdAt, hardware]
    rw [idOf_eq, idOf_eq, defaults, ids]

/-! ## Numbered tables -/

theorem pipelineTableids_of_numbered (numbered : dp.staticTableIds = false) :
    dp.pipelineTableids = Finset.range dp.tables.length := by
  have ids : (dp.canonicalConfigs.zipIdx.map fun (default, i) => dp.tableIdAt default i) =
      dp.canonicalConfigs.zipIdx.map Prod.snd :=
    List.map_congr_left fun _ _ => if_neg (Bool.not_eq_true _ ▸ numbered)
  have length : dp.tables.length = dp.canonicalConfigs.length := by
    rw [tables, tableConfigs, List.length_map, List.length_map, List.length_zipIdx]
  rw [pipelineTableids, map_tableId, ids, List.zipIdx_map_snd, length]
  ext id
  rw [List.mem_toFinset, List.mem_range'_1, Finset.mem_range, Nat.zero_add]
  exact and_iff_right (Nat.zero_le id)

/-! ## Fixed ids -/

/-- The two tables that share an id where ids are fixed. -/
def SharesId (name : TableName) : Prop := name = .copro ∨ name = .vlanAcl

instance (name : TableName) : Decidable (SharesId name) := inferInstanceAs (Decidable (_ ∨ _))

/-- The defaults with one id are the same, or they share it. -/
theorem default_of_tableId : ∀ first ∈ faucetPipeline, ∀ second ∈ faucetPipeline,
    first.tableId = second.tableId →
      first.name = second.name ∨ SharesId first.name ∧ SharesId second.name := by decide

theorem tableId_of_sharesId : ∀ first ∈ faucetPipeline, ∀ second ∈ faucetPipeline,
    SharesId first.name → SharesId second.name → first.tableId = second.tableId := by decide

theorem mem_pipelineTableids (static : dp.staticTableIds = true) : id ∈ dp.pipelineTableids ↔
    ∃ default ∈ faucetPipeline, dp.included default.name = true ∧ default.tableId = id := by
  have ids : (dp.canonicalConfigs.zipIdx.map fun (default, i) => dp.tableIdAt default i) =
      (dp.canonicalConfigs.zipIdx.map Prod.fst).map (·.tableId) := by
    rw [List.map_map]
    exact List.map_congr_left fun _ _ => if_pos static
  rw [pipelineTableids, map_tableId, ids, List.zipIdx_map_fst, List.mem_toFinset, List.mem_map]
  simp only [canonicalConfigs, List.mem_filter, and_assoc]

/-- What is there of a kind of tables that share an id. -/
def HasShared (dp : Dp) : Prop := ∃ name, SharesId name ∧ dp.included name = true

/-- The tables that share no id are the same, and one that shares it is there as before. -/
structure SameFixed (old new : Dp) : Prop where
  others : ∀ name, ¬ SharesId name → old.included name = new.included name
  shared : HasShared old ↔ HasShared new

theorem included_of_subset (static : old.staticTableIds = true)
    (static' : new.staticTableIds = true) (subset : old.pipelineTableids ⊆ new.pipelineTableids) (there : old.included name = true) :
    new.included name = true ∨ SharesId name ∧ HasShared new := by
  obtain ⟨default, listed, rfl⟩ := exists_default name
  obtain ⟨default', listed', there', sameId⟩ := (mem_pipelineTableids static').mp
    (subset ((mem_pipelineTableids static).mpr ⟨default, listed, there, rfl⟩))
  rcases default_of_tableId default listed default' listed' sameId.symm
    with same | ⟨shares, shares'⟩
  · exact .inl (same ▸ there')
  · exact .inr ⟨shares, default'.name, shares', there'⟩

theorem subset_of_included (static : old.staticTableIds = true)
    (static' : new.staticTableIds = true)
    (others : ∀ name, ¬ SharesId name → old.included name = true → new.included name = true)
    (shared : HasShared old → HasShared new) : old.pipelineTableids ⊆ new.pipelineTableids := by
  intro id used
  obtain ⟨default, listed, there, rfl⟩ := (mem_pipelineTableids static).mp used
  refine (mem_pipelineTableids static').mpr ?_
  by_cases shares : SharesId default.name
  · obtain ⟨name, shares', there'⟩ := shared ⟨default.name, shares, there⟩
    obtain ⟨default', listed', rfl⟩ := exists_default name
    exact ⟨default', listed', there',
      tableId_of_sharesId default' listed' default listed shares' shares⟩
  · exact ⟨default, listed, others default.name shares there, rfl⟩

theorem pipelineTableids_eq_iff_sameFixed (static : old.staticTableIds = true)
    (static' : new.staticTableIds = true) :
    old.pipelineTableids = new.pipelineTableids ↔ SameFixed old new := by
  constructor
  · intro same
    have there : ∀ name, old.included name = true →
        new.included name = true ∨ SharesId name ∧ HasShared new :=
      fun _ => included_of_subset static static' same.subset
    have there' : ∀ name, new.included name = true →
        old.included name = true ∨ SharesId name ∧ HasShared old :=
      fun _ => included_of_subset static' static same.symm.subset
    refine ⟨fun name own => Bool.eq_iff_iff.mpr ⟨fun isThere => ?_, fun isThere => ?_⟩, ?_, ?_⟩
    · exact (there name isThere).resolve_right fun shares => own shares.1
    · exact (there' name isThere).resolve_right fun shares => own shares.1
    · rintro ⟨name, shares, isThere⟩
      exact (there name isThere).elim (fun still => ⟨name, shares, still⟩) (·.2)
    · rintro ⟨name, shares, isThere⟩
      exact (there' name isThere).elim (fun still => ⟨name, shares, still⟩) (·.2)
  · rintro ⟨others, shared⟩
    refine (subset_of_included static static' (fun name own => (others name own) ▸ id)
      shared.mp).antisymm ?_
    exact subset_of_included static' static (fun name own => (others name own) ▸ id) shared.mpr

/-! ## All hardware -/

/-- The same ids are in use: where they are fixed, by the same tables apart from those that
share one; elsewhere by as many tables. -/
def SameIds (old new : Dp) : Prop :=
  if old.staticTableIds then SameFixed old new else old.tables.length = new.tables.length

/-- **The ids in use are the same** whenever the tables are as many as before, or share ids. -/
theorem pipelineTableids_eq_iff (hardware : old.staticTableIds = new.staticTableIds) :
    old.pipelineTableids = new.pipelineTableids ↔ SameIds old new := by
  rw [SameIds]
  split
  next static => exact pipelineTableids_eq_iff_sameFixed static (hardware ▸ static)
  next numbered =>
    have numbered := Bool.eq_false_of_not_eq_true numbered
    rw [pipelineTableids_of_numbered numbered, pipelineTableids_of_numbered (hardware ▸ numbered)]
    constructor
    · intro same
      have card := congrArg Finset.card same
      rwa [Finset.card_range, Finset.card_range] at card
    · intro same
      rw [same]

end Faucet.Pipeline.Dp
