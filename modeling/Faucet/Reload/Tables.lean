import Faucet.Reload.Unreported

/-!
# Tables that move and are not noticed

A valve that is no `TfmValve` compares the tables of two configurations by the ids that are in
use alone. When one table is left out and another one comes in, the ids are the same, and the
tables between the two move without a cold start (`unnoticed_iff`). A `TfmValve` compares all
that is shown of the tables. What has been written to a table is then in another one
(`exists_moved_of_unnoticed`), also the rules of ports that are not reported
(`kept_in_wrong_table`).
-/

set_option autoImplicit false

namespace Faucet.Reload

open Pipeline (TableName)
open Pipeline.Dp

variable {K R : Type} [DecidableEq R]

/-- The tables that are there, or their ids, are others, and this does not count as a change of
the pipeline. -/
def Unnoticed (old new : Config K R) (tfm : Bool) : Prop :=
  pipelineChange old new tfm = false ∧ ¬ SameTables old.pipeline new.pipeline

variable {old new : Config K R} {tfm : Bool}

theorem pipelineChange_eq_false_iff : pipelineChange old new false = false ↔
    old.hardware = new.hardware ∧
      old.pipeline.pipelineTableids = new.pipeline.pipelineTableids := by
  rw [pipelineChange, if_neg Bool.false_ne_true, decide_eq_false_iff_not, not_or, not_not, not_not]

omit [DecidableEq R] in
theorem staticTableIds_eq (same : old.hardware = new.hardware) :
    old.pipeline.staticTableIds = new.pipeline.staticTableIds := by
  rw [old.static, new.static, same]

/-- The text of the pipeline shows which id a table has. -/
theorem idOf_eq_some_iff {config : Config K R} {name : TableName} {id : ℕ} :
    config.pipeline.idOf name = some id ↔ ∃ rest, (id, name, rest) ∈ config.pipelineStr := by
  simp only [Config.pipelineStr, List.mem_toFinset, List.mem_map, idOf, Option.map_eq_some_iff,
    table?_eq]
  constructor
  · rintro ⟨_, ⟨default, found, rfl⟩, rfl⟩
    obtain ⟨listed, rfl⟩ := config?_eq_some_iff.mp found
    exact ⟨_, config.pipeline.valveTable default, mem_tables.mpr ⟨default, listed, rfl⟩, rfl⟩
  · rintro ⟨rest, table, listed, same⟩
    cases same
    obtain ⟨default, known, rfl⟩ := mem_tables.mp listed
    exact ⟨_, ⟨default, config?_eq_some_iff.mpr ⟨known, rfl⟩, rfl⟩, rfl⟩

/-- With the same text there are the same tables. -/
theorem sameTables_of_pipelineStr_eq (same : old.pipelineStr = new.pipelineStr) :
    SameTables old.pipeline new.pipeline := by
  refine fun name => Option.ext fun id => ?_
  rw [idOf_eq_some_iff, idOf_eq_some_iff, same]

/-- **A change of the tables is not noticed** just when the valve is no `TfmValve`, and others
are there than before, but the same ids are in use: as many tables, or where ids are fixed
another table that shares its id. -/
theorem unnoticed_iff : Unnoticed old new tfm ↔ tfm = false ∧ old.hardware = new.hardware ∧
    SameIds old.pipeline new.pipeline ∧
      ∃ name, old.pipeline.included name ≠ new.pipeline.included name := by
  cases tfm with
  | true =>
      refine iff_of_false ?_ (fun noTfm => Bool.noConfusion noTfm.1)
      rintro ⟨noChange, moved⟩
      rw [pipelineChange, if_pos rfl, decide_eq_false_iff_not, not_not] at noChange
      exact moved (sameTables_of_pipelineStr_eq noChange)
  | false =>
      rw [Unnoticed, pipelineChange_eq_false_iff, and_assoc, and_iff_right rfl]
      refine and_congr_right fun same => ?_
      rw [pipelineTableids_eq_iff (staticTableIds_eq same),
        sameTables_iff (staticTableIds_eq same), not_forall]

/-- Then there is an id that stands for another table than before. -/
theorem exists_moved_of_unnoticed (unnoticed : Unnoticed old new tfm) : ∃ first second id,
    first ≠ second ∧ old.pipeline.idOf first = some id ∧ new.pipeline.idOf second = some id := by
  obtain ⟨rfl, -⟩ := unnoticed_iff.mp unnoticed
  obtain ⟨noChange, moved⟩ := unnoticed
  have sameIds := (pipelineChange_eq_false_iff.mp noChange).2
  rw [SameTables, not_forall] at moved
  obtain ⟨name, differs⟩ := moved
  cases before : old.pipeline.idOf name with
  | some id =>
      have used : id ∈ new.pipeline.pipelineTableids := sameIds ▸ mem_ids.mpr ⟨name, before⟩
      obtain ⟨other, after⟩ := mem_ids.mp used
      refine ⟨name, other, id, ?_, before, after⟩
      rintro rfl
      exact differs (before.trans after.symm)
  | none =>
      obtain ⟨id, after⟩ := Option.ne_none_iff_exists'.mp
        fun none => differs (before.trans none.symm)
      have used : id ∈ old.pipeline.pipelineTableids := sameIds ▸ mem_ids.mpr ⟨name, after⟩
      obtain ⟨other, before'⟩ := mem_ids.mp used
      refine ⟨other, name, id, ?_, before', after⟩
      rintro rfl
      cases before.symm.trans before'

/-- The ACL of a port is replaced by one of its VLAN. The other port is not reported, and
its rules for the VLAN stay in a table that is now for ACLs of VLANs. -/
theorem kept_in_wrong_table :
    restartType (lab true false [false] []) (lab true false [] [false]) false = some .warm ∧
    2 ∉ (getConfigChanges (lab true false [false] []) (lab true false [] [false])).changedPorts ∧
    (lab true false [false] []).pipeline.idOf .vlan = some 1 ∧
    (lab true false [] [false]).pipeline.idOf .vlanAcl = some 1 := by
  decide +kernel

end Faucet.Reload
