import Faucet.Flooding.Lookup

/-!
# The copies of a packet that is flooded

A rule of a VLAN outputs first to the tagged ports and, after the tag is popped, to the
untagged ones. A group with a bucket for each of these outputs makes the same copies
(`groupOutputs_buckets`). When the actions are deduplicated before the buckets are
built, a port that is output to both with and without the tag loses the copy without it
(`actOutputs_dedupedActs`).
-/

set_option autoImplicit false

namespace Faucet.Flooding

open OpenFlow

/-- The packet is sent out as these copies. -/
def Copies (dp : Dp) (switch : Switch) (packet : Packet) (copies : Multiset Output) : Prop :=
  ∃ flow entry, Selects dp switch packet flow entry ∧
    copies = entryOutputs switch.groups packet.inPort entry

/-- The copies that outputs to these ports make. -/
def copiesTo (inPort : PortNo) (tagged : Bool) (ports : List PortNo) : List Output :=
  (ports.filterMap (outputTo inPort)).map (⟨·, tagged⟩)

variable {groups : ℕ → Option Group} {inPort port other sent : PortNo} {tagged : Bool}
  {ports : List PortNo} {acts rest nonOutputs : List Act}

/-! ## Outputs -/

theorem outputTo_isSome_iff (valid : inPort ≠ ofppInPort) :
    (outputTo inPort port).isSome ↔ port ≠ inPort := by
  unfold outputTo
  split
  next isInPort => simp [isInPort, valid.symm]
  next => split <;> simp_all

/-- Different outputs are sent out of different ports. -/
theorem outputTo_inj (goes : outputTo inPort port = some sent)
    (goes' : outputTo inPort other = some sent) : port = other := by
  unfold outputTo at goes goes'
  grind

theorem mem_copiesTo {output : Output} : output ∈ copiesTo inPort tagged ports ↔
    output.tagged = tagged ∧ ∃ port ∈ ports, outputTo inPort port = some output.port := by
  obtain ⟨sent, outputTag⟩ := output
  simp only [copiesTo, List.mem_map, List.mem_filterMap, Output.mk.injEq]
  constructor
  · rintro ⟨_, ⟨port, member, goes⟩, rfl, rfl⟩
    exact ⟨rfl, port, member, goes⟩
  · rintro ⟨rfl, port, member, goes⟩
    exact ⟨sent, ⟨port, member, goes⟩, rfl, rfl⟩

/-! ## Actions -/

/-- Actions that do not output anything. -/
def OnlyOthers (acts : List Act) : Prop := ∀ act ∈ acts, ∃ code, act = .other code

theorem actOutputs_onlyOthers (others : OnlyOthers acts) :
    actOutputs groups inPort tagged acts = [] := by
  induction acts generalizing tagged with
  | nil => rfl
  | cons act acts ih =>
      obtain ⟨code, rfl⟩ := others act List.mem_cons_self
      rw [actOutputs]
      · exact ih fun act member => others act (List.mem_cons_of_mem _ member)
      all_goals simp

theorem actOutputs_append_onlyOthers (others : OnlyOthers rest) :
    actOutputs groups inPort tagged (acts ++ rest) = actOutputs groups inPort tagged acts := by
  induction acts generalizing tagged with
  | nil => exact actOutputs_onlyOthers others
  | cons act acts ih =>
      cases act with
      | output port => rw [List.cons_append, actOutputs, ih, actOutputs]
      | group groupId => rw [List.cons_append, actOutputs, ih, actOutputs]
      | other code => rw [List.cons_append, actOutputs, ih, actOutputs] <;> simp

theorem actOutputs_outputs : actOutputs groups inPort tagged (ports.map .output ++ rest) =
    copiesTo inPort tagged ports ++ actOutputs groups inPort tagged rest := by
  induction ports with
  | nil => rfl
  | cons port ports ih =>
      rw [List.map_cons, List.cons_append, actOutputs, ih, ← List.append_assoc]
      congr 1
      cases goes : outputTo inPort port <;> simp [copiesTo, goes]

/-- Only actions without outputs are left out at the end. -/
theorem exists_floodInst_eq : ∃ isOther : Act → Bool,
    (∀ act, isOther act = true → ∃ code, act = .other code) ∧
      ∀ acts, floodInst acts = if (acts.rdropWhile isOther).isEmpty then []
        else [.applyActions (acts.rdropWhile isOther)] := by
  refine ⟨_, ?_, fun acts => rfl⟩
  intro act isOther
  cases act with
  | other code => exact ⟨code, rfl⟩
  | _ => cases isOther

/-- What is left out of the instruction has no outputs. -/
theorem entryOutputs_floodEntry {dp : Dp} : entryOutputs groups inPort (dp.floodEntry acts) =
    actOutputs groups inPort true acts := by
  obtain ⟨isOther, onlyOthers, floodInst⟩ := exists_floodInst_eq
  have inst : (dp.floodEntry acts).instructions = if (acts.rdropWhile isOther).isEmpty then []
      else [.applyActions (acts.rdropWhile isOther)] := floodInst acts
  have others : OnlyOthers (acts.rtakeWhile isOther) :=
    fun act member => onlyOthers act (List.mem_rtakeWhile_imp member)
  have split : actOutputs groups inPort true acts =
      actOutputs groups inPort true (acts.rdropWhile isOther) := by
    conv_lhs => rw [← List.rdropWhile_append_rtakeWhile (p := isOther) (l := acts)]
    exact actOutputs_append_onlyOthers others
  rw [split, entryOutputs, inst]
  by_cases isEmpty : acts.rdropWhile isOther = []
  · rw [isEmpty]
    rfl
  · rw [if_neg (by simpa using isEmpty), List.flatMap_singleton]

/-! ## Buckets -/

theorem bucketOutputs_nonOutputs (others : OnlyOthers nonOutputs) :
    bucketOutputs inPort tagged (nonOutputs ++ [.output port]) =
      copiesTo inPort (tagged && popVlan ∉ nonOutputs) [port] := by
  induction nonOutputs generalizing tagged with
  | nil =>
      rw [List.nil_append, bucketOutputs, bucketOutputs]
      cases goes : outputTo inPort port <;> simp [copiesTo, goes]
  | cons act nonOutputs ih =>
      obtain ⟨code, rfl⟩ := others act List.mem_cons_self
      rw [List.cons_append, bucketOutputs]
      · rw [ih fun act member => others act (List.mem_cons_of_mem _ member)]
        congr 1
        by_cases same : Act.other code = popVlan
        · simp [same]
        · simp [same, Ne.symm same]
      all_goals simp

/-- A bucket for each output makes the copies that the actions make. -/
theorem flatMap_buildGroupFloodBuckets (others : OnlyOthers nonOutputs)
    (noGroups : ∀ groupId, .group groupId ∉ acts) :
    ((buildGroupFloodBuckets nonOutputs acts).flatMap fun bucket =>
        bucketOutputs inPort tagged bucket.actions) =
      actOutputs groups inPort (tagged && popVlan ∉ nonOutputs) acts := by
  induction acts generalizing nonOutputs with
  | nil => rfl
  | cons act acts ih =>
      have noGroups' : ∀ groupId, .group groupId ∉ acts :=
        fun groupId member => noGroups groupId (List.mem_cons_of_mem _ member)
      cases act with
      | output port =>
          have built : buildGroupFloodBuckets nonOutputs (.output port :: acts) =
              ⟨0, 0xffffffff, 0xffffffff, nonOutputs ++ [.output port]⟩ ::
                buildGroupFloodBuckets nonOutputs acts := rfl
          rw [built, List.flatMap_cons, ih others noGroups', bucketOutputs_nonOutputs others,
            actOutputs]
          congr 1
      | group groupId => exact absurd List.mem_cons_self (noGroups groupId)
      | other code =>
          have others' : OnlyOthers (nonOutputs ++ [.other code]) := by
            intro act member
            rcases List.mem_append.mp member with member | member
            · exact others act member
            · exact ⟨code, List.mem_singleton.mp member⟩
          have built : buildGroupFloodBuckets nonOutputs (.other code :: acts) =
              buildGroupFloodBuckets (nonOutputs ++ [.other code]) acts := rfl
          rw [built, ih others' noGroups', actOutputs]
          · congr 1
            by_cases same : Act.other code = popVlan
            · simp [same]
            · simp [same, Ne.symm same]
          all_goals simp

/-- **A group makes the copies that its actions make.** -/
theorem groupOutputs_buckets {type : ℕ} (noGroups : ∀ groupId, .group groupId ∉ acts) :
    groupOutputs inPort true ⟨type, buildGroupFloodBuckets [] acts⟩ =
      actOutputs groups inPort true acts :=
  flatMap_buildGroupFloodBuckets nofun noGroups

/-! ## The actions of a VLAN -/

/-- The outputs after the tag has been popped. -/
def poppedOutputs (ports : List PortNo) : List Act :=
  if ports = [] then [] else popVlan :: ports.map .output

theorem actOutputs_poppedOutputs : actOutputs groups inPort true (poppedOutputs ports) =
    copiesTo inPort false ports := by
  unfold poppedOutputs
  split
  next isEmpty =>
    rw [isEmpty]
    rfl
  next =>
    have outputs : actOutputs groups inPort false (ports.map .output ++ []) =
        copiesTo inPort false ports ++ [] := actOutputs_outputs
    rw [List.append_nil, List.append_nil] at outputs
    rw [popVlan, actOutputs]
    · exact outputs
    all_goals simp

namespace Vlan

variable {vlan : Vlan} {excludeUnicast : Bool}

/-- The ports that the rule for the whole VLAN leaves out. -/
def vlanExcludedPorts (vlan : Vlan) : List PortNo :=
  vlan.excludedLagPorts none ++ vlan.excludeNativeIfDot1x ++ vlan.excludedExternalPorts none false ++
    vlan.restrictedBcastArpndPorts.map (·.number)

/-- Where the rule for the whole VLAN outputs to with the tag. -/
def taggedOutputs (vlan : Vlan) (excludeUnicast : Bool) : List PortNo :=
  ((vlan.taggedFloodPorts excludeUnicast).flatMap
    (portOutputs none vlan.vlanExcludedPorts)).dedup.insertionSort (· ≤ ·)

/-- Where the rule for the whole VLAN outputs to without the tag. -/
def untaggedOutputs (vlan : Vlan) (excludeUnicast : Bool) : List PortNo :=
  ((vlan.untaggedFloodPorts excludeUnicast).flatMap
    (portOutputs none vlan.vlanExcludedPorts)).dedup.insertionSort (· ≤ ·)

/-- The action that comes before all outputs. -/
def externalFlag (vlan : Vlan) (excludeUnicast : Bool) : List Act :=
  if vlan.loopProtectExternalPorts ≠ [] ∧ vlan.taggedFloodPorts excludeUnicast ≠ [] then
    [setExternalForwardingRequested] else []

theorem buildFloodActsForVlan_eq : vlan.buildFloodActsForVlan excludeUnicast =
    vlan.externalFlag excludeUnicast ++ ((vlan.taggedOutputs excludeUnicast).map .output ++
      poppedOutputs (vlan.untaggedOutputs excludeUnicast)) := by
  have popped : floodUntaggedPortOutputs (vlan.untaggedFloodPorts excludeUnicast) none
      vlan.vlanExcludedPorts = poppedOutputs (vlan.untaggedOutputs excludeUnicast) := by
    simp only [floodUntaggedPortOutputs, poppedOutputs, floodTaggedPortOutputs,
      dedupeOutputPortActs, List.isEmpty_iff, List.map_eq_nil_iff]
    rfl
  rw [← popped]
  rfl

theorem nodup_taggedOutputs : (vlan.taggedOutputs excludeUnicast).Nodup :=
  (List.perm_insertionSort _ _).nodup_iff.mpr (List.nodup_dedup _)

theorem nodup_untaggedOutputs : (vlan.untaggedOutputs excludeUnicast).Nodup :=
  (List.perm_insertionSort _ _).nodup_iff.mpr (List.nodup_dedup _)

theorem actOutputs_externalFlag :
    actOutputs groups inPort true (vlan.externalFlag excludeUnicast ++ rest) =
      actOutputs groups inPort true rest := by
  unfold externalFlag
  split
  next =>
    rw [setExternalForwardingRequested, List.singleton_append, actOutputs]
    · rfl
    all_goals simp
  next => rfl

/-- The copies that the rule for the whole VLAN makes. -/
theorem actOutputs_buildFloodActsForVlan :
    actOutputs groups inPort true (vlan.buildFloodActsForVlan excludeUnicast) =
      copiesTo inPort true (vlan.taggedOutputs excludeUnicast) ++
        copiesTo inPort false (vlan.untaggedOutputs excludeUnicast) := by
  rw [buildFloodActsForVlan_eq, actOutputs_externalFlag, actOutputs_outputs,
    actOutputs_poppedOutputs]

/-! ## Deduplication -/

theorem nodup_poppedOutputs (nodup : ports.Nodup) : (poppedOutputs ports).Nodup := by
  unfold poppedOutputs
  split
  next => exact List.nodup_nil
  next =>
    refine List.nodup_cons.mpr ⟨fun member => ?_, nodup.map fun _ _ same => Act.output.inj same⟩
    obtain ⟨_, _, same⟩ := List.mem_map.mp member
    cases same

theorem mem_externalFlag {act : Act} (member : act ∈ vlan.externalFlag excludeUnicast) :
    act = setExternalForwardingRequested := by
  unfold externalFlag at member
  split at member
  · exact List.mem_singleton.mp member
  · cases member

theorem nodup_externalFlag : (vlan.externalFlag excludeUnicast).Nodup := by
  unfold externalFlag
  split
  · exact List.nodup_singleton _
  · exact List.nodup_nil

theorem output_mem_flagged : .output port ∈ vlan.externalFlag excludeUnicast ++
    (vlan.taggedOutputs excludeUnicast).map .output ↔ port ∈ vlan.taggedOutputs excludeUnicast := by
  rw [List.mem_append]
  constructor
  · rintro (flag | member)
    · cases mem_externalFlag flag
    · obtain ⟨_, member, same⟩ := List.mem_map.mp member
      cases same
      exact member
  · exact fun member => .inr (List.mem_map_of_mem member)

theorem popVlan_not_mem_flagged : popVlan ∉ vlan.externalFlag excludeUnicast ++
    (vlan.taggedOutputs excludeUnicast).map .output := by
  rw [List.mem_append]
  rintro (flag | member)
  · cases mem_externalFlag flag
  · obtain ⟨_, _, same⟩ := List.mem_map.mp member
    cases same

/-- Deduplication leaves out the ports that have been output to with the tag. -/
theorem dedupedActs_eq : dedupedActs (vlan.buildFloodActsForVlan excludeUnicast) =
    vlan.externalFlag excludeUnicast ++ ((vlan.taggedOutputs excludeUnicast).map .output ++
      (poppedOutputs (vlan.untaggedOutputs excludeUnicast)).filter
        (· ∉ vlan.externalFlag excludeUnicast ++
          (vlan.taggedOutputs excludeUnicast).map .output)) := by
  have nodup : (vlan.externalFlag excludeUnicast ++
      (vlan.taggedOutputs excludeUnicast).map Act.output).Nodup := by
    refine List.nodup_append.mpr ⟨nodup_externalFlag,
      nodup_taggedOutputs.map fun _ _ same => Act.output.inj same, ?_⟩
    intro flag isFlag act member same
    subst same
    cases mem_externalFlag isFlag
    obtain ⟨_, _, same⟩ := List.mem_map.mp member
    cases same
  rw [dedupedActs, buildFloodActsForVlan_eq, ← List.append_assoc, OrderedDict.values_id_append,
    OrderedDict.values_id_of_nodup nodup,
    OrderedDict.values_id_of_nodup (nodup_poppedOutputs nodup_untaggedOutputs), List.append_assoc]

theorem filter_poppedOutputs : actOutputs groups inPort true
    ((poppedOutputs ports).filter (· ∉ vlan.externalFlag excludeUnicast ++
      (vlan.taggedOutputs excludeUnicast).map .output)) =
    copiesTo inPort false (ports.filter (· ∉ vlan.taggedOutputs excludeUnicast)) := by
  unfold poppedOutputs
  split
  next isEmpty =>
    rw [isEmpty]
    rfl
  next =>
    have outputs : (ports.map Act.output).filter (· ∉ vlan.externalFlag excludeUnicast ++
        (vlan.taggedOutputs excludeUnicast).map .output) =
          (ports.filter (· ∉ vlan.taggedOutputs excludeUnicast)).map .output ++ [] := by
      rw [List.append_nil, List.filter_map]
      congr 1
      refine List.filter_congr fun port _ => ?_
      simp only [Function.comp_apply, output_mem_flagged]
    have kept : (popVlan :: ports.map Act.output).filter (· ∉ vlan.externalFlag excludeUnicast ++
        (vlan.taggedOutputs excludeUnicast).map .output) = popVlan ::
          ((ports.filter (· ∉ vlan.taggedOutputs excludeUnicast)).map .output ++ []) := by
      rw [List.filter_cons, if_pos (by simpa using popVlan_not_mem_flagged), outputs]
    rw [kept, popVlan, actOutputs]
    · rw [actOutputs_outputs]
      exact List.append_nil _
    all_goals simp

/-- **Deduplication loses copies without the tag.** -/
theorem actOutputs_dedupedActs :
    actOutputs groups inPort true (dedupedActs (vlan.buildFloodActsForVlan excludeUnicast)) =
      copiesTo inPort true (vlan.taggedOutputs excludeUnicast) ++
        copiesTo inPort false ((vlan.untaggedOutputs excludeUnicast).filter
          (· ∉ vlan.taggedOutputs excludeUnicast)) := by
  rw [dedupedActs_eq, actOutputs_externalFlag, actOutputs_outputs, filter_poppedOutputs]

end Vlan

end Faucet.Flooding
