import Faucet.Flooding.Ports

/-!
# Where a packet is flooded on one switch

The ports that a packet is flooded to are those of the VLAN, less the ports that are
left out for several reasons, each of them computed by itself. One of the external ports
that are up is meant to be output to. It is chosen by its number, before it is known
whether it is left out for another reason, and so it can happen that there is none
(`exact_iff`).
-/

set_option autoImplicit false

namespace Faucet.Flooding

open OpenFlow (Act PortNo)

/-- A call of `_build_flood_local_rule_actions`. Ports are known by their numbers, and
what they are mirrored to is not in the VLAN. -/
structure LocalFlood where
  vlan : Vlan
  excludeUnicast : Bool
  inPort : Option Port
  excludeAllExternal : Bool
  excludeRestrictedBcastArpnd : Bool
  numbers : ∀ port ∈ inPort.toList ++ vlan.getPorts, ∀ other ∈ inPort.toList ++ vlan.getPorts,
    port.number = other.number → port = other
  switchPorts : ∀ port ∈ inPort.toList ++ vlan.getPorts, port.number ≠ ofppInPort
  mirrors : ∀ port ∈ vlan.getPorts, ∀ number ∈ port.mirror, number ≠ ofppInPort ∧
    ∀ other ∈ inPort.toList ++ vlan.getPorts, number ≠ other.number

namespace LocalFlood

variable (call : LocalFlood)

/-! ## What is meant -/

/-- The actions of the call. -/
def acts : List Act :=
  call.vlan.buildFloodLocalRuleActions call.excludeUnicast call.inPort call.excludeAllExternal
    call.excludeRestrictedBcastArpnd

/-- The actions output to the port of the number. -/
def Sends (number : PortNo) : Prop := .output number ∈ call.acts

/-- The ports that the call floods to. -/
def floodPorts : List Port := call.vlan.allPorts call.excludeUnicast

/-- The port is ruled out by `restricted_bcast_arpnd`, or as it is in another VLAN by 802.1x. -/
def Aside (port : Port) : Prop :=
  (port ∈ call.vlan.untagged ∧ port.dynDot1xNativeVlan ≠ none ∧
      port.dynDot1xNativeVlan ≠ some call.vlan.vid) ∨
    call.excludeRestrictedBcastArpnd = true ∧ port.restrictedBcastArpnd = true

/-- The LAG is that of the input port. -/
def OwnLag (lag : Lacp.LagId) : Prop := ∃ port ∈ call.inPort, port.lacp ≠ 0 ∧ port.lacp = lag

/-- A LAG of flood ports that are not external, and not the one of the input port. -/
structure PlainLag (lag : Lacp.LagId) : Prop where
  isLag : lag ≠ 0
  other : ¬ call.OwnLag lag
  plain : ∀ port ∈ call.vlan.getPorts, port.lacp = lag →
    port ∈ call.floodPorts ∧ port.loopProtectExternal = false ∧ ¬ call.Aside port

/-- The port is an external one that is up. -/
def UpExternal (port : Port) : Prop := port ∈ call.vlan.loopProtectExternalPortsUp

/-- An external port that is up, which nothing but other external ports keeps back. -/
structure Eligible (port : Port) : Prop where
  floods : port ∈ call.floodPorts
  external : call.UpExternal port
  byLag : port.number ∉ call.vlan.excludedLagPorts call.inPort
  notAside : ¬ call.Aside port

/-- External ports are excluded neither by the caller nor by the input port. -/
def AllowsExternal : Prop :=
  call.excludeAllExternal = false ∧ ∀ port ∈ call.inPort, port.loopProtectExternal = false

/-- **The flood is exact**: the packet gets to each port that it is meant for. -/
structure Exact : Prop where
  plain : ∀ port ∈ call.floodPorts, port.lacp = 0 → port.loopProtectExternal = false →
    call.inPort ≠ some port → ¬ call.Aside port → call.Sends port.number
  lag : ∀ lag, call.PlainLag lag → (∃ port ∈ call.vlan.lacpUpSelectedPorts, port.lacp = lag) →
    ∃! port, port ∈ call.vlan.getPorts ∧ port.lacp = lag ∧ call.Sends port.number
  noLag : ∀ port ∈ call.vlan.getPorts, port.lacp ≠ 0 →
    (∀ other ∈ call.vlan.lacpUpSelectedPorts, other.lacp ≠ port.lacp) → ¬ call.Sends port.number
  ownLag : ∀ port ∈ call.vlan.getPorts, call.OwnLag port.lacp → ¬ call.Sends port.number
  oneExternal : ∀ port other, call.UpExternal port → call.UpExternal other →
    call.Sends port.number → call.Sends other.number → port = other
  someExternal : call.AllowsExternal → (∃ port, call.Eligible port) →
    ∃ port, call.UpExternal port ∧ call.Sends port.number
  noExternal : (∃ port ∈ call.inPort, port.loopProtectExternal = true) →
    ∀ port, call.UpExternal port → ¬ call.Sends port.number
  inPort : ∀ port ∈ call.inPort, ¬ call.Sends port.number
  hairpin : call.Sends ofppInPort → ∃ port ∈ call.inPort, port.hairpin = true

/-- What is chosen can be output to: it is in the VLAN once, and the external port of the
lowest number is kept back by nothing else. -/
structure ChoosesWell : Prop where
  lag : ∀ lag, call.PlainLag lag → ∀ port,
    call.vlan.lacpUpSelectedPorts.find? (·.lacp = lag) = some port →
      call.vlan.getPorts.count port = 1
  external : call.AllowsExternal → (∃ port, call.Eligible port) →
    ∃ first, call.Eligible first ∧ (∀ other, call.UpExternal other → first.number ≤ other.number) ∧
      call.vlan.getPorts.count first = 1

end LocalFlood

/-! ## Actions -/

section Actions

variable {ports tagged untagged : List Port} {inPort : Option Port} {excludePorts : List PortNo}
  {number : PortNo}

theorem output_mem_floodTagged : .output number ∈ floodTaggedPortOutputs ports inPort excludePorts ↔
    ∃ port ∈ ports, number ∈ portOutputs inPort excludePorts port := by
  simp [floodTaggedPortOutputs, dedupeOutputPortActs]

theorem output_mem_floodUntagged :
    .output number ∈ floodUntaggedPortOutputs ports inPort excludePorts ↔
      ∃ port ∈ ports, number ∈ portOutputs inPort excludePorts port := by
  rw [← output_mem_floodTagged, floodUntaggedPortOutputs]
  split
  next empty =>
    rw [List.isEmpty_iff.mp empty]
  next => simp [popVlan]

theorem output_mem_floodPortOutputs :
    .output number ∈ floodPortOutputs tagged untagged inPort excludePorts ↔
      ∃ port ∈ tagged ++ untagged, number ∈ portOutputs inPort excludePorts port := by
  rw [floodPortOutputs, List.mem_append, output_mem_floodTagged, output_mem_floodUntagged]
  simp only [List.mem_append, or_and_right, exists_or]

/-- What is output for a port: the way back, or the port itself and its mirrors. -/
theorem mem_portOutputs {port : Port} (listed : number ∈ portOutputs inPort excludePorts port) :
    (inPort.map (·.number) = some port.number ∧ port.hairpin = true ∧ number = ofppInPort) ∨
      (inPort.map (·.number) ≠ some port.number ∧ port.number ∉ excludePorts ∧
        (number = port.number ∨ number ∈ port.mirror)) := by
  rw [portOutputs] at listed
  split at listed
  next isIn =>
    split at listed
    next hairpin => exact .inl ⟨isIn, hairpin, List.mem_singleton.mp listed⟩
    next => cases listed
  next apart =>
    split at listed
    next => cases listed
    next left =>
      refine .inr ⟨apart, left, ?_⟩
      split at listed
      · exact .inl (List.mem_singleton.mp listed)
      · exact List.mem_cons.mp listed

/-- In a sorted list a number is not after the first one when it is the least one, once. -/
theorem notMem_tail_of_sorted {list : List PortNo} (sorted : list.Pairwise (· ≤ ·))
    (member : number ∈ list) :
    number ∉ list.tail ↔ (∀ other ∈ list, number ≤ other) ∧ list.count number = 1 := by
  cases list with
  | nil => cases member
  | cons first rest =>
      obtain ⟨least, _⟩ := List.pairwise_cons.mp sorted
      rw [List.tail_cons]
      by_cases isFirst : number = first
      · subst isFirst
        rw [List.count_cons_self, Nat.add_eq_right, List.count_eq_zero]
        constructor
        · refine fun absent => ⟨fun other listed => ?_, absent⟩
          rcases List.mem_cons.mp listed with rfl | later
          · exact Nat.le_refl _
          · exact least other later
        · exact fun both => both.2
      · have later : number ∈ rest := (List.mem_cons.mp member).resolve_left isFirst
        constructor
        · exact fun absent => absurd later absent
        · rintro ⟨isLeast, _⟩ _
          exact isFirst (Nat.le_antisymm (isLeast first List.mem_cons_self) (least number later))

theorem count_map_number {port : Port}
    (distinct : ∀ other ∈ ports, other.number = port.number → other = port) :
    (ports.map (·.number)).count port.number = ports.count port := by
  induction ports with
  | nil => rfl
  | cons first rest ih =>
      have later := ih fun other member => distinct other (List.mem_cons_of_mem _ member)
      rw [List.map_cons, List.count_cons, List.count_cons, later]
      by_cases same : first = port
      · simp [same]
      · have apart : first.number ≠ port.number :=
          fun number => same (distinct first List.mem_cons_self number)
        simp [same, apart]

theorem notMem_tail_insertionSort {list : List PortNo} (member : number ∈ list) :
    number ∉ (list.insertionSort (· ≤ ·)).tail ↔
      (∀ other ∈ list, number ≤ other) ∧ list.count number = 1 := by
  have perm := List.perm_insertionSort (· ≤ ·) list
  have sorted := List.pairwise_insertionSort (· ≤ ·) list
  rw [notMem_tail_of_sorted sorted (perm.mem_iff.mpr member), perm.count_eq]
  simp only [perm.mem_iff]

end Actions

/-! ## What is left out -/

namespace LocalFlood

section Excluded

variable {call : LocalFlood} {port other : Port} {lag : Lacp.LagId} {number : PortNo}

/-- What the call excludes. -/
def excludePorts (call : LocalFlood) : List PortNo :=
  call.vlan.excludedLagPorts call.inPort ++ call.vlan.excludeNativeIfDot1x ++
    call.vlan.excludedExternalPorts call.inPort call.excludeAllExternal ++
    if call.excludeRestrictedBcastArpnd then call.vlan.restrictedBcastArpndPorts.map (·.number)
    else []

theorem eq_of_number (member : port ∈ call.vlan.getPorts) (member' : other ∈ call.vlan.getPorts)
    (same : port.number = other.number) : port = other :=
  call.numbers port (List.mem_append_right _ member) other (List.mem_append_right _ member') same

/-- Among ports of the VLAN the number stands for the port. -/
theorem number_mem_map {ports : List Port} (within : ports ⊆ call.vlan.getPorts)
    (member : port ∈ call.vlan.getPorts) : port.number ∈ ports.map (·.number) ↔ port ∈ ports := by
  constructor
  · intro listed
    obtain ⟨other, listed, same⟩ := List.mem_map.mp listed
    rwa [← eq_of_number (within listed) member same]
  · exact fun listed => List.mem_map.mpr ⟨port, listed, rfl⟩

theorem mem_floodPorts : port ∈ call.floodPorts ↔
    port ∈ call.vlan.taggedFloodPorts call.excludeUnicast ++
      call.vlan.untaggedFloodPorts call.excludeUnicast := by
  simp only [floodPorts, Vlan.allPorts, Vlan.taggedFloodPorts, Vlan.untaggedFloodPorts,
    Vlan.floodPorts, Vlan.getPorts]
  cases call.excludeUnicast <;> simp

theorem floodPorts_subset : call.floodPorts ⊆ call.vlan.getPorts := by
  intro port member
  rw [floodPorts, Vlan.allPorts, Vlan.floodPorts] at member
  split at member
  · exact (List.mem_filter.mp member).1
  · exact member

/-! ### LAGs -/

theorem mem_lacpPorts : port ∈ call.vlan.lacpPorts ↔ port ∈ call.vlan.getPorts ∧ port.lacp ≠ 0 := by
  simp [Vlan.lacpPorts]

theorem mem_lacpUpSelectedPorts (member : port ∈ call.vlan.lacpUpSelectedPorts) :
    port ∈ call.vlan.getPorts ∧ port.lacp ≠ 0 :=
  mem_lacpPorts.mp (List.mem_filter.mp member).1

theorem mem_of_unusedLagPorts (unused : port ∈ call.vlan.unusedLagPorts lag) :
    port ∈ call.vlan.lacpPorts ∧ port.lacp = lag := by
  have member : port ∈ call.vlan.lacpPorts.filter (·.lacp = lag) := by
    rw [Vlan.unusedLagPorts] at unused
    split at unused
    · exact List.mem_of_mem_erase unused
    · exact unused
  exact ⟨(List.mem_filter.mp member).1, of_decide_eq_true (List.mem_filter.mp member).2⟩

/-- A port of a LAG is used when it is chosen, and is in the VLAN once. -/
theorem notMem_unusedLagPorts (member : port ∈ call.vlan.getPorts) (isLacp : port.lacp ≠ 0) :
    port ∉ call.vlan.unusedLagPorts port.lacp ↔
      call.vlan.lacpUpSelectedPorts.find? (·.lacp = port.lacp) = some port ∧
        call.vlan.getPorts.count port = 1 := by
  have listed : port ∈ call.vlan.lacpPorts.filter (·.lacp = port.lacp) :=
    List.mem_filter.mpr ⟨mem_lacpPorts.mpr ⟨member, isLacp⟩, decide_eq_true rfl⟩
  have count : (call.vlan.lacpPorts.filter (·.lacp = port.lacp)).count port =
      call.vlan.getPorts.count port := by
    rw [List.count_filter (by simp), Vlan.lacpPorts, List.count_filter (by simp [isLacp])]
  have positive : 0 < call.vlan.getPorts.count port := List.count_pos_iff.mpr member
  rw [Vlan.unusedLagPorts]
  cases chosen : call.vlan.lacpUpSelectedPorts.find? (·.lacp = port.lacp) with
  | none => simpa using listed
  | some selected =>
      dsimp only
      by_cases same : selected = port
      · subst same
        rw [← List.count_eq_zero, List.count_erase_self, count]
        constructor
        · exact fun none => ⟨rfl, by omega⟩
        · rintro ⟨_, once⟩
          omega
      · rw [List.mem_erase_of_ne (Ne.symm same)]
        constructor
        · exact fun absent => absurd listed absent
        · rintro ⟨isPort, _⟩
          exact absurd (Option.some.inj isPort) same

/-- **The ports that LAGs leave out.** -/
theorem mem_excludedLagPorts (member : port ∈ call.vlan.getPorts) :
    port.number ∈ call.vlan.excludedLagPorts call.inPort ↔
      port.lacp ≠ 0 ∧ (call.OwnLag port.lacp ∨ port ∈ call.vlan.unusedLagPorts port.lacp) := by
  have own : port.number ∈ (call.vlan.lacpPorts.filter fun port =>
      call.inPort.any fun other => other.lacp ≠ 0 ∧ other.lacp = port.lacp).map (·.number) ↔
        port.lacp ≠ 0 ∧ call.OwnLag port.lacp := by
    rw [number_mem_map (fun other listed => (mem_lacpPorts.mp (List.mem_filter.mp listed).1).1)
      member, List.mem_filter, mem_lacpPorts, and_iff_right member]
    refine and_congr_right fun _ => ?_
    rw [OwnLag]
    cases call.inPort <;> simp
  have unused : port.number ∈ (call.vlan.lags.flatMap call.vlan.unusedLagPorts).map (·.number) ↔
      port ∈ call.vlan.unusedLagPorts port.lacp ∧ port.lacp ≠ 0 := by
    have within : call.vlan.lags.flatMap call.vlan.unusedLagPorts ⊆ call.vlan.getPorts := by
      intro other listed
      obtain ⟨lag, _, listed⟩ := List.mem_flatMap.mp listed
      exact (mem_lacpPorts.mp (mem_of_unusedLagPorts listed).1).1
    rw [number_mem_map within member, List.mem_flatMap]
    constructor
    · rintro ⟨lag, _, listed⟩
      obtain ⟨isLacp, rfl⟩ := mem_of_unusedLagPorts listed
      exact ⟨listed, (mem_lacpPorts.mp isLacp).2⟩
    · rintro ⟨listed, isLacp⟩
      refine ⟨port.lacp, List.mem_dedup.mpr (List.mem_map.mpr ⟨port, ?_, rfl⟩), listed⟩
      exact mem_lacpPorts.mpr ⟨member, isLacp⟩
  rw [Vlan.excludedLagPorts, List.mem_append, own, unused]
  tauto

/-! ### External ports -/

theorem upExternal_iff : call.UpExternal port ↔ port ∈ call.vlan.getPorts ∧
    port.loopProtectExternal = true ∧ port.dynPhysUp = true := by
  simp [UpExternal, Vlan.loopProtectExternalPortsUp, Vlan.loopProtectExternalPorts,
    and_comm (a := port.dynPhysUp = true)]

theorem allowsExternal_iff : call.AllowsExternal ↔
    (call.excludeAllExternal || call.inPort.any (·.loopProtectExternal)) = false := by
  rw [AllowsExternal, Bool.or_eq_false_iff]
  cases call.inPort <;> simp

theorem number_mem_external (member : port ∈ call.vlan.getPorts) :
    port.number ∈ call.vlan.loopProtectExternalPortsUp.map (·.number) ↔ call.UpExternal port :=
  number_mem_map (fun _ listed => (upExternal_iff.mp listed).1) member

theorem mem_excludedExternalPorts
    (listed : number ∈ call.vlan.excludedExternalPorts call.inPort call.excludeAllExternal) :
    number ∈ call.vlan.loopProtectExternalPortsUp.map (·.number) := by
  rw [Vlan.excludedExternalPorts] at listed
  split at listed
  · exact (List.mem_insertionSort _).mp listed
  · exact (List.mem_insertionSort _).mp (List.mem_of_mem_tail listed)

/-- **An external port that is up is not left out** when external ports are allowed, and
it is the first one, once in the VLAN. -/
theorem notMem_excludedExternalPorts (external : call.UpExternal port) :
    port.number ∉ call.vlan.excludedExternalPorts call.inPort call.excludeAllExternal ↔
      call.AllowsExternal ∧ (∀ other, call.UpExternal other → port.number ≤ other.number) ∧
        call.vlan.getPorts.count port = 1 := by
  obtain ⟨member, isExternal, isUp⟩ := upExternal_iff.mp external
  have listed := (number_mem_external member).mpr external
  have count : (call.vlan.loopProtectExternalPortsUp.map (·.number)).count port.number =
      call.vlan.getPorts.count port := by
    rw [count_map_number fun other listed => eq_of_number (upExternal_iff.mp listed).1 member,
      Vlan.loopProtectExternalPortsUp, List.count_filter (by simpa using isUp),
      Vlan.loopProtectExternalPorts, List.count_filter (by simpa using isExternal)]
  rw [Vlan.excludedExternalPorts, allowsExternal_iff]
  split
  next all => simpa [all] using listed
  next some =>
    rw [notMem_tail_insertionSort listed, count, eq_false_of_ne_true some]
    simp only [List.forall_mem_map, true_and]
    rfl

/-! ### All that is left out -/

theorem mem_excludePorts (member : port ∈ call.vlan.getPorts) : port.number ∈ call.excludePorts ↔
    port.number ∈ call.vlan.excludedLagPorts call.inPort ∨ call.Aside port ∨
      port.number ∈ call.vlan.excludedExternalPorts call.inPort call.excludeAllExternal := by
  have untagged : call.vlan.untagged ⊆ call.vlan.getPorts := by
    intro other listed
    exact List.mem_append_left _ (List.mem_append_right _ listed)
  have native : port.number ∈ call.vlan.excludeNativeIfDot1x ↔ port ∈ call.vlan.untagged ∧
      port.dynDot1xNativeVlan ≠ none ∧ port.dynDot1xNativeVlan ≠ some call.vlan.vid := by
    rw [Vlan.excludeNativeIfDot1x,
      number_mem_map (fun _ listed => untagged (List.mem_filter.mp listed).1) member,
      List.mem_filter, decide_eq_true_iff]
  have restricted : port.number ∈ call.vlan.restrictedBcastArpndPorts.map (·.number) ↔
      port.restrictedBcastArpnd = true := by
    rw [Vlan.restrictedBcastArpndPorts,
      number_mem_map (fun _ listed => (List.mem_filter.mp listed).1) member, List.mem_filter,
      and_iff_right member]
  rw [excludePorts, List.mem_append, List.mem_append, List.mem_append, native, Aside]
  cases call.excludeRestrictedBcastArpnd with
  | true =>
      simp only [if_true, restricted, true_and]
      tauto
  | false => simp [or_assoc]

theorem sends_iff_exists : call.Sends number ↔
    ∃ port ∈ call.floodPorts, number ∈ portOutputs call.inPort call.excludePorts port := by
  rw [Sends, acts, Vlan.buildFloodLocalRuleActions, output_mem_floodPortOutputs]
  simp only [mem_floodPorts]
  rfl

/-- The port of a number is the input port. -/
theorem inPort_eq_of_number (known : port ∈ call.inPort.toList ++ call.vlan.getPorts)
    (same : call.inPort.map (·.number) = some port.number) : call.inPort = some port := by
  obtain ⟨other, isIn, same⟩ := Option.map_eq_some_iff.mp same
  have listed : other ∈ call.inPort.toList ++ call.vlan.getPorts :=
    List.mem_append_left _ (Option.mem_toList.mpr isIn)
  rwa [call.numbers other listed port known same] at isIn

/-- **A port is output to** when it is a flood port that is not left out, nor the input port. -/
theorem sends_iff (known : port ∈ call.inPort.toList ++ call.vlan.getPorts) :
    call.Sends port.number ↔
      port ∈ call.floodPorts ∧ call.inPort ≠ some port ∧ port.number ∉ call.excludePorts := by
  rw [sends_iff_exists]
  constructor
  · rintro ⟨other, floods, listed⟩
    have member := List.mem_append_right call.inPort.toList (floodPorts_subset floods)
    rcases mem_portOutputs listed with ⟨_, _, reserved⟩ | ⟨apart, left, same | mirrored⟩
    · exact absurd reserved (call.switchPorts port known)
    · obtain rfl := call.numbers port known other member same
      refine ⟨floods, fun isIn => apart ?_, left⟩
      rw [isIn, Option.map_some]
    · exact absurd rfl ((call.mirrors other (floodPorts_subset floods) _ mirrored).2 port known)
  · rintro ⟨floods, apart, left⟩
    have notIn : call.inPort.map (·.number) ≠ some port.number :=
      fun same => apart (inPort_eq_of_number known same)
    refine ⟨port, floods, ?_⟩
    rw [portOutputs, if_neg notIn, if_neg left]
    split
    · exact List.mem_singleton_self _
    · exact List.mem_cons_self

theorem hairpin_of_sends (sends : call.Sends ofppInPort) :
    ∃ port ∈ call.inPort, port.hairpin = true := by
  obtain ⟨port, floods, listed⟩ := sends_iff_exists.mp sends
  have member := floodPorts_subset floods
  have known := List.mem_append_right call.inPort.toList member
  rcases mem_portOutputs listed with ⟨isIn, hairpin, _⟩ | ⟨_, _, same | mirrored⟩
  · exact ⟨port, inPort_eq_of_number known isIn, hairpin⟩
  · exact absurd same.symm (call.switchPorts port known)
  · exact absurd rfl (call.mirrors port member _ mirrored).1

end Excluded

/-! ## When the flood is exact -/

section Main

variable {call : LocalFlood} {port other : Port} {lag : Lacp.LagId}

/-- **A port of the VLAN is output to** when nothing keeps it back. -/
theorem sends_port_iff (member : port ∈ call.vlan.getPorts) : call.Sends port.number ↔
    port ∈ call.floodPorts ∧ call.inPort ≠ some port ∧ ¬ call.Aside port ∧
      port.number ∉ call.vlan.excludedLagPorts call.inPort ∧
      port.number ∉ call.vlan.excludedExternalPorts call.inPort call.excludeAllExternal := by
  rw [sends_iff (List.mem_append_right _ member), mem_excludePorts member]
  tauto

theorem notMem_external_of_plain (member : port ∈ call.vlan.getPorts)
    (plain : port.loopProtectExternal = false) :
    port.number ∉ call.vlan.excludedExternalPorts call.inPort call.excludeAllExternal := by
  intro listed
  have external := (number_mem_external member).mp (mem_excludedExternalPorts listed)
  exact Bool.false_ne_true (plain.symm.trans (upExternal_iff.mp external).2.1)

/-- A port of a plain LAG is output to when it is chosen, and is in the VLAN once. -/
theorem sends_plainLag_iff (plain : call.PlainLag lag) (member : port ∈ call.vlan.getPorts)
    (inLag : port.lacp = lag) : call.Sends port.number ↔
      call.vlan.lacpUpSelectedPorts.find? (·.lacp = lag) = some port ∧
        call.vlan.getPorts.count port = 1 := by
  subst inLag
  obtain ⟨floods, notExternal, notAside⟩ := plain.plain port member rfl
  have notIn : call.inPort ≠ some port :=
    fun isIn => plain.other ⟨port, isIn, plain.isLag, rfl⟩
  have external := notMem_external_of_plain member notExternal
  rw [sends_port_iff member, mem_excludedLagPorts member,
    ← notMem_unusedLagPorts member plain.isLag]
  have own := plain.other
  have isLag := plain.isLag
  tauto

/-- The external port that is output to is the first one. -/
theorem sends_external_iff (external : call.UpExternal port) : call.Sends port.number ↔
    call.AllowsExternal ∧ call.Eligible port ∧
      (∀ other, call.UpExternal other → port.number ≤ other.number) ∧
      call.vlan.getPorts.count port = 1 := by
  obtain ⟨member, isExternal, _⟩ := upExternal_iff.mp external
  rw [sends_port_iff member, notMem_excludedExternalPorts external]
  constructor
  · rintro ⟨floods, _, notAside, byLag, allows, first⟩
    exact ⟨allows, ⟨floods, external, byLag, notAside⟩, first⟩
  · rintro ⟨allows, eligible, first⟩
    refine ⟨eligible.floods, fun isIn => ?_, eligible.notAside, eligible.byLag, allows, first⟩
    exact Bool.false_ne_true ((allows.2 port isIn).symm.trans isExternal)

theorem choosesWell_of_exact (exact_ : call.Exact) : call.ChoosesWell := by
  refine ⟨fun lag plain port chosen => ?_, fun allows eligible => ?_⟩
  · have selected := List.mem_of_find?_eq_some chosen
    have inLag : port.lacp = lag := by simpa using List.find?_some chosen
    obtain ⟨used, ⟨member, usedLag, sends⟩, _⟩ := exact_.lag lag plain ⟨port, selected, inLag⟩
    obtain ⟨isUsed, once⟩ := (sends_plainLag_iff plain member usedLag).mp sends
    cases chosen.symm.trans isUsed
    exact once
  · obtain ⟨port, external, sends⟩ := exact_.someExternal allows eligible
    obtain ⟨_, isEligible, first⟩ := (sends_external_iff external).mp sends
    exact ⟨port, isEligible, first⟩

theorem exact_of_choosesWell (choosesWell : call.ChoosesWell) : call.Exact where
  plain := by
    intro port floods notLacp notExternal notIn notAside
    have member := floodPorts_subset floods
    rw [sends_port_iff member, mem_excludedLagPorts member]
    exact ⟨floods, notIn, notAside, fun both => both.1 notLacp,
      notMem_external_of_plain member notExternal⟩
  lag := by
    rintro lag plain ⟨selected, listed, inLag⟩
    obtain ⟨port, chosen⟩ : ∃ port, call.vlan.lacpUpSelectedPorts.find? (·.lacp = lag) = some port :=
      Option.isSome_iff_exists.mp
        (List.find?_isSome.mpr ⟨selected, listed, decide_eq_true inLag⟩)
    have member := (mem_lacpUpSelectedPorts (List.mem_of_find?_eq_some chosen)).1
    have portLag : port.lacp = lag := by simpa using List.find?_some chosen
    have once := choosesWell.lag lag plain port chosen
    refine ⟨port, ⟨member, portLag, ?_⟩, ?_⟩
    · exact (sends_plainLag_iff plain member portLag).mpr ⟨chosen, once⟩
    · rintro other ⟨member', otherLag, sends⟩
      have isChosen := ((sends_plainLag_iff plain member' otherLag).mp sends).1
      exact Option.some.inj (isChosen.symm.trans chosen)
  noLag := by
    intro port member isLacp none sends
    have byLag := ((sends_port_iff member).mp sends).2.2.2.1
    rw [mem_excludedLagPorts member, not_and, not_or] at byLag
    have chosen := ((notMem_unusedLagPorts member isLacp).mp (byLag isLacp).2).1
    exact none port (List.mem_of_find?_eq_some chosen) rfl
  ownLag := by
    intro port member own sends
    have byLag := ((sends_port_iff member).mp sends).2.2.2.1
    rw [mem_excludedLagPorts member] at byLag
    obtain ⟨_, _, isLacp, same⟩ := id own
    exact byLag ⟨same ▸ isLacp, .inl own⟩
  oneExternal := by
    intro port other external external' sends sends'
    have first := ((sends_external_iff external).mp sends).2.2.1
    have first' := ((sends_external_iff external').mp sends').2.2.1
    exact eq_of_number (upExternal_iff.mp external).1 (upExternal_iff.mp external').1
      (Nat.le_antisymm (first other external') (first' port external))
  someExternal := by
    intro allows eligible
    obtain ⟨first, isEligible, isFirst⟩ := choosesWell.external allows eligible
    exact ⟨first, isEligible.external,
      (sends_external_iff isEligible.external).mpr ⟨allows, isEligible, isFirst⟩⟩
  noExternal := by
    rintro ⟨inPort, isIn, inExternal⟩ port external sends
    have allows := ((sends_external_iff external).mp sends).1
    exact Bool.false_ne_true ((allows.2 inPort isIn).symm.trans inExternal)
  inPort := by
    intro port isIn sends
    have known : port ∈ call.inPort.toList ++ call.vlan.getPorts :=
      List.mem_append_left _ (Option.mem_toList.mpr isIn)
    exact ((sends_iff known).mp sends).2.1 isIn
  hairpin := hairpin_of_sends

/-- **The flood is exact** when what is chosen can be output to. -/
theorem exact_iff : call.Exact ↔ call.ChoosesWell :=
  ⟨choosesWell_of_exact, exact_of_choosesWell⟩

end Main

/-! ## An external LAG that is not selected -/

/-- A port of VLAN 100 that is up, without a tag. -/
def vlanPort (number : PortNo) (lacp : Lacp.LagId) (external : Bool) : Port where
  number
  lacp
  enabled := true
  dynPhysUp := true
  lacpSelected := false
  lacpUnselected := false
  lacpStandby := false
  dynLacpUp := none
  dynLacpActorState := .init
  dynLacpPortSelected := .unselected
  hairpin := false
  mirror := []
  unicastFlood := true
  restrictedBcastArpnd := false
  loopProtectExternal := external
  nativeVlan := some 100
  dynDot1xNativeVlan := none
  taggedVlans := []

/-- A packet comes in on port 3. The ports 1 and 2 are external, and port 1 is in a LAG. -/
def fromPlain : LocalFlood where
  vlan :=
    { vid := 100
      unicastFlood := true
      reservedInternalVlan := false
      tagged := []
      untagged := [vlanPort 1 1 true, vlanPort 2 0 true, vlanPort 3 0 false]
      dot1xUntagged := [] }
  excludeUnicast := false
  inPort := some (vlanPort 3 0 false)
  excludeAllExternal := false
  excludeRestrictedBcastArpnd := false
  numbers := by decide
  switchPorts := by decide
  mirrors := by decide

/-- Port 1 is left out as its LAG is not selected, and port 2 as it is not the first. -/
theorem not_exact_fromPlain : ¬ fromPlain.Exact := by
  intro exact_
  have allows : fromPlain.AllowsExternal := by
    refine ⟨rfl, ?_⟩
    rintro port ⟨⟩
    rfl
  have eligible : fromPlain.Eligible (vlanPort 2 0 true) := by
    refine ⟨by decide, upExternal_iff.mpr (by decide), by decide, ?_⟩
    rintro (⟨_, notNone, _⟩ | ⟨restricted, _⟩)
    · exact notNone rfl
    · cases restricted
  obtain ⟨first, isEligible, isFirst, _⟩ :=
    (choosesWell_of_exact exact_).external allows ⟨_, eligible⟩
  have least : first.number ≤ 1 := isFirst (vlanPort 1 1 true) (upExternal_iff.mpr (by decide))
  have member := floodPorts_subset isEligible.floods
  have listed : first ∈ [vlanPort 1 1 true, vlanPort 2 0 true, vlanPort 3 0 false] := member
  simp only [List.mem_cons, List.not_mem_nil, or_false] at listed
  rcases listed with rfl | rfl | rfl
  · exact isEligible.byLag (by decide)
  · exact absurd least (by decide)
  · exact absurd least (by decide)

end LocalFlood

end Faucet.Flooding
