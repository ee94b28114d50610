import Faucet.Flooding.Lookup

/-!
# What a call changes and sends

A call changes the dynamic state of its ports alone. A VLAN that none of them is in
keeps its ports as they are (`resetPorts_handlePorts`), and what is sent is about
VLANs that one of them is in (`Follows`).

The messages about a flow are adds or modifies of the rule that is wanted, and deletes
of the rules of ports (`setter_of_batch`, `delete_of_batch`).
-/

set_option autoImplicit false

namespace Faucet.Flooding

open OpenFlow

/-! ## The configuration of the ports -/

/-- The port without its dynamic state. -/
def Port.config (port : Port) : Port :=
  { port with
    dynPhysUp := false
    dynLacpUp := none
    dynLacpActorState := .notConfigured
    dynLacpPortSelected := .notConfigured }

namespace Port

variable (port : Port)

@[simp] theorem setPhysUp_config (up : Bool) : (port.setPhysUp up).config = port.config := rfl

@[simp] theorem lacpUpdated_config (lacpUp lacpPkt : Bool) :
    (port.lacpUpdated lacpUp lacpPkt).config = port.config := rfl

@[simp] theorem setPhysUp_number (up : Bool) : (port.setPhysUp up).number = port.number := rfl

@[simp] theorem lacpUpdated_number (lacpUp lacpPkt : Bool) :
    (port.lacpUpdated lacpUp lacpPkt).number = port.number := rfl

@[simp] theorem setPhysUp_vlans (up : Bool) : (port.setPhysUp up).vlans = port.vlans := rfl

@[simp] theorem lacpUpdated_vlans (lacpUp lacpPkt : Bool) :
    (port.lacpUpdated lacpUp lacpPkt).vlans = port.vlans := rfl

@[simp] theorem setPhysUp_dynPhysUp (up : Bool) : (port.setPhysUp up).dynPhysUp = up := rfl

@[simp] theorem lacpUpdated_dynPhysUp (lacpUp lacpPkt : Bool) :
    (port.lacpUpdated lacpUp lacpPkt).dynPhysUp = port.dynPhysUp := rfl

theorem setPhysUp_of_up {port : Port} {up : Bool} (same : port.dynPhysUp = up) :
    port.setPhysUp up = port := by
  subst same
  rfl

theorem number_of_config {port other : Port} (same : port.config = other.config) :
    port.number = other.number := by
  change port.config.number = other.config.number
  rw [same]

theorem vlans_of_config {port other : Port} (same : port.config = other.config) :
    port.vlans = other.vlans := by
  change port.config.vlans = other.config.vlans
  rw [same]

end Port

theorem numbers_of_config {ports start : List Port}
    (config : ports.map Port.config = start.map Port.config) :
    ports.map (·.number) = start.map (·.number) := by
  have numbers := congrArg (List.map fun port : Port => port.number) config
  rw [List.map_map, List.map_map] at numbers
  exact numbers

/-- A port has its counterpart in another state of the ports. -/
theorem exists_config {ports start : List Port}
    (config : ports.map Port.config = start.map Port.config) {port : Port} (member : port ∈ ports) :
    ∃ other ∈ start, other.config = port.config :=
  List.mem_map.mp (config ▸ List.mem_map.mpr ⟨port, member, rfl⟩)

theorem setPort_config {ports : List Port} {port : Port}
    (same : ∀ other ∈ ports, other.number = port.number → other.config = port.config) :
    (setPort ports port).map Port.config = ports.map Port.config := by
  rw [setPort, List.map_map]
  refine List.map_congr_left fun other member => ?_
  rw [Function.comp_apply]
  split
  next number => exact (same other member number).symm
  next => rfl

/-! ## Ports in a VLAN -/

/-- The port allows flooding of the VLAN. -/
def Port.inFlood (port : Port) (vid : Vid) (excludeUnicast : Bool) : Prop :=
  (vid ∈ port.taggedVlans ∨ (port.nativeVlan = some vid ∧ port.dynDot1xNativeVlan = none) ∨
    port.dynDot1xNativeVlan = some vid) ∧ (excludeUnicast = true → port.unicastFlood = true)

theorem Port.inFlood_of_config {port other : Port} {vid : Vid} {excludeUnicast : Bool}
    (same : port.config = other.config) :
    port.inFlood vid excludeUnicast ↔ other.inFlood vid excludeUnicast := by
  change port.config.inFlood vid excludeUnicast ↔ other.config.inFlood vid excludeUnicast
  rw [same]

theorem mem_allPorts {conf : VlanConf} {ports : List Port} {excludeUnicast : Bool} {port : Port} :
    port ∈ (conf.resetPorts ports).allPorts excludeUnicast ↔
      port ∈ ports ∧ port.inFlood conf.vid excludeUnicast := by
  have listed : port ∈ (conf.resetPorts ports).getPorts ↔ port ∈ ports ∧
      (conf.vid ∈ port.taggedVlans ∨
        (port.nativeVlan = some conf.vid ∧ port.dynDot1xNativeVlan = none) ∨
        port.dynDot1xNativeVlan = some conf.vid) := by
    simp only [Vlan.getPorts, VlanConf.resetPorts, List.mem_append, List.mem_filter,
      decide_eq_true_eq]
    rw [← and_or_left, ← and_or_left, or_assoc]
  rw [Vlan.allPorts, Vlan.floodPorts, Port.inFlood, ← and_assoc, ← listed]
  cases excludeUnicast <;> simp

theorem vid_mem_vlans {port : Port} {vid : Vid} {excludeUnicast : Bool}
    (inFlood : port.inFlood vid excludeUnicast) : vid ∈ port.vlans := by
  rw [Port.vlans, List.mem_append, List.mem_append, Option.mem_toList, Option.mem_toList]
  rcases inFlood.1 with tagged | ⟨native, _⟩ | dot1x
  · exact .inr tagged
  · exact .inl (.inl native)
  · exact .inl (.inr dot1x)

/-- A port that is not in the VLAN may change. -/
theorem resetPorts_setPort {conf : VlanConf} {ports : List Port} {port : Port}
    (outside : ∀ other ∈ ports, other.number = port.number →
      other = port ∨ conf.vid ∉ other.vlans ∧ conf.vid ∉ port.vlans) :
    conf.resetPorts (setPort ports port) = conf.resetPorts ports := by
  have filtered : ∀ p : Port → Bool, (∀ other, p other = true → conf.vid ∈ other.vlans) →
      (setPort ports port).filter p = ports.filter p := by
    intro p inVlan
    unfold setPort
    induction ports with
    | nil => rfl
    | cons other rest ih =>
        have ih := ih fun later member => outside later (List.mem_cons_of_mem _ member)
        rw [List.map_cons, List.filter_cons, List.filter_cons, ih]
        split
        next number =>
          rcases outside other List.mem_cons_self number with same | ⟨absent, absent'⟩
          · rw [same]
          · rw [if_neg fun holds => absent' (inVlan port holds),
              if_neg fun holds => absent (inVlan other holds)]
        next => rfl
  have vlanOf : ∀ other : Port, other.inFlood conf.vid false → conf.vid ∈ other.vlans :=
    fun other => vid_mem_vlans
  unfold VlanConf.resetPorts
  rw [filtered, filtered, filtered]
  · exact fun other holds => vlanOf other ⟨.inr (.inr (by simpa using holds)), by simp⟩
  · exact fun other holds => vlanOf other ⟨.inr (.inl (by simpa using holds)), by simp⟩
  · exact fun other holds => vlanOf other ⟨.inl (by simpa using holds), by simp⟩

/-! ## The loop over the ports -/

namespace Dp

variable {dp : Dp} {batch : PortsBatch} {start ports : List Port} {number : PortNo} {vlan : Vlan}
  {conf : VlanConf} {command : PortsCommand}

theorem mem_resolve {vids : List Vid} : vlan ∈ dp.resolve ports vids ↔
    ∃ conf ∈ dp.vlans, conf.vid ∈ vids ∧ vlan = conf.resetPorts ports := by
  rw [resolve, List.mem_filterMap]
  constructor
  · rintro ⟨vid, member, resolved⟩
    obtain ⟨conf, found, rfl⟩ := Option.map_eq_some_iff.mp resolved
    have same : conf.vid = vid := by simpa using List.find?_some found
    exact ⟨conf, List.mem_of_find?_eq_some found, same ▸ member, rfl⟩
  · rintro ⟨conf, known, member, rfl⟩
    refine ⟨conf.vid, member, Option.map_eq_some_iff.mpr ⟨conf, ?_, rfl⟩⟩
    cases found : dp.vlans.find? (·.vid = conf.vid) with
    | none => simpa using List.find?_eq_none.mp found conf known
    | some other =>
        have same : other.vid = conf.vid := by simpa using List.find?_some found
        rw [List.inj_on_of_nodup_map dp.vids (List.mem_of_find?_eq_some found) known same]

theorem resetPorts_vid : (conf.resetPorts ports).vid = conf.vid := rfl

/-- The ports keep their configuration, and what was sent at once is about VLANs that
have been touched. -/
structure Follows (dp : Dp) (start : List Port) (batch : PortsBatch) : Prop where
  config : batch.ports.map Port.config = start.map Port.config
  early : ∀ vlan ∈ batch.early, ∃ conf ∈ dp.vlans, ∃ snapshot : List Port,
    snapshot.map Port.config = start.map Port.config ∧ vlan = conf.resetPorts snapshot ∧
      conf.vid ∈ batch.touched

/-- A port that is set keeps the configuration when it is the port of its number. -/
theorem Follows.setPort_config (follows : Follows dp start batch)
    (numbers : (start.map (·.number)).Nodup) {port : Port} (changed : Port)
    (member : port ∈ batch.ports) (same : changed.config = port.config) :
    (setPort batch.ports changed).map Port.config = start.map Port.config := by
  rw [Flooding.setPort_config, follows.config]
  intro other member' number
  have numbers : (batch.ports.map (·.number)).Nodup :=
    (numbers_of_config follows.config).symm ▸ numbers
  rw [eq_of_number numbers member' member (number.trans (Port.number_of_config same)), same]

/-- `lacp_update` of a port whose VLANs are to be touched. -/
theorem Follows.lacpUpdate (follows : Follows dp start batch)
    (numbers : (start.map (·.number)).Nodup) {port : Port} (member : port ∈ batch.ports)
    (touched : ∀ vid ∈ port.vlans, vid ∈ batch.touched) :
    Follows dp start (dp.lacpUpdate batch port) := by
  have config := follows.setPort_config numbers (port.lacpUpdated false false) member rfl
  refine ⟨config, fun vlan sent => ?_⟩
  rw [Dp.lacpUpdate, List.mem_append] at sent
  rcases sent with earlier | now
  · exact follows.early vlan earlier
  · split at now
    next => cases now
    next =>
      obtain ⟨conf, known, inPort, rfl⟩ := mem_resolve.mp now
      exact ⟨conf, known, _, config, rfl, touched _ inPort⟩

theorem mem_setPort_self {port changed : Port} (member : port ∈ ports)
    (same : port.number = changed.number) : changed ∈ setPort ports changed :=
  List.mem_map.mpr ⟨port, member, if_pos same⟩

/-- The port that a step of the loop finds. -/
theorem of_find? {port : Port} (found : ports.find? (·.number = number) = some port) :
    port ∈ ports ∧ port.number = number :=
  ⟨List.mem_of_find?_eq_some found, by simpa using List.find?_some found⟩

/-- The batch with the port set and its VLANs touched. -/
theorem Follows.touch (follows : Follows dp start batch) (numbers : (start.map (·.number)).Nodup)
    {port : Port} (member : port ∈ batch.ports) (up : Bool) (vids : List Vid) :
    Follows dp start { batch with
      ports := setPort batch.ports (port.setPhysUp up)
      touched := batch.touched ++ vids } := by
  refine ⟨follows.setPort_config numbers _ member rfl, fun vlan sent => ?_⟩
  obtain ⟨conf, known, snapshot, config, rfl, touched⟩ := follows.early vlan sent
  exact ⟨conf, known, snapshot, config, rfl, List.mem_append_left _ touched⟩

/-- A step of the loop: it does nothing, or it sets its port and perhaps updates the LAG
of the port, and touches its VLANs unless it adds a port that is disabled. -/
inductive Handles (dp : Dp) (command : PortsCommand) (batch : PortsBatch) (number : PortNo) :
    PortsBatch → Prop where
  | absent : Handles dp command batch number batch
  | disabled {port : Port} (member : port ∈ batch.ports) (same : port.number = number)
      (isAdd : command = .add) (isDisabled : port.enabled = false) :
      Handles dp command batch number
        { batch with ports := setPort batch.ports (port.setPhysUp true) }
  | plain {port : Port} (member : port ∈ batch.ports) (same : port.number = number) :
      Handles dp command batch number { batch with
        ports := setPort batch.ports (port.setPhysUp (command = .add))
        touched := batch.touched ++ port.vlans }
  | lacp {port : Port} (member : port ∈ batch.ports) (same : port.number = number) :
      Handles dp command batch number (dp.lacpUpdate { batch with
        ports := setPort batch.ports (port.setPhysUp (command = .add))
        touched := batch.touched ++ port.vlans } (port.setPhysUp (command = .add)))

theorem handles_handlePort (dp : Dp) (command : PortsCommand) (batch : PortsBatch)
    (number : PortNo) : Handles dp command batch number (dp.handlePort command batch number) := by
  cases command with
  | add =>
      change Handles _ _ _ _ (dp.addPort batch number)
      unfold addPort
      split
      next => exact .absent
      next port found =>
        obtain ⟨member, same⟩ := of_find? found
        dsimp only
        split
        next =>
          split
          next => exact .lacp member same
          next => exact .plain member same
        next notRunning =>
          refine .disabled member same rfl ?_
          simpa [Lacp.Port.running, Port.setPhysUp] using notRunning
  | delete =>
      change Handles _ _ _ _ (dp.deletePort batch number)
      unfold deletePort
      split
      next => exact .absent
      next port found =>
        obtain ⟨member, same⟩ := of_find? found
        dsimp only
        split
        next => exact .lacp member same
        next => exact .plain member same

theorem Follows.handlePort (follows : Follows dp start batch)
    (numbers : (start.map (·.number)).Nodup) :
    Follows dp start (dp.handlePort command batch number) := by
  have handles := handles_handlePort dp command batch number
  generalize dp.handlePort command batch number = next at handles ⊢
  cases handles with
  | absent => exact follows
  | disabled member =>
      have touched := follows.touch numbers member true []
      rwa [List.append_nil] at touched
  | plain member => exact follows.touch numbers member _ _
  | lacp member =>
      refine (follows.touch numbers member _ _).lacpUpdate numbers (mem_setPort_self member rfl) ?_
      exact fun vid inPort => List.mem_append_right _ inPort

theorem mem_setPort {port other : Port} (member : other ∈ setPort ports port) :
    other ∈ ports ∨ other = port := by
  obtain ⟨before, present, rfl⟩ := List.mem_map.mp member
  split
  next => exact .inr rfl
  next => exact .inl present

/-- A port that a step of the loop changes is up, or down, afterwards. -/
theorem mem_handlePort {port : Port} (member : port ∈ (dp.handlePort command batch number).ports) :
    port ∈ batch.ports ∨ port.dynPhysUp = (command = .add : Bool) := by
  have once : ∀ {changed : Port}, changed.dynPhysUp = (command = .add : Bool) →
      port ∈ setPort batch.ports changed →
      port ∈ batch.ports ∨ port.dynPhysUp = (command = .add : Bool) := by
    intro changed isUp member
    rcases mem_setPort member with before | rfl
    · exact .inl before
    · exact .inr isUp
  have handles := handles_handlePort dp command batch number
  generalize dp.handlePort command batch number = next at handles member
  cases handles with
  | absent => exact .inl member
  | disabled _ _ isAdd => exact once (by simp [isAdd]) member
  | plain => exact once rfl member
  | lacp =>
      rcases mem_setPort member with before | rfl
      · exact once rfl before
      · exact .inr rfl

theorem touched_handlePort {vid : Vid} (touched : vid ∈ batch.touched) :
    vid ∈ (dp.handlePort command batch number).touched := by
  have handles := handles_handlePort dp command batch number
  generalize dp.handlePort command batch number = next at handles ⊢
  cases handles with
  | absent => exact touched
  | disabled => exact touched
  | plain => exact List.mem_append_left _ touched
  | lacp => exact List.mem_append_left _ touched

/-- A VLAN that is not touched keeps its ports, when no disabled port of it comes up. -/
theorem resetPorts_handlePort (numbers : (batch.ports.map (·.number)).Nodup)
    (untouched : conf.vid ∉ (dp.handlePort command batch number).touched)
    (disabled : command = .add → ∀ port ∈ batch.ports, port.number = number →
      port.enabled = false → conf.vid ∈ port.vlans → port.dynPhysUp = true) :
    conf.resetPorts (dp.handlePort command batch number).ports = conf.resetPorts batch.ports := by
  have outside : ∀ {port changed : Port}, port ∈ batch.ports → changed.number = port.number →
      changed.vlans = port.vlans → conf.vid ∉ port.vlans →
      conf.resetPorts (setPort batch.ports changed) = conf.resetPorts batch.ports := by
    intro port changed member same sameVlans absent
    refine resetPorts_setPort fun other member' number => .inr ?_
    rw [eq_of_number numbers member' member (number.trans same), sameVlans]
    exact ⟨absent, absent⟩
  have handles := handles_handlePort dp command batch number
  generalize dp.handlePort command batch number = next at handles untouched ⊢
  cases handles with
  | absent => rfl
  | @disabled port member same isAdd isDisabled =>
      by_cases inVlan : conf.vid ∈ port.vlans
      · have isUp := disabled isAdd port member same isDisabled inVlan
        refine resetPorts_setPort fun other member' number => .inl ?_
        rw [Port.setPhysUp_of_up isUp] at number ⊢
        exact eq_of_number numbers member' member number
      · exact outside member rfl rfl inVlan
  | @plain port member _ =>
      exact outside member rfl rfl fun inVlan => untouched (List.mem_append_right _ inVlan)
  | @lacp port member _ =>
      have absent : conf.vid ∉ port.vlans :=
        fun inVlan => untouched (List.mem_append_right _ inVlan)
      refine Eq.trans (resetPorts_setPort fun other member' number => .inr ?_)
        (outside member rfl rfl absent)
      refine ⟨fun inVlan => ?_, absent⟩
      rcases mem_setPort member' with before | rfl
      · exact absent (eq_of_number numbers before member number ▸ inVlan)
      · exact absent inVlan

/-! ## The whole loop -/

theorem follows_foldl (portNums : List PortNo) (follows : Follows dp start batch)
    (numbers : (start.map (·.number)).Nodup) :
    Follows dp start (portNums.foldl (dp.handlePort command) batch) := by
  induction portNums generalizing batch with
  | nil => exact follows
  | cons number rest ih => exact ih (follows.handlePort numbers)

theorem follows_handlePorts (dp : Dp) (command : PortsCommand) (portNums : List PortNo)
    (numbers : (ports.map (·.number)).Nodup) :
    Follows dp ports (dp.handlePorts command ports portNums) :=
  follows_foldl portNums ⟨rfl, nofun⟩ numbers

/-- After a deletion the ports that are up are as they were. -/
theorem mem_of_up_of_delete {portNums : List PortNo} {port : Port}
    (member : port ∈ (dp.handlePorts .delete ports portNums).ports)
    (isUp : port.dynPhysUp = true) : port ∈ ports := by
  have kept : ∀ batch : PortsBatch, port ∈ (portNums.foldl (dp.handlePort .delete) batch).ports →
      port ∈ batch.ports := by
    clear member
    induction portNums with
    | nil => exact fun _ member => member
    | cons number rest ih =>
        intro batch member
        rcases mem_handlePort (ih _ member) with before | isDown
        · exact before
        · rw [isUp] at isDown
          cases isDown
  exact kept _ member

theorem touched_foldl {portNums : List PortNo} {vid : Vid} (touched : vid ∈ batch.touched) :
    vid ∈ (portNums.foldl (dp.handlePort command) batch).touched := by
  induction portNums generalizing batch with
  | nil => exact touched
  | cons number rest ih => exact ih (touched_handlePort touched)

theorem resetPorts_foldl {portNums : List PortNo} (follows : Follows dp start batch)
    (numbers : (start.map (·.number)).Nodup)
    (untouched : conf.vid ∉ (portNums.foldl (dp.handlePort command) batch).touched)
    (disabled : command = .add → ∀ port ∈ batch.ports, port.number ∈ portNums →
      port.enabled = false → conf.vid ∈ port.vlans → port.dynPhysUp = true) :
    conf.resetPorts (portNums.foldl (dp.handlePort command) batch).ports =
      conf.resetPorts batch.ports := by
  induction portNums generalizing batch with
  | nil => rfl
  | cons number rest ih =>
      rw [List.foldl_cons] at untouched ⊢
      rw [ih (follows.handlePort numbers) untouched]
      · refine resetPorts_handlePort ((numbers_of_config follows.config).symm ▸ numbers)
          (fun touched => untouched (touched_foldl touched)) fun isAdd port member same => ?_
        exact disabled isAdd port member (same ▸ List.mem_cons_self)
      · intro isAdd port member later isDisabled inVlan
        rcases mem_handlePort member with before | isUp
        · exact disabled isAdd port before (List.mem_cons_of_mem _ later) isDisabled inVlan
        · rw [isUp, isAdd]
          rfl

/-- **A VLAN that a call does not touch** keeps its ports, unless a disabled port of it
comes up. -/
theorem resetPorts_handlePorts {portNums : List PortNo} (numbers : (ports.map (·.number)).Nodup)
    (untouched : conf.vid ∉ (dp.handlePorts command ports portNums).touched)
    (disabled : command = .add → ∀ port ∈ ports, port.number ∈ portNums →
      port.enabled = false → conf.vid ∈ port.vlans → port.dynPhysUp = true) :
    conf.resetPorts (dp.handlePorts command ports portNums).ports = conf.resetPorts ports := by
  have follows : Follows dp ports ⟨ports, [], []⟩ := ⟨rfl, nofun⟩
  exact resetPorts_foldl follows numbers untouched disabled

end Dp

end Faucet.Flooding
