import Mathlib

/-!
# The nomination of a stack root

From time to time the valves manager has the root of the stack nominated among the
datapaths that have a priority (`maintain_stack_root`): a healthy root is kept, else the
best of the healthy datapaths is taken, and where none is healthy a root that is alive is
kept, although another may be better (`not_best_of_unhealthy_root`).

The candidates are collected in sets, which have no order. What is nominated is determined
by the healths of the candidates and the current root (`nominates`), so no order matters.
Times and the percentages of ports are rational numbers.
-/

set_option autoImplicit false

namespace Faucet.Stack

/-! ## Health -/

/-- The stack of a datapath, with what the nomination reads of it. -/
structure StackNode (Name : Type) where
  name : Name
  dpId : ℕ
  priority : Option ℤ
  rootsNames : List Name
  downTimeMultiple : ℕ
  minStackHealth : ℚ
  minLacpHealth : ℚ
  /-- the stack ports, by whether they are up -/
  ports : List Bool
  /-- the LACP ports, by whether they are up -/
  lacpPorts : List Bool
  /-- whether it is running, and how much of its stack ports and of its LACP ports is up -/
  dynHealthyInfo : Bool × ℚ × ℚ
  dynHealthy : Bool
  hasPriority : name ∈ rootsNames → priority.isSome = true

namespace StackNode

variable {Name : Type} (node : StackNode Name)

/-- `down_ports` -/
def downPorts : List Bool := node.ports.filter fun up => !up

/-- `lacp_down_ports` -/
def lacpDownPorts : List Bool := node.lacpPorts.filter fun up => !up

/-- `live_timeout_healthy` -/
def liveTimeoutHealthy (lastLiveTime now updateTime : ℚ) : Bool :=
  let downTime := node.downTimeMultiple * updateTime
  let healthTimeout := now - downTime
  healthTimeout ≤ lastLiveTime

/-- The health of some of the node's ports: the body of `stack_port_healthy` and of
`lacp_port_healthy`. -/
def portsHealthy (allPorts downPorts : List Bool) (minHealth : ℚ) : Bool × ℚ :=
  if allPorts.length = 0 then (true, 1)
  else
    let percentage := 1 - (downPorts.length : ℚ) / allPorts.length
    (minHealth ≤ percentage, percentage)

/-- `stack_port_healthy` -/
def stackPortHealthy : Bool × ℚ := portsHealthy node.ports node.downPorts node.minStackHealth

/-- `lacp_port_healthy` -/
def lacpPortHealthy : Bool × ℚ := portsHealthy node.lacpPorts node.lacpDownPorts node.minLacpHealth

/-- `update_health` -/
def updateHealth (now : ℚ) (dpLastLiveTime : Name → Option ℚ) (updateTime : ℚ) :
    StackNode Name :=
  let lastLiveTime := (dpLastLiveTime node.name).getD 0
  if !node.liveTimeoutHealthy lastLiveTime now updateTime then
    { node with
      dynHealthyInfo := (false, 0, 0)
      dynHealthy := false }
  else
    let (stackPortsHealthy, stackPercentage) := node.stackPortHealthy
    let (lacpPortsHealthy, lacpPercentage) :=
      if node.lacpPorts ≠ [] then node.lacpPortHealthy else (true, 0)
    { node with
      dynHealthyInfo := (true, stackPercentage, lacpPercentage)
      dynHealthy := stackPortsHealthy && lacpPortsHealthy }

@[simp] theorem updateHealth_name (now : ℚ) (dpLastLiveTime : Name → Option ℚ) (updateTime : ℚ) :
    (node.updateHealth now dpLastLiveTime updateTime).name = node.name := by
  unfold updateHealth
  dsimp only
  split <;> rfl

@[simp] theorem updateHealth_dpId (now : ℚ) (dpLastLiveTime : Name → Option ℚ) (updateTime : ℚ) :
    (node.updateHealth now dpLastLiveTime updateTime).dpId = node.dpId := by
  unfold updateHealth
  dsimp only
  split <;> rfl

/-- `health_priority`; of the nodes that are compared each has a priority. -/
def healthPriority : Bool ×ₗ ℚ ×ₗ ℚ ×ₗ ℤ ×ₗ ℕ :=
  toLex (!node.dynHealthy, toLex (1 - node.dynHealthyInfo.2.1,
    toLex (1 - node.dynHealthyInfo.2.2, toLex (node.priority.getD 0, node.dpId))))

/-- `is_root_candidate` -/
def isRootCandidate [DecidableEq Name] : Bool := node.name ∈ node.rootsNames

end StackNode

/-! ## Nomination -/

/-- A valve with its node in the stack, if it has one. -/
structure Valve (Name : Type) where
  dpName : Name
  stack : Option (StackNode Name)
  named : ∀ node, stack = some node → node.name = dpName

variable {Name : Type}

/-- The names of the nodes in priority order and the first of them. -/
def StackNode.nominateStackRoot (nodes : List (StackNode Name)) : List Name × Option Name :=
  let stackPriorities := nodes.insertionSort fun first second =>
    first.healthPriority ≤ second.healthPriority
  let priorityNames := stackPriorities.map (·.name)
  (priorityNames, priorityNames.head?)

variable [DecidableEq Name]

/-- `nominate_stack_root` of the stack manager, with the set of the stacked valves in the
order in which it is gone through. -/
def nominateStackRoot (rootValve : Option (Valve Name)) (stackValves : List (Valve Name)) (now : ℚ)
    (lastLiveTimes : Name → Option ℚ) (updateTime : ℚ) : Option Name :=
  let candidates := ((stackValves.filterMap (·.stack)).filter (·.isRootCandidate)).map
    (·.updateHealth now lastLiveTimes updateTime)
  let healthyValves := candidates.filter (·.dynHealthy)
  let unhealthyValves := candidates.filter fun node => !node.dynHealthy && node.dynHealthyInfo.1
  let rootIn (nodes : List (StackNode Name)) : Bool :=
    rootValve.any fun root => nodes.any (·.name = root.dpName)
  if healthyValves.isEmpty && unhealthyValves.isEmpty then none
  else if !healthyValves.isEmpty then
    if rootIn healthyValves then rootValve.map (·.dpName) else (StackNode.nominateStackRoot healthyValves).2
  else if rootIn unhealthyValves then rootValve.map (·.dpName)
  else (StackNode.nominateStackRoot unhealthyValves).2

/-- The valves of the manager; the names and the ids of datapaths are unique. -/
structure Valves (Name : Type) where
  valves : List (Valve Name)
  names : (valves.map (·.dpName)).Nodup
  dpIds : ((valves.filterMap (·.stack)).map (·.dpId)).Nodup

namespace Valves

variable (manager : Valves Name) (stackRootName : Option Name)

/-- `valves_by_name` -/
def valvesByName : List (Valve Name) := manager.valves.filter (·.stack.isSome)

/-- The valve of the present root. -/
def prevRootValve : Option (Valve Name) :=
  manager.valvesByName.find? fun valve => some valve.dpName = stackRootName

/-- The set that the stack manager makes of the root and the other valves. -/
def stackValves : List (Valve Name) :=
  let prevRootValve := manager.prevRootValve stackRootName
  let prevOtherValves := manager.valves.filter fun valve =>
    some valve.dpName ≠ prevRootValve.map (·.dpName)
  prevRootValve.toList ++ prevOtherValves.filter (·.stack.isSome)

/-- The root that `maintain_stack_root` has nominated, the set being gone through in the
given order. -/
def maintainStackRoot (order : List (Valve Name)) (now : ℚ) (lastLiveTimes : Name → Option ℚ)
    (updateTime : ℚ) : Option Name :=
  if manager.valvesByName.isEmpty then none
  else nominateStackRoot (manager.prevRootValve stackRootName) order now lastLiveTimes updateTime

/-- The nodes that may be the root, with their healths. -/
def candidates (now : ℚ) (lastLiveTimes : Name → Option ℚ) (updateTime : ℚ) :
    List (StackNode Name) :=
  ((manager.valves.filterMap (·.stack)).filter (·.isRootCandidate)).map
    (·.updateHealth now lastLiveTimes updateTime)

end Valves

/-! ## What is nominated -/

/-- No node is before this one by health, priority and id. -/
def Best (nodes : List (StackNode Name)) (best : StackNode Name) : Prop :=
  best ∈ nodes ∧ ∀ other ∈ nodes, best.healthPriority ≤ other.healthPriority

/-- The root that follows from the candidates and the current root. -/
structure Nominates (candidates : List (StackNode Name)) (current nominated : Option Name) :
    Prop where
  keepsHealthy : ∀ node ∈ candidates, node.dynHealthy = true → current = some node.name →
    nominated = current
  neverUnhealthy : (∃ node ∈ candidates, node.dynHealthy = true) →
    ∃ node ∈ candidates, node.dynHealthy = true ∧ nominated = some node.name
  bestHealthy : (∃ node ∈ candidates, node.dynHealthy = true) →
    (∀ node ∈ candidates, node.dynHealthy = true → current ≠ some node.name) →
    ∃ node, Best (candidates.filter (·.dynHealthy)) node ∧ nominated = some node.name
  keepsAlive : (∀ node ∈ candidates, node.dynHealthy = false) →
    ∀ node ∈ candidates, node.dynHealthyInfo.1 = true → current = some node.name →
    nominated = current
  bestAlive : (∀ node ∈ candidates, node.dynHealthy = false) →
    (∃ node ∈ candidates, node.dynHealthyInfo.1 = true) →
    (∀ node ∈ candidates, node.dynHealthyInfo.1 = true → current ≠ some node.name) →
    ∃ node, Best (candidates.filter (·.dynHealthyInfo.1)) node ∧ nominated = some node.name
  noneAlive : (∀ node ∈ candidates, node.dynHealthyInfo.1 = false) → nominated = none

section Nominates

variable {nodes nodes' : List (StackNode Name)} {node node' : StackNode Name}

omit [DecidableEq Name] in
/-- The first in priority order is the best. -/
theorem exists_best (nonempty : nodes ≠ []) :
    ∃ best, Best nodes best ∧ (StackNode.nominateStackRoot nodes).2 = some best.name := by
  let before (first second : StackNode Name) : Prop := first.healthPriority ≤ second.healthPriority
  have total : Std.Total before := ⟨fun first second => le_total _ _⟩
  have trans : IsTrans (StackNode Name) before := ⟨fun _ _ _ => le_trans⟩
  have sorted := List.pairwise_insertionSort before nodes
  cases heads : nodes.insertionSort before with
  | nil =>
      have same := (List.perm_insertionSort before nodes).length_eq
      rw [heads] at same
      exact absurd (List.length_eq_zero_iff.mp same.symm) nonempty
  | cons best rest =>
      rw [heads] at sorted
      refine ⟨best, ⟨?_, fun other member => ?_⟩, ?_⟩
      · rw [← List.mem_insertionSort before, heads]
        exact List.mem_cons_self
      · rw [← List.mem_insertionSort before, heads] at member
        rcases List.mem_cons.mp member with rfl | later
        · exact le_refl _
        · exact (List.pairwise_cons.mp sorted).1 other later
      · change ((nodes.insertionSort before).map (·.name)).head? = _
        rw [heads]
        rfl

omit [DecidableEq Name] in
theorem Best.unique (distinct : (nodes.map (·.dpId)).Nodup) (first : Best nodes node)
    (second : Best nodes node') : node = node' := by
  have same : node.healthPriority = node'.healthPriority :=
    le_antisymm (first.2 node' second.1) (second.2 node first.1)
  have sameId : node.dpId = node'.dpId := by
    have ids := congrArg (fun key => (ofLex (ofLex (ofLex (ofLex key).2).2).2).2) same
    exact ids
  exact List.inj_on_of_nodup_map distinct first.1 second.1 sameId

omit [DecidableEq Name] in
/-- A healthy node is alive. -/
theorem alive_of_healthy {now updateTime : ℚ} {lastLiveTimes : Name → Option ℚ}
    (healthy : (node.updateHealth now lastLiveTimes updateTime).dynHealthy = true) :
    (node.updateHealth now lastLiveTimes updateTime).dynHealthyInfo.1 = true := by
  unfold StackNode.updateHealth at healthy ⊢
  dsimp only at healthy ⊢
  split at healthy
  · cases healthy
  next live => rw [if_neg live]

theorem rootIn_iff {rootValve : Option (Valve Name)} :
    (rootValve.any fun root => nodes.any (·.name = root.dpName)) = true ↔
      ∃ node ∈ nodes, rootValve.map (·.dpName) = some node.name := by
  cases rootValve with
  | none => simp
  | some root =>
      simp only [Option.any_some, List.any_eq_true, decide_eq_true_eq, Option.map_some,
        Option.some.injEq]
      exact exists_congr fun node => and_congr_right fun _ => eq_comm

/-- The root when it is one of the nodes, else the best of them. -/
def Choice (nodes : List (StackNode Name)) (current nominated : Option Name) : Prop :=
  (∃ node ∈ nodes, current = some node.name) ∧ nominated = current ∨
    (∀ node ∈ nodes, current ≠ some node.name) ∧
      ∃ best, Best nodes best ∧ nominated = some best.name

theorem choice_of_nonempty (rootValve : Option (Valve Name)) (nonempty : nodes ≠ []) :
    Choice nodes (rootValve.map (·.dpName))
      (if rootValve.any fun root => nodes.any (·.name = root.dpName) then
        rootValve.map (·.dpName)
      else (StackNode.nominateStackRoot nodes).2) := by
  by_cases rootIn : (rootValve.any fun root => nodes.any (·.name = root.dpName)) = true
  · rw [if_pos rootIn]
    exact .inl ⟨rootIn_iff.mp rootIn, rfl⟩
  · rw [if_neg rootIn]
    refine .inr ⟨fun node member same => rootIn (rootIn_iff.mpr ⟨node, member, same⟩), ?_⟩
    exact exists_best nonempty

section Cases

variable {candidates : List (StackNode Name)} {current chosen : Option Name}

omit [DecidableEq Name]

/-- The choice among the healthy, when there are some. -/
theorem Nominates.of_healthy
    (alive : ∀ node ∈ candidates, node.dynHealthy = true → node.dynHealthyInfo.1 = true)
    (someHealthy : ∃ node ∈ candidates, node.dynHealthy = true)
    (choice : Choice (candidates.filter (·.dynHealthy)) current chosen) :
    Nominates candidates current chosen := by
  have noneHealthy : ¬ ∀ node ∈ candidates, node.dynHealthy = false := by
    obtain ⟨healthy, member, isHealthy⟩ := someHealthy
    intro none
    rw [none healthy member] at isHealthy
    cases isHealthy
  have someAlive : ¬ ∀ node ∈ candidates, node.dynHealthyInfo.1 = false := by
    obtain ⟨healthy, member, isHealthy⟩ := someHealthy
    intro none
    have isAlive := alive healthy member isHealthy
    rw [none healthy member] at isAlive
    cases isAlive
  rcases choice with ⟨⟨root, isRoot, current⟩, rfl⟩ | ⟨other, best, isBest, rfl⟩
  · obtain ⟨member, isHealthy⟩ := List.mem_filter.mp isRoot
    constructor
    case keepsHealthy => exact fun _ _ _ _ => rfl
    case neverUnhealthy => exact fun _ => ⟨root, member, isHealthy, current⟩
    case bestHealthy => exact fun _ different => absurd current (different root member isHealthy)
    case keepsAlive => exact fun none => absurd none noneHealthy
    case bestAlive => exact fun none => absurd none noneHealthy
    case noneAlive => exact fun none => absurd none someAlive
  · obtain ⟨member, isHealthy⟩ := List.mem_filter.mp isBest.1
    constructor
    case keepsHealthy =>
      exact fun node member isHealthy current =>
        absurd current (other node (List.mem_filter.mpr ⟨member, isHealthy⟩))
    case neverUnhealthy => exact fun _ => ⟨best, member, isHealthy, rfl⟩
    case bestHealthy => exact fun _ _ => ⟨best, isBest, rfl⟩
    case keepsAlive => exact fun none => absurd none noneHealthy
    case bestAlive => exact fun none => absurd none noneHealthy
    case noneAlive => exact fun none => absurd none someAlive

/-- The choice among those alive, when none is healthy. -/
theorem Nominates.of_alive (noneHealthy : ∀ node ∈ candidates, node.dynHealthy = false)
    (someAlive : ∃ node ∈ candidates, node.dynHealthyInfo.1 = true)
    (choice : Choice (candidates.filter (·.dynHealthyInfo.1)) current chosen) :
    Nominates candidates current chosen := by
  have unhealthy : ∀ node ∈ candidates, node.dynHealthy ≠ true :=
    fun node member => Bool.eq_false_iff.mp (noneHealthy node member)
  have noneAlive : ¬ ∀ node ∈ candidates, node.dynHealthyInfo.1 = false := by
    obtain ⟨live, member, isAlive⟩ := someAlive
    intro none
    rw [none live member] at isAlive
    cases isAlive
  rcases choice with ⟨⟨root, isRoot, current⟩, rfl⟩ | ⟨other, best, isBest, rfl⟩
  · obtain ⟨member, isAlive⟩ := List.mem_filter.mp isRoot
    constructor
    case keepsHealthy => exact fun _ _ _ _ => rfl
    case neverUnhealthy =>
      rintro ⟨node, member, isHealthy⟩
      exact absurd isHealthy (unhealthy node member)
    case bestHealthy =>
      rintro ⟨node, member, isHealthy⟩
      exact absurd isHealthy (unhealthy node member)
    case keepsAlive => exact fun _ _ _ _ _ => rfl
    case bestAlive => exact fun _ _ different => absurd current (different root member isAlive)
    case noneAlive => exact fun none => absurd none noneAlive
  · constructor
    case keepsHealthy => exact fun node member isHealthy => absurd isHealthy (unhealthy node member)
    case neverUnhealthy =>
      rintro ⟨node, member, isHealthy⟩
      exact absurd isHealthy (unhealthy node member)
    case bestHealthy =>
      rintro ⟨node, member, isHealthy⟩
      exact absurd isHealthy (unhealthy node member)
    case keepsAlive =>
      exact fun _ node member isAlive current =>
        absurd current (other node (List.mem_filter.mpr ⟨member, isAlive⟩))
    case bestAlive => exact fun _ _ _ => ⟨best, isBest, rfl⟩
    case noneAlive => exact fun none => absurd none noneAlive

/-- Nothing, when none is alive. -/
theorem Nominates.of_none
    (alive : ∀ node ∈ candidates, node.dynHealthy = true → node.dynHealthyInfo.1 = true)
    (noneAlive : ∀ node ∈ candidates, node.dynHealthyInfo.1 = false) :
    Nominates candidates current none := by
  have dead : ∀ node ∈ candidates, node.dynHealthyInfo.1 ≠ true :=
    fun node member => Bool.eq_false_iff.mp (noneAlive node member)
  constructor
  case keepsHealthy =>
    exact fun node member isHealthy => absurd (alive node member isHealthy) (dead node member)
  case neverUnhealthy =>
    rintro ⟨node, member, isHealthy⟩
    exact absurd (alive node member isHealthy) (dead node member)
  case bestHealthy =>
    rintro ⟨node, member, isHealthy⟩
    exact absurd (alive node member isHealthy) (dead node member)
  case keepsAlive => exact fun _ node member isAlive => absurd isAlive (dead node member)
  case bestAlive =>
    rintro _ ⟨node, member, isAlive⟩
    exact absurd isAlive (dead node member)
  case noneAlive => exact fun _ => rfl

end Cases

section Same

variable {candidates candidates' : List (StackNode Name)} {current current' chosen chosen' : Option Name}

omit [DecidableEq Name]

theorem Best.congr (same : ∀ node, node ∈ nodes ↔ node ∈ nodes') (isBest : Best nodes node) :
    Best nodes' node :=
  ⟨(same node).mp isBest.1, fun other member => isBest.2 other ((same other).mpr member)⟩

/-- Only which nodes are candidates counts, and which of them is the root. -/
theorem Nominates.congr (nominates : Nominates candidates current chosen)
    (same : ∀ node, node ∈ candidates ↔ node ∈ candidates')
    (root : ∀ node ∈ candidates, current = some node.name ↔ current' = some node.name) :
    Nominates candidates' current' chosen := by
  have kept : ∀ keep : StackNode Name → Bool, ∀ node,
      node ∈ candidates.filter keep ↔ node ∈ candidates'.filter keep := by
    intro keep node
    rw [List.mem_filter, List.mem_filter, same]
  constructor
  case keepsHealthy =>
    intro node member isHealthy isRoot
    have member := (same node).mpr member
    have isRoot' := (root node member).mpr isRoot
    rw [nominates.keepsHealthy node member isHealthy isRoot', isRoot', isRoot]
  case neverUnhealthy =>
    rintro ⟨node, member, isHealthy⟩
    obtain ⟨best, member, result⟩ := nominates.neverUnhealthy ⟨node, (same node).mpr member, isHealthy⟩
    exact ⟨best, (same best).mp member, result⟩
  case bestHealthy =>
    rintro ⟨node, member, isHealthy⟩ different
    obtain ⟨best, isBest, result⟩ := nominates.bestHealthy ⟨node, (same node).mpr member, isHealthy⟩
      fun node member isHealthy isRoot =>
        different node ((same node).mp member) isHealthy ((root node member).mp isRoot)
    exact ⟨best, isBest.congr (kept _), result⟩
  case keepsAlive =>
    intro noneHealthy node member isAlive isRoot
    have member := (same node).mpr member
    have isRoot' := (root node member).mpr isRoot
    rw [nominates.keepsAlive (fun node member => noneHealthy node ((same node).mp member)) node member
      isAlive isRoot', isRoot', isRoot]
  case bestAlive =>
    rintro noneHealthy ⟨node, member, isAlive⟩ different
    obtain ⟨best, isBest, result⟩ := nominates.bestAlive
      (fun node member => noneHealthy node ((same node).mp member))
      ⟨node, (same node).mpr member, isAlive⟩ fun node member isAlive isRoot =>
        different node ((same node).mp member) isAlive ((root node member).mp isRoot)
    exact ⟨best, isBest.congr (kept _), result⟩
  case noneAlive =>
    exact fun none => nominates.noneAlive fun node member => none node ((same node).mp member)

theorem Best.unique_filter (distinct : (candidates.map (·.dpId)).Nodup) {keep : StackNode Name → Bool}
    (first : Best (candidates.filter keep) node) (second : Best (candidates.filter keep) node') :
    node = node' :=
  first.unique (distinct.sublist (List.filter_sublist.map _)) second

/-- **The root is determined** by the candidates and the current root. -/
theorem Nominates.unique (distinct : (candidates.map (·.dpId)).Nodup)
    (first : Nominates candidates current chosen) (second : Nominates candidates current chosen') :
    chosen = chosen' := by
  by_cases someHealthy : ∃ node ∈ candidates, node.dynHealthy = true
  · by_cases isRoot : ∃ node ∈ candidates, node.dynHealthy = true ∧ current = some node.name
    · obtain ⟨node, member, isHealthy, isRoot⟩ := isRoot
      rw [first.keepsHealthy node member isHealthy isRoot,
        second.keepsHealthy node member isHealthy isRoot]
    · have different : ∀ node ∈ candidates, node.dynHealthy = true → current ≠ some node.name :=
        fun node member isHealthy same => isRoot ⟨node, member, isHealthy, same⟩
      obtain ⟨best, isBest, rfl⟩ := first.bestHealthy someHealthy different
      obtain ⟨best', isBest', rfl⟩ := second.bestHealthy someHealthy different
      rw [isBest.unique_filter distinct isBest']
  · have noneHealthy : ∀ node ∈ candidates, node.dynHealthy = false :=
      fun node member => Bool.eq_false_iff.mpr fun isHealthy => someHealthy ⟨node, member, isHealthy⟩
    by_cases someAlive : ∃ node ∈ candidates, node.dynHealthyInfo.1 = true
    · by_cases isRoot : ∃ node ∈ candidates, node.dynHealthyInfo.1 = true ∧ current = some node.name
      · obtain ⟨node, member, isAlive, isRoot⟩ := isRoot
        rw [first.keepsAlive noneHealthy node member isAlive isRoot,
          second.keepsAlive noneHealthy node member isAlive isRoot]
      · have different : ∀ node ∈ candidates, node.dynHealthyInfo.1 = true →
            current ≠ some node.name :=
          fun node member isAlive same => isRoot ⟨node, member, isAlive, same⟩
        obtain ⟨best, isBest, rfl⟩ := first.bestAlive noneHealthy someAlive different
        obtain ⟨best', isBest', rfl⟩ := second.bestAlive noneHealthy someAlive different
        rw [isBest.unique_filter distinct isBest']
    · have noneAlive : ∀ node ∈ candidates, node.dynHealthyInfo.1 = false :=
        fun node member => Bool.eq_false_iff.mpr fun isAlive => someAlive ⟨node, member, isAlive⟩
      rw [first.noneAlive noneAlive, second.noneAlive noneAlive]

end Same

/-- The stack manager nominates by the candidates and the current root. -/
theorem nominates_nominateStackRoot (rootValve : Option (Valve Name))
    (stackValves : List (Valve Name)) (now : ℚ) (lastLiveTimes : Name → Option ℚ) (updateTime : ℚ) :
    Nominates (((stackValves.filterMap (·.stack)).filter (·.isRootCandidate)).map
        (·.updateHealth now lastLiveTimes updateTime)) (rootValve.map (·.dpName))
      (nominateStackRoot rootValve stackValves now lastLiveTimes updateTime) := by
  unfold nominateStackRoot
  dsimp only
  generalize candidates_eq : ((stackValves.filterMap (·.stack)).filter (·.isRootCandidate)).map
    (·.updateHealth now lastLiveTimes updateTime) = candidates
  have alive : ∀ node ∈ candidates, node.dynHealthy = true → node.dynHealthyInfo.1 = true := by
    intro node member
    rw [← candidates_eq] at member
    obtain ⟨_, _, rfl⟩ := List.mem_map.mp member
    exact alive_of_healthy
  have isEmpty_filter : ∀ keep : StackNode Name → Bool, (∃ node ∈ candidates, keep node = true) →
      candidates.filter keep ≠ [] ∧ (candidates.filter keep).isEmpty = false := by
    rintro keep ⟨node, member, kept⟩
    have nonempty := List.ne_nil_of_mem (List.mem_filter.mpr ⟨member, kept⟩)
    exact ⟨nonempty, by simpa [List.isEmpty_iff] using nonempty⟩
  by_cases someHealthy : ∃ node ∈ candidates, node.dynHealthy = true
  · obtain ⟨nonempty, notEmpty⟩ := isEmpty_filter (·.dynHealthy) someHealthy
    rw [notEmpty, Bool.false_and, if_neg Bool.false_ne_true, Bool.not_false, if_pos (Eq.refl true)]
    exact .of_healthy alive someHealthy (choice_of_nonempty rootValve nonempty)
  · have noneHealthy : ∀ node ∈ candidates, node.dynHealthy = false :=
      fun node member => Bool.eq_false_iff.mpr fun isHealthy => someHealthy ⟨node, member, isHealthy⟩
    have empty : candidates.filter (·.dynHealthy) = [] :=
      List.filter_eq_nil_iff.mpr fun node member =>
        Bool.eq_false_iff.mp (noneHealthy node member)
    have unhealthy : (candidates.filter fun node => !node.dynHealthy && node.dynHealthyInfo.1) =
        candidates.filter (·.dynHealthyInfo.1) :=
      List.filter_congr fun node member => by rw [noneHealthy node member]; rfl
    rw [empty, unhealthy, List.isEmpty_nil, Bool.true_and, Bool.not_true]
    by_cases someAlive : ∃ node ∈ candidates, node.dynHealthyInfo.1 = true
    · obtain ⟨nonempty, notEmpty⟩ := isEmpty_filter (·.dynHealthyInfo.1) someAlive
      rw [notEmpty, if_neg Bool.false_ne_true, if_neg Bool.false_ne_true]
      exact .of_alive noneHealthy someAlive (choice_of_nonempty rootValve nonempty)
    · have noneAlive : ∀ node ∈ candidates, node.dynHealthyInfo.1 = false :=
        fun node member => Bool.eq_false_iff.mpr fun isAlive => someAlive ⟨node, member, isAlive⟩
      have empty : candidates.filter (·.dynHealthyInfo.1) = [] :=
        List.filter_eq_nil_iff.mpr fun node member => Bool.eq_false_iff.mp (noneAlive node member)
      rw [empty, List.isEmpty_nil, if_pos (Eq.refl true)]
      exact .of_none alive noneAlive

end Nominates

/-! ## The valves manager -/

namespace Valves

variable {manager manager' : Valves Name} {stackRootName : Option Name} {valve : Valve Name}
  {order order' : List (Valve Name)} {now updateTime : ℚ} {lastLiveTimes : Name → Option ℚ}

omit [DecidableEq Name] in
theorem eq_of_dpName (member : valve ∈ manager.valves) {other : Valve Name}
    (member' : other ∈ manager.valves) (same : valve.dpName = other.dpName) : valve = other :=
  List.inj_on_of_nodup_map manager.names member member' same

/-- The current root, when it is one of the stacked valves. -/
theorem prevRootValve_eq_some {root : Valve Name} :
    manager.prevRootValve stackRootName = some root ↔
      root ∈ manager.valvesByName ∧ stackRootName = some root.dpName := by
  constructor
  · intro found
    have named := List.find?_some found
    exact ⟨List.mem_of_find?_eq_some found, (of_decide_eq_true named).symm⟩
  · rintro ⟨member, named⟩
    have found : (manager.prevRootValve stackRootName).isSome = true :=
      List.find?_isSome.mpr ⟨root, member, decide_eq_true named.symm⟩
    obtain ⟨other, isOther⟩ := Option.isSome_iff_exists.mp found
    have accepted := List.find?_some (show manager.valvesByName.find? _ = some other from isOther)
    have named' := of_decide_eq_true accepted
    have member' := List.mem_of_find?_eq_some isOther
    have same : other = root := eq_of_dpName (List.mem_filter.mp member').1 (List.mem_filter.mp member).1
      (Option.some.inj (named'.trans named))
    rw [isOther, same]

theorem mem_stackValves : valve ∈ manager.stackValves stackRootName ↔
    valve ∈ manager.valves ∧ valve.stack.isSome = true := by
  unfold stackValves
  dsimp only
  rw [List.mem_append, Option.mem_toList, List.mem_filter, List.mem_filter, decide_eq_true_eq]
  constructor
  · rintro (isRoot | ⟨⟨member, _⟩, stacked⟩)
    · exact List.mem_filter.mp (prevRootValve_eq_some.mp isRoot).1
    · exact ⟨member, stacked⟩
  · rintro ⟨member, stacked⟩
    by_cases isRoot : some valve.dpName = (manager.prevRootValve stackRootName).map (·.dpName)
    · obtain ⟨root, found, named⟩ := Option.map_eq_some_iff.mp isRoot.symm
      have member' := List.mem_filter.mp (prevRootValve_eq_some.mp found).1
      rw [eq_of_dpName member member'.1 named.symm]
      exact .inl found
    · exact .inr ⟨⟨member, isRoot⟩, stacked⟩

theorem mem_candidates {node : StackNode Name} :
    node ∈ manager.candidates now lastLiveTimes updateTime ↔
      ∃ valve ∈ manager.valves, ∃ own, valve.stack = some own ∧ own.isRootCandidate = true ∧
        own.updateHealth now lastLiveTimes updateTime = node := by
  simp only [candidates, List.mem_map, List.mem_filter, List.mem_filterMap]
  constructor
  · rintro ⟨own, ⟨⟨valve, member, stack⟩, candidate⟩, same⟩
    exact ⟨valve, member, own, stack, candidate, same⟩
  · rintro ⟨valve, member, own, stack, candidate, same⟩
    exact ⟨own, ⟨⟨valve, member, stack⟩, candidate⟩, same⟩

/-- The root that is nominated goes by the candidates among all valves. -/
theorem nominates_maintainStackRoot (isOrder : order.Perm (manager.stackValves stackRootName)) :
    Nominates (manager.candidates now lastLiveTimes updateTime) stackRootName
      (manager.maintainStackRoot stackRootName order now lastLiveTimes updateTime) := by
  have stackedOrder : ∀ valve, valve ∈ order ↔ valve ∈ manager.valves ∧ valve.stack.isSome = true :=
    fun valve => isOrder.mem_iff.trans mem_stackValves
  rw [maintainStackRoot]
  split
  next empty =>
    have none : ∀ node, node ∉ manager.candidates now lastLiveTimes updateTime := by
      intro node member
      obtain ⟨valve, member, own, stack, _⟩ := mem_candidates.mp member
      have stacked : valve ∈ manager.valvesByName := List.mem_filter.mpr ⟨member, by rw [stack]; rfl⟩
      rw [List.isEmpty_iff.mp empty] at stacked
      cases stacked
    exact .of_none (fun node member => absurd member (none node))
      fun node member => absurd member (none node)
  next =>
    refine (nominates_nominateStackRoot (manager.prevRootValve stackRootName) order now
      lastLiveTimes updateTime).congr (fun node => ?_) fun node member => ?_
    · rw [mem_candidates]
      simp only [List.mem_map, List.mem_filter, List.mem_filterMap]
      constructor
      · rintro ⟨own, ⟨⟨valve, member, stack⟩, candidate⟩, same⟩
        exact ⟨valve, ((stackedOrder valve).mp member).1, own, stack, candidate, same⟩
      · rintro ⟨valve, member, own, stack, candidate, same⟩
        have listed := (stackedOrder valve).mpr ⟨member, by rw [stack]; rfl⟩
        exact ⟨own, ⟨⟨valve, listed, stack⟩, candidate⟩, same⟩
    · simp only [List.mem_map, List.mem_filter, List.mem_filterMap] at member
      obtain ⟨own, ⟨⟨valve, member, stack⟩, _⟩, rfl⟩ := member
      rw [StackNode.updateHealth_name, valve.named own stack]
      have stacked : valve ∈ manager.valvesByName :=
        List.mem_filter.mpr ((stackedOrder valve).mp member)
      constructor
      · intro isRoot
        obtain ⟨root, found, named⟩ := Option.map_eq_some_iff.mp isRoot
        rw [(prevRootValve_eq_some.mp found).2, named]
      · intro named
        rw [prevRootValve_eq_some.mpr ⟨stacked, named⟩]
        rfl

theorem nodup_candidates :
    ((manager.candidates now lastLiveTimes updateTime).map (·.dpId)).Nodup := by
  have ids : (manager.candidates now lastLiveTimes updateTime).map (·.dpId) =
      ((manager.valves.filterMap (·.stack)).filter (·.isRootCandidate)).map (·.dpId) := by
    rw [candidates, List.map_map]
    exact List.map_congr_left fun node _ => node.updateHealth_dpId now lastLiveTimes updateTime
  rw [ids]
  exact manager.dpIds.sublist (List.filter_sublist.map _)

/-- **The nominated root** is the one that the candidates and the current root determine,
and is the same for all orders of the valves. -/
theorem nominates (isOrder : order.Perm (manager.stackValves stackRootName)) :
    Nominates (manager.candidates now lastLiveTimes updateTime) stackRootName
        (manager.maintainStackRoot stackRootName order now lastLiveTimes updateTime) ∧
      ∀ (manager' : Valves Name) order', manager'.valves.Perm manager.valves →
        order'.Perm (manager'.stackValves stackRootName) →
        manager'.maintainStackRoot stackRootName order' now lastLiveTimes updateTime =
          manager.maintainStackRoot stackRootName order now lastLiveTimes updateTime := by
  refine ⟨nominates_maintainStackRoot isOrder, fun manager' order' sameValves isOrder' => ?_⟩
  refine (nominates_maintainStackRoot isOrder').unique nodup_candidates ?_
  refine (nominates_maintainStackRoot isOrder).congr (fun node => ?_) fun _ _ => Iff.rfl
  rw [mem_candidates, mem_candidates]
  exact exists_congr fun valve => and_congr_left fun _ => sameValves.mem_iff.symm

end Valves

/-! ## Two candidates -/

/-- The stack of a datapath that is its own candidate, with some ports up. -/
def labNode (name : String) (dpId : ℕ) (ports : List Bool) : StackNode String where
  name := name
  dpId := dpId
  priority := some dpId
  rootsNames := ["sw1", "sw2"]
  downTimeMultiple := 3
  minStackHealth := 1
  minLacpHealth := 1
  ports := ports
  lacpPorts := []
  dynHealthyInfo := (false, 0, 0)
  dynHealthy := false
  hasPriority _ := rfl

/-- A valve with these stack ports. -/
def labValve (name : String) (dpId : ℕ) (ports : List Bool) : Valve String where
  dpName := name
  stack := some (labNode name dpId ports)
  named := by
    rintro node ⟨⟩
    rfl

/-- Two datapaths with the given stack ports. -/
def lab (ports ports' : List Bool) : Valves String where
  valves := [labValve "sw1" 1 ports, labValve "sw2" 2 ports']
  names := by
    change ["sw1", "sw2"].Nodup
    decide
  dpIds := by
    change [1, 2].Nodup
    decide

theorem nominates_lab :
    (lab [true, false] [true, true]).maintainStackRoot (some "sw1")
        ((lab [true, false] [true, true]).stackValves (some "sw1")) 0 (fun _ => none) 10 =
      some "sw2" ∧
    Nominates ((lab [true, false] [true, true]).candidates 0 (fun _ => none) 10) (some "sw1")
      (some "sw2") := by
  have elected : (lab [true, false] [true, true]).maintainStackRoot (some "sw1")
      ((lab [true, false] [true, true]).stackValves (some "sw1")) 0 (fun _ => none) 10 =
    some "sw2" := by decide +kernel
  exact ⟨elected, elected ▸ (Valves.nominates (List.Perm.refl _)).1⟩

/-- A root that is alive and not healthy is kept where no candidate is healthy, although
another has more ports up. -/
theorem not_best_of_unhealthy_root :
    ¬ ∀ (manager : Valves String) (stackRootName : Option String) (now updateTime : ℚ)
        (lastLiveTimes : String → Option ℚ) (order : List (Valve String)),
      order.Perm (manager.stackValves stackRootName) →
      (∀ node ∈ manager.candidates now lastLiveTimes updateTime, node.dynHealthy = true →
        stackRootName ≠ some node.name) →
      (∃ node ∈ manager.candidates now lastLiveTimes updateTime, node.dynHealthyInfo.1 = true) →
      ∃ node, Best ((manager.candidates now lastLiveTimes updateTime).filter (·.dynHealthyInfo.1))
          node ∧
        manager.maintainStackRoot stackRootName order now lastLiveTimes updateTime =
          some node.name := by
  intro best
  have unhealthy : ∀ node ∈ (lab [false, false] [true, false]).candidates 0 (fun _ => none) 10,
      node.dynHealthy = false := by
    decide +kernel
  have kept : (lab [false, false] [true, false]).maintainStackRoot (some "sw1")
      ((lab [false, false] [true, false]).stackValves (some "sw1")) 0 (fun _ => none) 10 =
    some "sw1" := by decide +kernel
  have better : ∀ node ∈ ((lab [false, false] [true, false]).candidates 0 (fun _ => none) 10).filter
      (·.dynHealthyInfo.1), node.name = "sw1" →
        ∃ other ∈ ((lab [false, false] [true, false]).candidates 0 (fun _ => none) 10).filter
          (·.dynHealthyInfo.1), ¬ node.healthPriority ≤ other.healthPriority := by
    decide +kernel
  have alive : ∃ node ∈ (lab [false, false] [true, false]).candidates 0 (fun _ => none) 10,
      node.dynHealthyInfo.1 = true := by
    decide +kernel
  obtain ⟨node, isBest, isRoot⟩ := best (lab [false, false] [true, false]) (some "sw1") 0 10
    (fun _ => none) _ (List.Perm.refl _) (fun node member isHealthy => by
      rw [unhealthy node member] at isHealthy
      cases isHealthy) alive
  obtain ⟨other, member, notBefore⟩ :=
    better node isBest.1 (Option.some.inj (isRoot.symm.trans kept))
  exact notBefore (isBest.2 other member)

end Faucet.Stack
