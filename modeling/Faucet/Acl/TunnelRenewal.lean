import Faucet.Acl.TunnelUpdates
import Faucet.Library.Numbered

/-!
# When an update renews a tunnel

The rule of a tunnel always sends the packet on, so that a flow that is built with it
differs from the one without. On a port the flows of the tunnel's rules stand at the
places of these rules in the whole list, and the update writes at their places in their
own ACL. All of the former are among the latter only when no place is moved
(`inPlace_of_agrees`). With that, an update renews the flows just when the configuration
is as in `Meets` (`renewed_iff`).
-/

set_option autoImplicit false

namespace Faucet.Acl

open OpenFlow FirstMatch

/-! ## One rule -/

section OneRule

variable {Dp : Type} [DecidableEq Dp] {ways : ℕ → Option (TunnelWay Dp)} {site : Site}
  {rule : RuleConf} {priority priority' : ℤ} {mod mod' : FlowMod}

theorem Site.mod_congr (noTunnels : rule.tunnels = []) (tunnelRules tunnelRules' : TunnelRules) :
    site.mod ⟨priority, rule, tunnelRules⟩ = site.mod ⟨priority, rule, tunnelRules'⟩ := by
  have same : site.entry ⟨priority, rule, tunnelRules⟩ =
      site.entry ⟨priority, rule, tunnelRules'⟩ := entry_of_noTunnels noTunnels _ _
  rw [Site.mod, Site.mod, same]

/-- A flow that is built with its tunnels differs from one without. -/
theorem Site.entry_ne (some_ : rule.tunnels ≠ [])
    (adds : site.mod ⟨priority, rule, dynTunnelRules ways⟩ = some mod)
    (adds' : site.mod ⟨priority', rule, none⟩ = some mod') : mod.entry ≠ mod'.entry := by
  obtain ⟨entry, builds, flow⟩ := site.mod_iff.mp adds
  obtain ⟨entry', builds', flow'⟩ := site.mod_iff.mp adds'
  obtain ⟨trimmed, trims, _, _, _, _, rfl⟩ := AclTable.flowmod_iff.mp flow
  obtain ⟨trimmed', trims', _, _, _, _, rfl⟩ := AclTable.flowmod_iff.mp flow'
  intro same
  have instructions : trimmed.map Inst.wire = trimmed'.map Inst.wire :=
    congrArg FlowEntry.instructions same
  have weights : weight trimmed = weight trimmed' := by
    rw [← sum_sentWeight, ← sum_sentWeight, instructions]
  rw [weight_trimInst trims, weight_trimInst trims'] at weights
  have more := weight_lt_of_tunnels some_ builds builds'
  omega

end OneRule

/-! ## Lists of rules with one place each -/

section Places

variable {α : Type} {site : Site} {values : List α} {first second : α → Slot} {flow : FlowId}

/-- The same rules with the same priorities make the same flows, whatever is in them. -/
theorem Site.final_none_iff
    (same : ∀ value ∈ values, (first value).priority = (second value).priority ∧
      (first value).rule = (second value).rule)
    (built : ∀ value ∈ values, ∃ mod, site.mod (first value) = some mod)
    (built' : ∀ value ∈ values, ∃ mod, site.mod (second value) = some mod) :
    site.final (values.map first) flow = none ↔ site.final (values.map second) flow = none := by
  have carry : ∀ {one other : α → Slot},
      (∀ value ∈ values, (one value).priority = (other value).priority ∧
        (one value).rule = (other value).rule) →
      (∀ value ∈ values, ∃ mod, site.mod (other value) = some mod) →
      site.final (values.map other) flow = none → site.final (values.map one) flow = none := by
    intro one other same built none
    by_contra isSet
    obtain ⟨entry, isFinal⟩ := Option.ne_none_iff_exists'.mp isSet
    obtain ⟨_, member, mod, adds, named, _⟩ := Site.exists_of_final isFinal
    obtain ⟨value, present, rfl⟩ := List.mem_map.mp member
    obtain ⟨mod', adds'⟩ := built value present
    have named' := Site.names_congr flow adds adds' (same value present).1 (same value present).2
    exact Site.final_ne_none (List.mem_map_of_mem present) adds' (named'.symm.trans named) none
  constructor
  · exact carry (fun value present => ⟨(same value present).1.symm, (same value present).2.symm⟩) built
  · exact carry same built'

end Places

namespace TunnelManager

variable {Dict Name : Type} {tunnels : TunnelManager Dict Name} {spot : Spot Name} {acl : Name}
  {tunnelId : ℕ} {tunnelRules : TunnelRules} {flow : FlowId} {slot : Slot}

/-! ## Slots -/

section Slots

variable {built : Name × Dict → TunnelRules} {priority : ℤ} {rule : Name × Dict}

theorem mem_slots : slot ∈ tunnels.slots spot acl built ↔
    ∃ priority rule, (priority, rule) ∈ numbered aclPriority (tunnels.listed (tunnels.aclsAt spot)) ∧
      slot = ⟨if tunnels.exactAt spot acl then aclPriority else priority, tunnels.conf rule.2,
        built rule⟩ := by
  rw [slots, List.mem_map]
  constructor
  · rintro ⟨⟨priority, rule⟩, member, rfl⟩
    exact ⟨priority, rule, member, rfl⟩
  · rintro ⟨priority, rule, member, rfl⟩
    exact ⟨(priority, rule), member, rfl⟩

/-- Where lists are not exact, each rule has a priority of its own. -/
theorem final_slots (built : Name × Dict → TunnelRules) (plain : tunnels.exactAt spot acl = false)
    (member : (priority, rule) ∈ numbered aclPriority (tunnels.listed (tunnels.aclsAt spot)))
    {mod : FlowMod}
    (adds : (tunnels.site spot).mod ⟨priority, tunnels.conf rule.2, built rule⟩ = some mod)
    (named : mod.names flow = true) :
    (tunnels.site spot).final (tunnels.slots spot acl built) flow = some mod.entry := by
  refine Site.final_of_unique (mem_slots.mpr ⟨priority, rule, member, by simp [plain]⟩) adds named ?_
  intro other listed samePriority
  obtain ⟨priority', rule', member', rfl⟩ := mem_slots.mp listed
  simp only [plain, Bool.false_eq_true, if_false] at samePriority ⊢
  subst samePriority
  rw [numbered_unique member' member]

end Slots

/-- The rules of the tunnel. -/
theorem mem_getTunnelRules {rule : Dict} : rule ∈ tunnels.getTunnelRules acl tunnelId ↔
    rule ∈ tunnels.rules acl ∧ tunnels.Applies tunnelId rule := by
  rw [AclDicts.getTunnelRules, List.mem_flatMap]
  constructor
  · rintro ⟨other, member, listed⟩
    obtain ⟨id, isId, rfl⟩ := List.mem_map.mp listed
    obtain ⟨present, same⟩ := List.mem_filter.mp isId
    rw [decide_eq_true_eq] at same
    exact ⟨member, same ▸ present⟩
  · rintro ⟨member, applies⟩
    exact ⟨rule, member, List.mem_map.mpr
      ⟨tunnelId, List.mem_filter.mpr ⟨applies, decide_eq_true rfl⟩, rfl⟩⟩

theorem now_of_applies [DecidableEq Name] {rule : Dict} (applies : tunnels.Applies tunnelId rule) :
    tunnels.now tunnelId acl tunnelRules (acl, rule) = tunnelRules := if_pos ⟨rfl, applies⟩

theorem tunnels_ne_nil {rule : Dict} (applies : tunnels.Applies tunnelId rule) :
    (tunnels.conf rule).tunnels ≠ [] := List.ne_nil_of_mem applies

theorem listed_of_mem {names : List Name} {name : Name} {rule : Dict} (known : name ∈ names)
    (member : rule ∈ tunnels.rules name) : (name, rule) ∈ tunnels.listed names :=
  List.mem_flatMap.mpr ⟨name, known, List.mem_map.mpr ⟨rule, member, rfl⟩⟩

theorem mem_listed {names : List Name} {rule : Name × Dict} :
    rule ∈ tunnels.listed names ↔ rule.1 ∈ names ∧ rule.2 ∈ tunnels.rules rule.1 := by
  rw [AclDicts.listed, List.mem_flatMap]
  constructor
  · rintro ⟨name, known, member⟩
    obtain ⟨_, listed, rfl⟩ := List.mem_map.mp member
    exact ⟨known, listed⟩
  · rintro ⟨known, member⟩
    exact List.mem_flatMap.mp (listed_of_mem known member)

variable [BEq Dict] [DecidableEq Name] {Dp : Type} [DecidableEq Dp]
  {ways : ℕ → Option (TunnelWay Dp)} {own fresh : List Ofmsg}

/-! ## Agreement -/

section Agreement

variable (sourced : tunnels.Sourced spot acl) (installed : tunnels.install spot = some own)
  (afresh : tunnels.reinstall spot tunnelId acl tunnelRules = some fresh)

omit [BEq Dict] [DecidableEq Name] in
include sourced installed in
theorem exists_installed (slot : Slot) (member : slot ∈ tunnels.slots spot acl fun _ => none) :
    ∃ mod, (tunnels.site spot).mod slot = some mod := by
  rw [install_eq sourced] at installed
  exact Site.exists_mod installed member

omit [BEq Dict] in
include afresh in
theorem exists_afresh (slot : Slot)
    (member : slot ∈ tunnels.slots spot acl (tunnels.now tunnelId acl tunnelRules)) :
    ∃ mod, (tunnels.site spot).mod slot = some mod := Site.exists_mod afresh member

include sourced installed afresh

omit [BEq Dict] in
/-- The installations have the same flows, with other instructions. -/
theorem final_installed_none_iff (flow : FlowId) :
    (tunnels.site spot).final (tunnels.slots spot acl fun _ => none) flow = none ↔
      (tunnels.site spot).final
        (tunnels.slots spot acl (tunnels.now tunnelId acl tunnelRules)) flow = none :=
  Site.final_none_iff (fun _ _ => ⟨rfl, rfl⟩)
    (fun _ member => exists_installed sourced installed _ (List.mem_map_of_mem member))
    (fun _ member => exists_afresh afresh _ (List.mem_map_of_mem member))

theorem renewed_iff_agrees {update : List Slot}
    (isUpdate : tunnels.buildTunnelAclRuleOfmsgs spot.portNum tunnelId acl tunnelRules =
      (tunnels.site spot).batch true update) :
    tunnels.Renewed spot tunnelId acl tunnelRules ↔
      (∃ input, (tunnels.site spot).batch true update = some input) ∧
        (tunnels.site spot).Agrees (tunnels.slots spot acl fun _ => none)
          (tunnels.slots spot acl (tunnels.now tunnelId acl tunnelRules)) update := by
  rw [Renewed, isUpdate, install_eq sourced]
  rw [install_eq sourced] at installed
  exact Site.renews_iff installed afresh fun flow _ =>
    final_installed_none_iff sourced (by rw [install_eq sourced]; exact installed) afresh flow

end Agreement

/-- What a rule makes of a flow of its own. -/
theorem exists_named {site : Site} (noVlan : site.context.vid = none) {mod : FlowMod}
    (adds : site.mod slot = some mod) :
    ∃ flow, mod.names flow = true ∧ site.Holds flow := by
  obtain ⟨flow, named⟩ := site.exists_flow adds
  exact ⟨flow, named, Site.holds_of_names noVlan adds named⟩

omit [BEq Dict] [DecidableEq Name] in
theorem noVlan (tunnels : TunnelManager Dict Name) (spot : Spot Name) :
    (tunnels.site spot).context.vid = none := rfl

/-! ## The datapath -/

section Datapath

/-- On the datapath the update builds all rules again, each with the rules of the tunnels. -/
theorem update_dp (sourced : acl ∈ tunnels.dpAcls) (portNum : Option PortNo) :
    tunnels.buildTunnelAclRuleOfmsgs portNum tunnelId acl tunnelRules =
      (tunnels.site .dp).batch true (tunnels.slots .dp acl fun _ => tunnelRules) := by
  rw [buildTunnelAclRuleOfmsgs, if_pos sourced]
  exact tunnels.buildAclOfmsgs_eq tunnels.table (tunnels.manager.portContext none) tunnelRules false
    true tunnels.dpAcls

theorem renewed_dp_iff (sourced : acl ∈ tunnels.dpAcls)
    (installed : tunnels.install .dp = some own)
    (afresh : tunnels.reinstall .dp tunnelId acl (dynTunnelRules ways) = some fresh) :
    tunnels.Renewed .dp tunnelId acl (dynTunnelRules ways) ↔
      tunnels.Meets .dp tunnelId acl (dynTunnelRules ways) := by
  have isSourced : tunnels.Sourced .dp acl := sourced
  have plain : tunnels.exactAt .dp acl = false := rfl
  rw [renewed_iff_agrees isSourced installed afresh (update_dp sourced _), Meets]
  constructor
  · rintro ⟨⟨input, updates⟩, agrees⟩ other known rule member some_
    by_contra notOwn
    obtain ⟨priority, listed⟩ := exists_numbered aclPriority
      (listed_of_mem known member)
    have isNow : tunnels.now tunnelId acl (dynTunnelRules ways) (other, rule) = none := if_neg notOwn
    obtain ⟨mod, adds⟩ := Site.exists_mod updates
      (mem_slots.mpr ⟨priority, (other, rule), listed, rfl⟩)
    obtain ⟨mod', adds'⟩ := exists_afresh afresh _
      (mem_slots.mpr ⟨priority, (other, rule), listed, rfl⟩)
    rw [isNow] at adds'
    obtain ⟨flow, named, holds⟩ := exists_named (tunnels.noVlan .dp) adds
    have named' := (Site.names_congr flow adds adds' rfl rfl).symm.trans named
    have updated := final_slots (fun _ => dynTunnelRules ways) plain listed adds named
    have fresh_ := final_slots (tunnels.now tunnelId acl (dynTunnelRules ways)) plain
      listed (by rw [isNow]; exact adds') named'
    have same := agrees.set flow holds (by rw [updated]; exact Option.some_ne_none _)
    rw [updated, fresh_] at same
    exact Site.entry_ne some_ adds adds' (Option.some.inj same)
  · intro meets
    -- each rule is built as it would be afresh
    have same : ∀ entry ∈ numbered aclPriority (tunnels.listed (tunnels.aclsAt .dp)),
        (tunnels.site .dp).mod ⟨entry.1, tunnels.conf entry.2.2, dynTunnelRules ways⟩ =
          (tunnels.site .dp).mod ⟨entry.1, tunnels.conf entry.2.2,
            tunnels.now tunnelId acl (dynTunnelRules ways) entry.2⟩ := by
      rintro ⟨priority, name, rule⟩ listed
      obtain ⟨known, member⟩ := mem_listed.mp (mem_of_numbered listed)
      rw [now]
      split
      next => rfl
      next notOwn =>
        apply Site.mod_congr
        by_contra some_
        exact notOwn (meets name known rule member some_)
    have finals : ∀ flow, (tunnels.site .dp).final
          (tunnels.slots .dp acl fun _ => dynTunnelRules ways) flow =
        (tunnels.site .dp).final
          (tunnels.slots .dp acl (tunnels.now tunnelId acl (dynTunnelRules ways))) flow := fun flow =>
      Site.final_congr fun entry listed => congrArg _ (same entry listed)
    refine ⟨Site.exists_batch fun slot member => ?_, fun flow _ _ => finals flow,
      fun flow _ unset => ?_, fun flow entry _ unset isSet => ?_⟩
    · obtain ⟨priority, rule, listed, rfl⟩ := mem_slots.mp member
      obtain ⟨mod, adds⟩ := exists_afresh afresh _ (mem_slots.mpr ⟨priority, rule, listed, rfl⟩)
      exact ⟨mod, (same _ listed).trans adds⟩
    · rw [finals] at unset
      rw [unset, (final_installed_none_iff isSourced installed afresh flow).mpr unset]
    · rw [finals] at unset
      rw [(final_installed_none_iff isSourced installed afresh flow).mpr unset] at isSet
      cases isSet

end Datapath

/-! ## A port -/

section Port

variable {number : PortNo} {aclsIn : List Name} {dot1x outputOnly : Bool}

/-- On a port the update builds the rules of the tunnel. -/
theorem update_port (noDpAcls : tunnels.dpAcls = []) :
    tunnels.buildTunnelAclRuleOfmsgs (some number) tunnelId acl tunnelRules =
      (tunnels.site (.port number aclsIn dot1x outputOnly)).batch true
        (tunnels.updated tunnelId acl tunnelRules) := by
  have notDp : acl ∉ tunnels.dpAcls := by simp [noDpAcls]
  rw [buildTunnelAclRuleOfmsgs, if_neg notDp, Site.batch, updated, List.map_map]
  exact congrArg collect <| List.map_congr_left fun rule _ =>
    buildRule_eq_build tunnels.table (tunnels.manager.portContext (some number)) tunnelRules
      (tunnels.exactMatch acl) true _ _

omit [DecidableEq Name] in
theorem mem_updated : slot ∈ tunnels.updated tunnelId acl tunnelRules ↔
    ∃ rule ∈ tunnels.getTunnelRules acl tunnelId, slot =
      ⟨if tunnels.exactMatch acl then aclPriority else aclPriority - (tunnels.rules acl).idxOf rule,
        tunnels.conf rule, tunnelRules⟩ := by
  rw [updated, List.mem_map]
  exact exists_congr fun rule => and_congr_right fun _ => eq_comm

/-- The update writes each flow of the tunnel's rules. -/
def Rewrites (tunnels : TunnelManager Dict Name) (spot : Spot Name) (tunnelId : ℕ) (acl : Name)
    (tunnelRules : TunnelRules) : Prop :=
  ∀ priority rule, (priority, (acl, rule)) ∈ numbered aclPriority (tunnels.listed (tunnels.aclsAt spot)) →
    tunnels.Applies tunnelId rule →
    ⟨if tunnels.exactAt spot acl then aclPriority else priority, tunnels.conf rule, tunnelRules⟩ ∈
      tunnels.updated tunnelId acl tunnelRules

section Rewrites

variable (sourced : tunnels.Sourced spot acl) (installed : tunnels.install spot = some own)
  (afresh : tunnels.reinstall spot tunnelId acl tunnelRules = some fresh)
include sourced installed afresh

/-- Flows that the update does not write are the same in both installations. -/
theorem unset_of_rewrites (rewrites : tunnels.Rewrites spot tunnelId acl tunnelRules)
    (unset : (tunnels.site spot).final (tunnels.updated tunnelId acl tunnelRules) flow = none) :
    (tunnels.site spot).final (tunnels.slots spot acl fun _ => none) flow =
      (tunnels.site spot).final
        (tunnels.slots spot acl (tunnels.now tunnelId acl tunnelRules)) flow := by
  refine Site.final_congr ?_
  rintro ⟨priority, rule⟩ listed
  dsimp only
  by_cases isOwn : rule.1 = acl ∧ tunnels.Applies tunnelId rule.2
  · obtain ⟨mod, adds⟩ := exists_installed sourced installed _ (mem_slots.mpr ⟨priority, rule, listed, rfl⟩)
    obtain ⟨mod', adds'⟩ := exists_afresh afresh _ (mem_slots.mpr ⟨priority, rule, listed, rfl⟩)
    rw [now, if_pos isOwn] at adds' ⊢
    have notNamed : mod'.names flow = false := by
      rw [Bool.eq_false_iff]
      intro named
      obtain ⟨name, dict⟩ := rule
      obtain ⟨rfl, applies⟩ := isOwn
      exact Site.final_ne_none (rewrites priority dict listed applies) adds' named unset
    have notNamed' : mod.names flow = false :=
      (Site.names_congr flow adds adds' rfl rfl).trans notNamed
    rw [adds, adds', Option.filter_some, Option.filter_some, notNamed, notNamed']
    rfl
  · rw [now, if_neg isOwn]

end Rewrites

omit [DecidableEq Name] in
theorem spares_iff : (∀ flow entry, (tunnels.site spot).Holds flow →
      (tunnels.site spot).final (tunnels.updated tunnelId acl tunnelRules) flow = none →
      (tunnels.site spot).final (tunnels.slots spot acl fun _ => none) flow = some entry →
      ¬ (tunnels.site spot).Takes (tunnels.updated tunnelId acl tunnelRules) flow entry) ↔
    tunnels.Spares spot tunnelId acl tunnelRules := by
  constructor
  · intro spared flow entry isSet unset
    obtain ⟨_, _, mod, adds, named, _⟩ := Site.exists_of_final isSet
    exact spared flow entry (Site.holds_of_names (tunnels.noVlan spot) adds named) unset isSet
  · intro spares flow entry _ unset isSet
    exact spares flow entry isSet unset

/-! ### Places -/

omit [BEq Dict] [DecidableEq Name] in
/-- The list of an ACL stands among the rules of all. -/
theorem listed_append (before after : List Name) : tunnels.listed (before ++ acl :: after) =
    tunnels.listed before ++ ((tunnels.rules acl).map (acl, ·) ++ tunnels.listed after) := by
  simp [AclDicts.listed]

omit [BEq Dict] [DecidableEq Name] in
theorem listed_eq_nil {names : List Name} (empty : tunnels.listed names = []) : names = [] := by
  cases names with
  | nil => rfl
  | cons name rest =>
      rw [← List.nil_append (name :: rest), listed_append] at empty
      have none := (List.append_eq_nil_iff.mp (List.append_eq_nil_iff.mp empty).2).1
      exact absurd (List.map_eq_nil_iff.mp none) (tunnels.someRule name)

/-- Equal rules have the place of the first one. -/
theorem idxOf_le [ReflBEq Dict] {rules before after : List Dict} {rule : Dict}
    (split : rules = before ++ rule :: after) : rules.idxOf rule ≤ before.length := by
  by_contra more
  have short : before.length < rules.length := by simp [split]
  have isRule : rules[before.length] = rule := by simp [split]
  have different := List.not_of_lt_findIdx (Nat.not_le.mp more)
  rw [isRule, beq_self_eq_true] at different
  cases different

omit [BEq Dict] [DecidableEq Name] in
/-- A rule of an ACL that is listed once, and first, has its place there. -/
theorem split_of_listed {rest : List Name} {rule : Dict} {before after : List (Name × Dict)}
    (notAgain : acl ∉ rest)
    (split : tunnels.listed (acl :: rest) = before ++ (acl, rule) :: after) :
    ∃ before' after', tunnels.rules acl = before' ++ rule :: after' ∧
      before'.length = before.length := by
  have listed : tunnels.listed (acl :: rest) =
      (tunnels.rules acl).map (acl, ·) ++ tunnels.listed rest := listed_append [] rest
  rw [listed, List.append_eq_append_iff] at split
  rcases split with ⟨between, _, isRest⟩ | ⟨between, isOwn, isAfter⟩
  · have again : (acl, rule) ∈ tunnels.listed rest := by simp [isRest]
    exact absurd (mem_listed.mp again).1 notAgain
  · cases between with
    | nil =>
        have again : (acl, rule) ∈ tunnels.listed rest := by
          rw [List.nil_append] at isAfter
          exact isAfter ▸ List.mem_cons_self
        exact absurd (mem_listed.mp again).1 notAgain
    | cons first between =>
        rw [List.cons_append, List.cons.injEq] at isAfter
        obtain ⟨before', later, isRules, rfl, isLater⟩ := List.map_eq_append_iff.mp isOwn
        obtain ⟨rule', after', rfl, isFirst, _⟩ := List.map_eq_cons_iff.mp isLater
        have same : rule' = rule := congrArg Prod.snd (isFirst.trans isAfter.1.symm)
        exact ⟨before', after', same ▸ isRules, (List.length_map _).symm⟩

/-- The places of the rules of the tunnel in their ACL. -/
def places (tunnels : TunnelManager Dict Name) (tunnelId : ℕ) (acl : Name) : Finset ℕ :=
  (Finset.range (tunnels.rules acl).length).filter fun i =>
    (tunnels.rules acl)[i]?.any fun rule => tunnels.Applies tunnelId rule

/-- The place that the update takes for a rule: that of the first equal one. -/
def firstPlace (tunnels : TunnelManager Dict Name) (acl : Name) (i : ℕ) : ℕ :=
  ((tunnels.rules acl)[i]?.map (tunnels.rules acl).idxOf).getD 0

omit [BEq Dict] [DecidableEq Name] in
theorem mem_places {i : ℕ} : i ∈ tunnels.places tunnelId acl ↔ ∃ first rule later,
    tunnels.rules acl = first ++ rule :: later ∧ first.length = i ∧ tunnels.Applies tunnelId rule := by
  rw [places, Finset.mem_filter, Finset.mem_range, Option.any_eq_true]
  constructor
  · rintro ⟨short, rule, isRule, applies⟩
    obtain ⟨_, rfl⟩ := List.getElem?_eq_some_iff.mp isRule
    refine ⟨(tunnels.rules acl).take i, _, (tunnels.rules acl).drop (i + 1), ?_,
      List.length_take_of_le short.le, of_decide_eq_true applies⟩
    rw [← List.drop_eq_getElem_cons short, List.take_append_drop]
  · rintro ⟨first, rule, later, split, rfl, applies⟩
    exact ⟨by simp [split], rule, by simp [split], decide_eq_true applies⟩

omit [DecidableEq Name] in
theorem firstPlace_eq {first later : List Dict} {rule : Dict}
    (split : tunnels.rules acl = first ++ rule :: later) :
    tunnels.firstPlace acl first.length = (tunnels.rules acl).idxOf rule := by
  have isRule : (tunnels.rules acl)[first.length]? = some rule := by simp [split]
  rw [firstPlace, isRule]
  rfl

variable {number : PortNo} {aclsIn : List Name} {dot1x : Bool}

section InPlace

omit [DecidableEq Name] in
/-- With its rules in place the update writes the flows of an installation from the start. -/
theorem rewrites_of_inPlace (number : PortNo) (dot1x : Bool) (tunnelRules : TunnelRules)
    (plain : tunnels.exactMatch acl = false) (inPlace : tunnels.InPlace tunnelId acl aclsIn) :
    tunnels.Rewrites (.port number aclsIn dot1x false) tunnelId acl tunnelRules ∧
      ∀ slot ∈ tunnels.updated tunnelId acl tunnelRules,
        ∃ priority rule, (priority, (acl, rule)) ∈ numbered aclPriority (tunnels.listed aclsIn) ∧
          tunnels.Applies tunnelId rule ∧ slot = ⟨priority, tunnels.conf rule, tunnelRules⟩ := by
  obtain ⟨rest, rfl, notAgain⟩ := inPlace.first
  constructor
  · intro priority rule listed applies
    obtain ⟨before, after, split, rfl⟩ := mem_numbered_iff.mp listed
    obtain ⟨before', after', isRules, sameLength⟩ := split_of_listed notAgain split
    have index := inPlace.ownIndex before' rule after' isRules applies
    have isExact : tunnels.exactAt (.port number (acl :: rest) dot1x false) acl = false := plain
    refine mem_updated.mpr ⟨rule, mem_getTunnelRules.mpr ⟨by simp [isRules], applies⟩, ?_⟩
    rw [isExact, plain, index, sameLength]
  · intro slot member
    obtain ⟨rule, isTunnel, rfl⟩ := mem_updated.mp member
    obtain ⟨isRule, applies⟩ := mem_getTunnelRules.mp isTunnel
    obtain ⟨before, after, split⟩ := List.append_of_mem isRule
    have index := inPlace.ownIndex before rule after split applies
    refine ⟨_, rule, mem_numbered_iff.mpr ⟨before.map (acl, ·),
      after.map (acl, ·) ++ tunnels.listed rest, ?_, rfl⟩, applies, ?_⟩
    · have listed : tunnels.listed (acl :: rest) =
          (tunnels.rules acl).map (acl, ·) ++ tunnels.listed rest := listed_append [] rest
      rw [listed, split]
      simp
    · rw [plain, index, List.length_map]
      rfl

variable (plain : tunnels.exactMatch acl = false)
  (sourced : tunnels.Sourced (.port number aclsIn dot1x false) acl)
  (installed : tunnels.install (.port number aclsIn dot1x false) = some own)
  (afresh : tunnels.reinstall (.port number aclsIn dot1x false) tunnelId acl (dynTunnelRules ways) =
    some fresh)
  (agrees : (tunnels.site (.port number aclsIn dot1x false)).Agrees
    (tunnels.slots (.port number aclsIn dot1x false) acl fun _ => none)
    (tunnels.slots (.port number aclsIn dot1x false) acl (tunnels.now tunnelId acl (dynTunnelRules ways)))
    (tunnels.updated tunnelId acl (dynTunnelRules ways)))

include plain sourced installed afresh agrees

/-- The place of a rule of the tunnel among all is that of such a rule in its ACL. -/
theorem exists_place {before after : List (Name × Dict)} {rule : Dict}
    (split : tunnels.listed aclsIn = before ++ (acl, rule) :: after)
    (applies : tunnels.Applies tunnelId rule) :
    ∃ rule' ∈ tunnels.getTunnelRules acl tunnelId,
      (tunnels.rules acl).idxOf rule' = before.length := by
  have isExact : tunnels.exactAt (.port number aclsIn dot1x false) acl = false := plain
  have listed : (aclPriority - before.length, (acl, rule)) ∈ numbered aclPriority
      (tunnels.listed (tunnels.aclsAt (.port number aclsIn dot1x false))) :=
    mem_numbered_iff.mpr ⟨before, after, split, rfl⟩
  have isNow : tunnels.now tunnelId acl (dynTunnelRules ways) (acl, rule) = dynTunnelRules ways :=
    now_of_applies applies
  obtain ⟨mod, adds⟩ := exists_afresh afresh _ (mem_slots.mpr ⟨_, (acl, rule), listed, rfl⟩)
  obtain ⟨mod', adds'⟩ := exists_installed sourced installed _
    (mem_slots.mpr ⟨_, (acl, rule), listed, rfl⟩)
  simp only [isExact, isNow, Bool.false_eq_true, if_false] at adds adds'
  obtain ⟨flow, named, holds⟩ := exists_named (tunnels.noVlan _) adds
  have named' := (Site.names_congr flow adds adds' rfl rfl).symm.trans named
  have final_ := final_slots (tunnels.now tunnelId acl (dynTunnelRules ways)) isExact listed
    (by rw [isNow]; exact adds) named
  have before_ := final_slots (fun _ => none) isExact listed adds' named'
  -- the flow has other instructions than before, so that the update has written it
  have isSet : (tunnels.site (.port number aclsIn dot1x false)).final
      (tunnels.updated tunnelId acl (dynTunnelRules ways)) flow ≠ none := by
    intro unset
    have same := agrees.unset flow holds unset
    rw [final_, before_] at same
    exact Site.entry_ne (tunnels_ne_nil applies) adds adds' (Option.some.inj same).symm
  obtain ⟨entry, isFinal⟩ := Option.ne_none_iff_exists'.mp isSet
  obtain ⟨slot, member, mod'', adds'', named'', _⟩ := Site.exists_of_final isFinal
  obtain ⟨rule', isTunnel, rfl⟩ := mem_updated.mp member
  refine ⟨rule', isTunnel, ?_⟩
  have priority := (Site.mod_spec adds).2.2.1
  have priority'' := (Site.mod_spec adds'').2.2.1
  simp only [FlowMod.names, Bool.and_eq_true, beq_iff_eq] at named named''
  simp only [plain, Bool.false_eq_true, if_false] at priority''
  have same := named.1.2.trans named''.1.2.symm
  dsimp only at priority
  omega

/-- The places among all rules are those that the update takes. -/
theorem image_places {before after : List Name} (split : aclsIn = before ++ acl :: after) :
    (tunnels.places tunnelId acl).image ((tunnels.listed before).length + ·) ⊆
      (tunnels.places tunnelId acl).image (tunnels.firstPlace acl) := by
  refine Finset.image_subset_iff.mpr fun i member => ?_
  obtain ⟨first, rule, later, isRules, rfl, applies⟩ := mem_places.mp member
  have isListed : tunnels.listed aclsIn = (tunnels.listed before ++ first.map (acl, ·)) ++
      (acl, rule) :: (later.map (acl, ·) ++ tunnels.listed after) := by
    rw [split, listed_append, isRules]
    simp
  obtain ⟨rule', isTunnel, sameIndex⟩ :=
    exists_place plain sourced installed afresh agrees isListed applies
  obtain ⟨isRule, applies'⟩ := mem_getTunnelRules.mp isTunnel
  obtain ⟨first', later', isRules'⟩ := List.append_of_mem isRule
  refine Finset.mem_image.mpr
    ⟨first'.length, mem_places.mpr ⟨_, _, _, isRules', rfl, applies'⟩, ?_⟩
  rw [firstPlace_eq isRules', sameIndex, List.length_append, List.length_map]

/-- **No rule of the tunnel is moved** when the flows agree. -/
theorem inPlace_of_agrees [ReflBEq Dict] (some_ : tunnels.getTunnelRules acl tunnelId ≠ []) :
    tunnels.InPlace tunnelId acl aclsIn := by
  have down : ∀ i ∈ tunnels.places tunnelId acl, tunnels.firstPlace acl i ≤ i := by
    intro i member
    obtain ⟨first, rule, later, isRules, rfl, _⟩ := mem_places.mp member
    rw [firstPlace_eq isRules]
    exact idxOf_le isRules
  have somePlace : (tunnels.places tunnelId acl).Nonempty := by
    obtain ⟨rule, isTunnel⟩ := List.exists_mem_of_ne_nil _ some_
    obtain ⟨isRule, applies⟩ := mem_getTunnelRules.mp isTunnel
    obtain ⟨first, later, isRules⟩ := List.append_of_mem isRule
    exact ⟨first.length, mem_places.mpr ⟨_, _, _, isRules, rfl, applies⟩⟩
  have fixed : ∀ {before after : List Name}, aclsIn = before ++ acl :: after → before = [] ∧
      ∀ i ∈ tunnels.places tunnelId acl, tunnels.firstPlace acl i = i := by
    intro before after split
    obtain ⟨noOffset, fixed⟩ := Numbered.fixed_of_shift somePlace down
      (image_places plain sourced installed afresh agrees split)
    exact ⟨listed_eq_nil (List.length_eq_zero_iff.mp noOffset), fixed⟩
  obtain ⟨before, after, isAcls⟩ := List.append_of_mem sourced.2.1
  obtain ⟨rfl, ownPlace⟩ := fixed isAcls
  refine ⟨⟨after, isAcls, fun again => ?_⟩, fun first rule later isRules applies => ?_⟩
  · -- a second time in the list the rules are moved by those of the first time
    obtain ⟨between, rest, rfl⟩ := List.append_of_mem again
    obtain ⟨empty, _⟩ : acl :: between = [] ∧ _ := fixed isAcls
    cases empty
  · rw [← firstPlace_eq isRules]
    exact ownPlace _ (mem_places.mpr ⟨_, _, _, isRules, rfl, applies⟩)

end InPlace

section Plain

variable (plain : tunnels.exactMatch acl = false)
  (sourced : tunnels.Sourced (.port number aclsIn dot1x false) acl)
  (installed : tunnels.install (.port number aclsIn dot1x false) = some own)
  (afresh : tunnels.reinstall (.port number aclsIn dot1x false) tunnelId acl tunnelRules =
    some fresh)

include plain sourced installed afresh

/-- With its rules in place the update builds flows that are as in an installation from the
start. -/
theorem agrees_of_inPlace (inPlace : tunnels.InPlace tunnelId acl aclsIn)
    (spares : tunnels.Spares (.port number aclsIn dot1x false) tunnelId acl tunnelRules) :
    (∃ input, (tunnels.site (.port number aclsIn dot1x false)).batch true
        (tunnels.updated tunnelId acl tunnelRules) = some input) ∧
      (tunnels.site (.port number aclsIn dot1x false)).Agrees
        (tunnels.slots (.port number aclsIn dot1x false) acl fun _ => none)
        (tunnels.slots (.port number aclsIn dot1x false) acl (tunnels.now tunnelId acl tunnelRules))
        (tunnels.updated tunnelId acl tunnelRules) := by
  have isExact : tunnels.exactAt (.port number aclsIn dot1x false) acl = false := plain
  obtain ⟨rewrites, places⟩ := rewrites_of_inPlace number dot1x tunnelRules plain inPlace
  -- each slot of the update is one of an installation from the start
  refine ⟨Site.exists_batch fun slot member => ?_, fun flow _ isSet => ?_, fun flow _ unset =>
    unset_of_rewrites sourced installed afresh rewrites unset, spares_iff.mpr spares⟩
  · obtain ⟨priority, rule, listed, applies, rfl⟩ := places slot member
    obtain ⟨mod, adds⟩ := exists_afresh afresh _ (mem_slots.mpr ⟨priority, (acl, rule), listed, rfl⟩)
    rw [isExact, now_of_applies applies] at adds
    exact ⟨mod, adds⟩
  · obtain ⟨entry, isFinal⟩ := Option.ne_none_iff_exists'.mp isSet
    obtain ⟨slot, member, mod, adds, named, rfl⟩ := Site.exists_of_final isFinal
    obtain ⟨priority, rule, listed, applies, rfl⟩ := places slot member
    have afresh_ := final_slots (tunnels.now tunnelId acl tunnelRules) isExact listed
      (by rw [now_of_applies applies]; exact adds) named
    rw [isFinal, afresh_]

end Plain

section Exact

variable (exact : tunnels.exactMatch acl = true)
  (sourced : tunnels.Sourced (.port number aclsIn dot1x false) acl)
  (installed : tunnels.install (.port number aclsIn dot1x false) = some own)
  (afresh : tunnels.reinstall (.port number aclsIn dot1x false) tunnelId acl tunnelRules =
    some fresh)

include exact sourced installed afresh

/-- In an exact list the last rules of the matches decide. -/
theorem agrees_iff_lastAmongAll :
    ((∃ input, (tunnels.site (.port number aclsIn dot1x false)).batch true
        (tunnels.updated tunnelId acl tunnelRules) = some input) ∧
      (tunnels.site (.port number aclsIn dot1x false)).Agrees
        (tunnels.slots (.port number aclsIn dot1x false) acl fun _ => none)
        (tunnels.slots (.port number aclsIn dot1x false) acl (tunnels.now tunnelId acl tunnelRules))
        (tunnels.updated tunnelId acl tunnelRules)) ↔
      tunnels.LastAmongAll (.port number aclsIn dot1x false) tunnelId acl tunnelRules ∧
        tunnels.Spares (.port number aclsIn dot1x false) tunnelId acl tunnelRules := by
  have isExact : tunnels.exactAt (.port number aclsIn dot1x false) acl = true := exact
  have slot_of : ∀ rule ∈ tunnels.getTunnelRules acl tunnelId,
      (⟨aclPriority, tunnels.conf rule, tunnelRules⟩ : Slot) ∈ tunnels.slots
        (.port number aclsIn dot1x false) acl (tunnels.now tunnelId acl tunnelRules) := by
    intro rule isTunnel
    obtain ⟨isRule, applies⟩ := mem_getTunnelRules.mp isTunnel
    obtain ⟨priority, listed⟩ := exists_numbered aclPriority
      (listed_of_mem sourced.2.1 isRule)
    refine mem_slots.mpr ⟨priority, (acl, rule), listed, ?_⟩
    rw [isExact, now_of_applies applies]
    rfl
  have updates : ∀ slot ∈ tunnels.updated tunnelId acl tunnelRules,
      slot.priority = aclPriority ∧
        ∃ mod, (tunnels.site (.port number aclsIn dot1x false)).mod slot = some mod := by
    intro slot member
    obtain ⟨rule, isTunnel, rfl⟩ := mem_updated.mp member
    rw [exact]
    exact ⟨rfl, exists_afresh afresh _ (slot_of rule isTunnel)⟩
  have onePriority : ∀ slot ∈ tunnels.slots (.port number aclsIn dot1x false) acl
      (tunnels.now tunnelId acl tunnelRules), slot.priority = aclPriority := by
    intro slot member
    obtain ⟨_, _, _, rfl⟩ := mem_slots.mp member
    rw [isExact]
    rfl
  -- for a flow of the table at the priority of the list, both sides are the last rules
  have lastRules : ∀ flow : FlowId, flow.tableId = tunnels.table.tableId →
      (flow.priority : ℤ) = aclPriority →
      ((tunnels.site (.port number aclsIn dot1x false)).final
          (tunnels.updated tunnelId acl tunnelRules) flow =
        (tunnels.site (.port number aclsIn dot1x false)).final (tunnels.slots
          (.port number aclsIn dot1x false) acl (tunnels.now tunnelId acl tunnelRules)) flow ↔
        ((tunnels.site (.port number aclsIn dot1x false)).lastRule
            (tunnels.updated tunnelId acl tunnelRules) flow.matchFields).bind
            (tunnels.site (.port number aclsIn dot1x false)).flowEntry =
          ((tunnels.site (.port number aclsIn dot1x false)).lastRule (tunnels.slots
            (.port number aclsIn dot1x false) acl (tunnels.now tunnelId acl tunnelRules))
            flow.matchFields).bind (tunnels.site (.port number aclsIn dot1x false)).flowEntry) := by
    intro flow inTable atPriority
    rw [Site.final_eq_lastRule (fun slot member => (updates slot member).2)
        (fun slot member => (updates slot member).1) inTable atPriority,
      Site.final_eq_lastRule (exists_afresh afresh) onePriority inTable atPriority]
  have flow_of : ∀ {flow : FlowId} {slot mod},
      slot ∈ tunnels.updated tunnelId acl tunnelRules →
      (tunnels.site (.port number aclsIn dot1x false)).mod slot = some mod →
      mod.names flow = true → flow.tableId = tunnels.table.tableId ∧
        (flow.priority : ℤ) = aclPriority ∧
        flow.matchFields = (tunnels.site (.port number aclsIn dot1x false)).matchOf slot := by
    intro flow slot mod member adds named
    obtain ⟨_, sameTable, priority, fields, _⟩ := Site.mod_spec adds
    have isPriority := (updates slot member).1
    simp only [FlowMod.names, Bool.and_eq_true, beq_iff_eq] at named
    obtain ⟨⟨inTable, atPriority⟩, sameFields⟩ := named
    exact ⟨Fin.ext (inTable.symm.trans sameTable), by omega, sameFields.symm.trans fields⟩
  constructor
  · rintro ⟨_, agrees⟩
    refine ⟨fun rule isTunnel => ?_, spares_iff.mp agrees.spared⟩
    have member : (⟨aclPriority, tunnels.conf rule, tunnelRules⟩ : Slot) ∈
        tunnels.updated tunnelId acl tunnelRules :=
      mem_updated.mpr ⟨rule, isTunnel, by rw [exact]; rfl⟩
    obtain ⟨mod, adds⟩ := (updates _ member).2
    obtain ⟨flow, named, holds⟩ := exists_named (tunnels.noVlan _) adds
    obtain ⟨inTable, atPriority, fields⟩ := flow_of member adds named
    have same := agrees.set flow holds (Site.final_ne_none member adds named)
    rw [lastRules flow inTable atPriority, fields] at same
    exact same
  · rintro ⟨lastAmongAll, spares⟩
    refine ⟨Site.exists_batch fun slot member => (updates slot member).2,
      fun flow _ isSet => ?_, fun flow _ unset => ?_, spares_iff.mpr spares⟩
    · obtain ⟨entry, isFinal⟩ := Option.ne_none_iff_exists'.mp isSet
      obtain ⟨slot, member, mod, adds, named, _⟩ := Site.exists_of_final isFinal
      obtain ⟨inTable, atPriority, fields⟩ := flow_of member adds named
      rw [lastRules flow inTable atPriority, fields]
      obtain ⟨rule, isTunnel, rfl⟩ := mem_updated.mp member
      exact lastAmongAll rule isTunnel
    · refine unset_of_rewrites sourced installed afresh (fun priority rule listed applies => ?_) unset
      refine mem_updated.mpr ⟨rule, mem_getTunnelRules.mpr
        ⟨(mem_listed.mp (mem_of_numbered listed)).2, applies⟩, ?_⟩
      rw [isExact, exact]
      rfl

end Exact

end Port

/-! ## When it is so -/

section Renewed

/-- Without rules of the tunnel nothing is built, and nothing has changed. -/
theorem renewed_of_noRules {number : PortNo} {aclsIn : List Name} {dot1x outputOnly : Bool}
    (sourced : tunnels.Sourced (.port number aclsIn dot1x outputOnly) acl)
    (installed : tunnels.install (.port number aclsIn dot1x outputOnly) = some own)
    (afresh : tunnels.reinstall (.port number aclsIn dot1x outputOnly) tunnelId acl tunnelRules =
      some fresh)
    (noRules : tunnels.getTunnelRules acl tunnelId = []) :
    tunnels.Renewed (.port number aclsIn dot1x outputOnly) tunnelId acl tunnelRules := by
  have noSlots : tunnels.updated tunnelId acl tunnelRules = [] := by rw [updated, noRules]; rfl
  refine (renewed_iff_agrees sourced installed afresh (update_port sourced.1)).mpr ⟨?_, ?_, ?_, ?_⟩
  · rw [noSlots]
    exact ⟨[], rfl⟩
  · intro flow _ isSet
    rw [noSlots] at isSet
    exact absurd rfl isSet
  · refine fun flow _ unset => unset_of_rewrites sourced installed afresh ?_ unset
    intro _ rule listed applies
    have isTunnel : rule ∈ tunnels.getTunnelRules acl tunnelId :=
      mem_getTunnelRules.mpr ⟨(mem_listed.mp (mem_of_numbered listed)).2, applies⟩
    rw [noRules] at isTunnel
    cases isTunnel
  · rintro flow entry _ _ _ (⟨slot, member, _⟩ | ⟨slot, member, _⟩) <;>
      · rw [noSlots] at member
        cases member

/-- A port that only outputs gets flows from an update, which it has not had before. -/
theorem not_renewed_of_outputOnly {number : PortNo} {aclsIn : List Name} {dot1x : Bool}
    (sourced : tunnels.Sourced (.port number aclsIn dot1x true) acl)
    (installed : tunnels.install (.port number aclsIn dot1x true) = some own)
    (afresh : tunnels.reinstall (.port number aclsIn dot1x true) tunnelId acl tunnelRules =
      some fresh)
    (some_ : tunnels.getTunnelRules acl tunnelId ≠ []) :
    ¬ tunnels.Renewed (.port number aclsIn dot1x true) tunnelId acl tunnelRules := by
  intro renewed
  obtain ⟨⟨input, updates⟩, agrees⟩ :=
    (renewed_iff_agrees sourced installed afresh (update_port sourced.1)).mp renewed
  obtain ⟨rule, isTunnel⟩ := List.exists_mem_of_ne_nil _ some_
  have member : _ ∈ tunnels.updated tunnelId acl tunnelRules :=
    mem_updated.mpr ⟨rule, isTunnel, rfl⟩
  obtain ⟨mod, adds⟩ := Site.exists_mod updates member
  obtain ⟨flow, named, holds⟩ := exists_named (tunnels.noVlan _) adds
  have isSet := Site.final_ne_none member adds named
  exact isSet (agrees.set flow holds isSet)

end Renewed

/-- A port with two ACLs: the first one allows all packets, and the second one sends them
through a tunnel. -/
def behind : TunnelManager Bool Bool where
  conf isTunnel :=
    { cookie := none
      description := none
      actions := some
        (if isTunnel then ⟨some 0, none, none, none, some (.ordered [.tunnel 5]), none⟩
          else ⟨some 1, none, none, none, none, none⟩)
      matchFields := []
      keys := RuleConf.keys_nil }
  rules isTunnel := [isTunnel]
  exactMatch _ := false
  someRule _ := List.cons_ne_nil _ _
  manager :=
    { dpAcls := []
      portAclTable := some ⟨0, [(inPort, false)], [vlanVid, vlanPcp], false, 1, false⟩
      vlanAclTable := none
      egressAclTable := none
      pipeline := ⟨1, 2, 6, 7⟩
      meters := fun _ => none }
  table := ⟨0, [(inPort, false)], [vlanVid, vlanPcp], false, 1, false⟩
  dpAcls := []
  isTable := rfl
  areDpAcls := rfl

/-- The tunnel goes through port 3. -/
def behindWays (id : ℕ) : Option (TunnelWay Bool) :=
  some ⟨⟨true, some 1, [], false, false⟩, false, false, id, some 3, 6, nofun⟩

end TunnelManager

end Faucet.Acl
