import Faucet.Acl.RuleBatches
import Faucet.Acl.TunnelRules

/-!
# Updates of tunnels

When the way of a tunnel changes, the rules with the tunnel are built again and sent with
deletes before their adds (`buildTunnelAclRuleOfmsgs`). On the datapath that is the whole list.
On a port it is the rules of the tunnel alone, and each gets the priority of its place in its
own ACL, where equal rules have the place of the first one. The port has got its flows with
priorities that are counted through all of its ACLs.

So the flows are those of an installation from the start only when the priorities agree
(`InPlace`), or in an exact list when the last rule of a match among the rules of the tunnel is
the last one in the whole list (`LastAmongAll`); and the deletes must not take other flows along
(`renewed_iff`).
-/

set_option autoImplicit false

namespace Faucet.Acl

open OpenFlow FirstMatch

/-! ## ACLs by name -/

/-- The ACLs, with their rules as dicts; `conf` is what is read of a dict. -/
structure AclDicts (Dict Name : Type) where
  conf : Dict → RuleConf
  rules : Name → List Dict
  exactMatch : Name → Bool
  someRule : ∀ name, rules name ≠ []

namespace AclDicts

variable {Dict Name : Type} (acls : AclDicts Dict Name)

/-- The ACL of this name. -/
def aclConf (name : Name) : AclConf where
  rules := (acls.rules name).map acls.conf
  exactMatch := acls.exactMatch name
  someRule := mt List.map_eq_nil_iff.mp (acls.someRule name)

/-- The rule applies the tunnel. -/
def Applies (tunnelId : ℕ) (rule : Dict) : Prop := tunnelId ∈ (acls.conf rule).tunnels

instance (tunnelId : ℕ) (rule : Dict) : Decidable (acls.Applies tunnelId rule) :=
  inferInstanceAs (Decidable (_ ∈ _))

/-- `get_tunnel_rules`, which lists a rule once for every action that applies the tunnel. -/
def getTunnelRules (name : Name) (tunnelId : ℕ) : List Dict :=
  (acls.rules name).flatMap fun rule =>
    ((acls.conf rule).tunnels.filter (· = tunnelId)).map fun _ => rule

/-- The rules of several ACLs, one after the other. -/
def listed (names : List Name) : List (Name × Dict) :=
  names.flatMap fun name => (acls.rules name).map (name, ·)

end AclDicts

/-! ## The manager -/

/-- The ACL manager of a datapath that has a table for port ACLs. -/
structure TunnelManager (Dict Name : Type) extends AclDicts Dict Name where
  manager : AclManager
  table : AclTable
  dpAcls : List Name
  isTable : manager.portAclTable = some table
  areDpAcls : manager.dpAcls = dpAcls.map toAclDicts.aclConf

/-- Where ACLs are applied: on the datapath, or on a port. -/
inductive Spot (Name : Type) where
  | dp
  | port (number : PortNo) (aclsIn : List Name) (dot1x outputOnly : Bool)

/-- The port number of a spot, which the datapath has not. -/
def Spot.portNum {Name : Type} : Spot Name → Option PortNo
  | dp => none
  | port number .. => some number

namespace TunnelManager

variable {Dict Name : Type} [BEq Dict] [DecidableEq Name] (tunnels : TunnelManager Dict Name)

/-- `build_tunnel_acl_rule_ofmsgs`, for a source with this port. -/
def buildTunnelAclRuleOfmsgs (portNum : Option PortNo) (tunnelId : ℕ) (acl : Name)
    (tunnelRules : TunnelRules) : Option (List Ofmsg) :=
  if acl ∈ tunnels.dpAcls then
    buildAclOfmsgs (tunnels.dpAcls.map tunnels.aclConf) tunnels.table
      { tunnels.manager.portContext none with tunnelRules } aclPriority false true
  else
    collect ((tunnels.getTunnelRules acl tunnelId).map fun rule =>
      buildRuleOfmsgs tunnels.table { tunnels.manager.portContext portNum with tunnelRules }
        aclPriority (tunnels.exactMatch acl) true
        (aclPriority - (tunnels.rules acl).idxOf rule) (tunnels.conf rule))

variable (spot : Spot Name)

/-- What is sent when the datapath starts or the port is added. -/
def install : Option (List Ofmsg) :=
  match spot with
  | .dp => tunnels.manager.initialiseTables
  | .port number aclsIn dot1x outputOnly =>
      tunnels.manager.addPort ⟨number, aclsIn.map tunnels.aclConf, dot1x, outputOnly⟩

/-- The source is where the configuration has it: an ACL of the datapath, or of a port of a
datapath without own ACLs. The lists of a port are all exact or none of them is. -/
def Sourced (acl : Name) : Prop :=
  match spot with
  | .dp => acl ∈ tunnels.dpAcls
  | .port _ aclsIn _ _ => tunnels.dpAcls = [] ∧ acl ∈ aclsIn ∧
      ∀ other ∈ aclsIn, tunnels.exactMatch other = tunnels.exactMatch acl

/-! ## What is meant -/

/-- The table and the context of the spot. -/
def site : Site := ⟨tunnels.table, tunnels.manager.portContext spot.portNum⟩

/-- The names of the lists; a port that only outputs has no flows of its ACLs. -/
def aclsAt : List Name :=
  match spot with
  | .dp => tunnels.dpAcls
  | .port _ aclsIn _ outputOnly => if outputOnly then [] else aclsIn

/-- The ACL is built without priorities at the spot. -/
def exactAt (acl : Name) : Bool :=
  match spot with
  | .dp => false
  | .port .. => tunnels.exactMatch acl

/-- The rules of all lists with their priorities; `built` are the rules of the tunnels with which
a rule is built. -/
def slots (acl : Name) (built : Name × Dict → TunnelRules) : List Slot :=
  (numbered aclPriority (tunnels.listed (tunnels.aclsAt spot))).map fun (priority, rule) =>
    ⟨if tunnels.exactAt spot acl then aclPriority else priority, tunnels.conf rule.2, built rule⟩

variable (tunnelId : ℕ) (acl : Name) (tunnelRules : TunnelRules)

/-- The rules of the tunnel are built with the rules of the tunnels, and the others without. -/
def now (rule : Name × Dict) : TunnelRules :=
  if rule.1 = acl ∧ tunnels.Applies tunnelId rule.2 then tunnelRules else none

/-- The same lists, installed from the start. -/
def reinstall : Option (List Ofmsg) :=
  (tunnels.site spot).batch false (tunnels.slots spot acl (tunnels.now tunnelId acl tunnelRules))

/-- **An update changes the rules of the tunnel and no others**: the flows are then those of an
installation from the start. -/
def Renewed : Prop :=
  (tunnels.site spot).Renews (tunnels.install spot)
    (tunnels.reinstall spot tunnelId acl tunnelRules)
    (tunnels.buildTunnelAclRuleOfmsgs spot.portNum tunnelId acl tunnelRules)

/-! ## When it is so -/

/-- The rules that are built again for a port. -/
def updated : List Slot :=
  (tunnels.getTunnelRules acl tunnelId).map fun rule =>
    ⟨if tunnels.exactMatch acl then aclPriority
      else aclPriority - (tunnels.rules acl).idxOf rule, tunnels.conf rule, tunnelRules⟩

/-- The ACL comes first and once, and no rule of the tunnel has an equal one before it. -/
structure InPlace (aclsIn : List Name) : Prop where
  first : ∃ rest, aclsIn = acl :: rest ∧ acl ∉ rest
  ownIndex : ∀ before rule after, tunnels.rules acl = before ++ rule :: after →
    tunnels.Applies tunnelId rule → (tunnels.rules acl).idxOf rule = before.length

/-- In an exact list: for the match of a rule of the tunnel, the last rule of the tunnel and
the last rule of all have the same cookie and the same instructions. -/
def LastAmongAll : Prop :=
  ∀ rule ∈ tunnels.getTunnelRules acl tunnelId,
    let fields := matchFromDict ((tunnels.conf rule).matchDict (tunnels.site spot).context)
    ((tunnels.site spot).lastRule (tunnels.updated tunnelId acl tunnelRules) fields).bind
        (tunnels.site spot).flowEntry =
      ((tunnels.site spot).lastRule
        (tunnels.slots spot acl (tunnels.now tunnelId acl tunnelRules)) fields).bind
        (tunnels.site spot).flowEntry

/-- A flow that is there, and that no rule of the tunnel has, is spared by the deletes. -/
def Spares : Prop :=
  ∀ flow entry, (tunnels.site spot).final (tunnels.slots spot acl fun _ => none) flow = some entry →
    (tunnels.site spot).final (tunnels.updated tunnelId acl tunnelRules) flow = none →
    ¬ (tunnels.site spot).Takes (tunnels.updated tunnelId acl tunnelRules) flow entry

/-- On the datapath every rule with a tunnel is one of the tunnel. On a port there are no such
rules, or they have the priorities, or they come last, and the others are spared. -/
def Meets : Prop :=
  match spot with
  | .dp => ∀ other ∈ tunnels.dpAcls, ∀ rule ∈ tunnels.rules other, (tunnels.conf rule).tunnels ≠ [] →
      other = acl ∧ tunnels.Applies tunnelId rule
  | .port _ aclsIn _ outputOnly =>
      tunnels.getTunnelRules acl tunnelId = [] ∨ outputOnly = false ∧
        (if tunnels.exactMatch acl then tunnels.LastAmongAll spot tunnelId acl tunnelRules
          else tunnels.InPlace tunnelId acl aclsIn) ∧
        tunnels.Spares spot tunnelId acl tunnelRules

end TunnelManager

/-! ## What is built -/

section Built

variable {Dict Name : Type} (table : AclTable) (context : Context) (tunnelRules : TunnelRules)
  (exact flowdel : Bool)

theorem buildRule_eq_build (priority : ℤ) (rule : RuleConf) :
    buildRuleOfmsgs table { context with tunnelRules } aclPriority exact flowdel priority rule =
      Site.build ⟨table, context⟩ flowdel
        ⟨if exact then aclPriority else priority, rule, tunnelRules⟩ := by
  cases exact <;> rfl

theorem buildRulesOfmsgs_eq (top : ℤ) (rules : List RuleConf) :
    buildRulesOfmsgs table context aclPriority exact flowdel top rules =
      collect ((numbered top rules).map fun entry =>
        buildRuleOfmsgs table context aclPriority exact flowdel entry.1 entry.2) := by
  induction rules generalizing top with
  | nil => rfl
  | cons rule rest ih => rw [buildRulesOfmsgs, ih, numbered, List.map_cons, collect]

theorem AclDicts.rules_aclConf (acls : AclDicts Dict Name) (names : List Name) :
    (names.map acls.aclConf).flatMap (·.rules) =
      (acls.listed names).map fun rule => acls.conf rule.2 := by
  rw [AclDicts.listed, List.flatMap_map, List.map_flatMap]
  congr 1
  funext name
  simp [AclDicts.aclConf]

/-- The rules of several lists are built one after the other. -/
theorem AclDicts.buildAclOfmsgs_eq (acls : AclDicts Dict Name) (names : List Name) :
    buildAclOfmsgs (names.map acls.aclConf) table { context with tunnelRules } aclPriority exact
        flowdel =
      Site.batch ⟨table, context⟩ flowdel
        ((numbered aclPriority (acls.listed names)).map fun (priority, rule) =>
          ⟨if exact then aclPriority else priority, acls.conf rule.2, tunnelRules⟩) := by
  rw [buildAclOfmsgs, buildRulesOfmsgs_eq, acls.rules_aclConf, numbered_map, Site.batch,
    List.map_map, List.map_map]
  congr 1

end Built

namespace TunnelManager

section Slots

variable {Dict Name : Type} [BEq Dict] [DecidableEq Name] {tunnels : TunnelManager Dict Name}
  {spot : Spot Name} {acl : Name} {tunnelId : ℕ} {tunnelRules : TunnelRules}

omit [BEq Dict] [DecidableEq Name] in
/-- What is sent at first is built of the rules without their tunnels. -/
theorem install_eq (sourced : tunnels.Sourced spot acl) :
    tunnels.install spot = (tunnels.site spot).batch false (tunnels.slots spot acl fun _ => none) := by
  cases spot with
  | dp =>
      have some_acl : tunnels.manager.dpAcls ≠ [] := by
        rw [tunnels.areDpAcls]
        exact List.ne_nil_of_mem (List.mem_map.mpr ⟨acl, sourced, rfl⟩)
      have built : tunnels.manager.initialiseTables =
          buildAclOfmsgs tunnels.manager.dpAcls tunnels.table (tunnels.manager.portContext none)
            aclPriority false false := by
        obtain ⟨first, rest, isAcls⟩ := List.exists_cons_of_ne_nil some_acl
        rw [AclManager.initialiseTables, tunnels.isTable, isAcls]
      rw [install, built, tunnels.areDpAcls]
      exact tunnels.buildAclOfmsgs_eq tunnels.table (tunnels.manager.portContext none) none false
        false tunnels.dpAcls
  | port number aclsIn dot1x outputOnly =>
      obtain ⟨noDpAcls, member, exact⟩ := sourced
      have dpAcls : tunnels.manager.dpAcls = [] := by rw [tunnels.areDpAcls, noDpAcls]; rfl
      have allowed : tunnels.manager.portAclsAllowed
          ⟨number, aclsIn.map tunnels.aclConf, dot1x, outputOnly⟩ =
            if outputOnly then none else some tunnels.table := by
        rw [AclManager.portAclsAllowed, dpAcls, tunnels.isTable]
        cases outputOnly <;> rfl
      rw [install, AclManager.addPort, allowed]
      cases outputOnly with
      | true => rfl
      | false =>
          have some_acl : aclsIn.map tunnels.aclConf ≠ [] :=
            List.ne_nil_of_mem (List.mem_map.mpr ⟨acl, member, rfl⟩)
          have isExact : AclManager.exactMatch (aclsIn.map tunnels.aclConf) = tunnels.exactMatch acl := by
            obtain ⟨first, rest, rfl⟩ := List.exists_cons_of_ne_nil (List.ne_nil_of_mem member)
            exact exact first List.mem_cons_self
          rw [if_neg Bool.false_ne_true]
          dsimp only
          rw [if_pos some_acl, isExact]
          exact tunnels.buildAclOfmsgs_eq tunnels.table (tunnels.manager.portContext (some number))
            none (tunnels.exactMatch acl) false aclsIn

end Slots

end TunnelManager

end Faucet.Acl
