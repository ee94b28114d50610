import Faucet.OpenFlow.GroupReferences

/-!
# Meters over a warm restart

A reload that is not a cold start sends deletes for the meters that were removed or
changed and adds for those that are new or changed. `del_meters` calls `meterdel` with
the id in the place of the datapath, so what it sends is a delete of every meter.

The restart keeps the meters of the switch (`KeepsMeters`) just when it has no meter to
delete, or no meter to keep (`MetersSafe`).
-/

set_option autoImplicit false

namespace Faucet.Meters

open OpenFlow

/-! ## Configuration -/

/-- `OFPM_SLOWPATH`. -/
def ofpmSlowpath : Nat := 0xfffffffd
/-- `OFPM_CONTROLLER`. -/
def ofpmController : Nat := 0xfffffffe
/-- `OFPMF_PKTPS`. -/
def ofpmfPktps : Nat := 2
/-- `OFPMBT_DROP`. -/
def ofpmbtDrop : Nat := 1

/-- A `Meter` that is accepted; entries that `_str_conf` writes alike are one entry. -/
structure MeterConf (E : Type) where
  entry : E
  meterId : Nat
  inRange : meterId ≤ 4294901760
deriving DecidableEq

/-- What a datapath says about meters: the dictionary of those that its ACLs use, whether
there is an ACL table (and so an `acl_manager`), and the rates for packet ins, 0 for none. -/
structure Dp (K E : Type) where
  keys : List K
  meter : K → Option (MeterConf E)
  mem_keys : ∀ key, key ∈ keys ↔ (meter key).isSome
  hasAcls : Bool
  packetinPps : Nat
  slowpathPps : Nat

/-- The order in which a set is gone through. -/
structure Iteration (K : Type) where
  run : List K → List K
  perm : ∀ keys, (run keys).Perm keys

section Model

variable {K E : Type}

namespace MeterConf

/-- `meteradd`: `mod_meter_entry` makes the flags and the bands of the entry. -/
def meteradd (modMeterEntry : E → Meter) (conf : MeterConf E) : Ofmsg :=
  .meterMod (.add conf.meterId (modMeterEntry conf.entry))

/-- `ignore_subconf` of meters. -/
def ignoreSubconf [DecidableEq E] (conf other : MeterConf E) : Bool :=
  conf.entry == other.entry && conf.meterId == other.meterId

end MeterConf

/-- `meterdel`, whose first argument is the datapath. -/
def meterdel (_datapath meterId : Option Nat) : Ofmsg := .meterMod (.delete (meterId.getD ofpmAll))

/-- `controller_pps_meteradd` and `slowpath_pps_meteradd`. -/
def ppsMeteradd (meterId pps : Nat) : Ofmsg :=
  .meterMod (.add meterId { flags := ofpmfPktps, bands := [(ofpmbtDrop, pps)] })

namespace Dp

variable (dp : Dp K E) (modMeterEntry : E → Meter)

/-- `_add_packetin_meter` -/
def addPacketinMeter : List Ofmsg :=
  if dp.packetinPps = 0 then [] else [ppsMeteradd ofpmController dp.packetinPps]

/-- `_add_slowpath_meter` -/
def addSlowpathMeter : List Ofmsg :=
  if dp.slowpathPps = 0 then [] else [ppsMeteradd ofpmSlowpath dp.slowpathPps]

/-- The adds of the meters with these keys. -/
def addMeters (addedMeters : List K) : List Ofmsg :=
  (addedMeters.filterMap dp.meter).map (·.meteradd modMeterEntry)

/-- `del_meters` -/
def delMeters (deletedMeters : List K) : List Ofmsg :=
  (deletedMeters.filterMap dp.meter).map fun conf => meterdel (some conf.meterId) none

/-- The meters that `_add_default_flows` installs. -/
def defaultMeters : List Ofmsg :=
  dp.addPacketinMeter ++ dp.addSlowpathMeter ++ dp.addMeters modMeterEntry dp.keys

end Dp

/-! ## The restart -/

section Changes

variable [DecidableEq K] [DecidableEq E] (old new : Dp K E)

/-- The meters that the new configuration does not have. -/
def deletedMeters : List K := old.keys.filter fun key => key ∉ new.keys

/-- The meters that the old configuration does not have. -/
def addedMeters : List K := new.keys.filter fun key => (old.meter key).isNone

/-- Both configurations have the key, with the same configuration. -/
def sameMeter (key : K) : Bool :=
  match old.meter key, new.meter key with
  | some conf, some conf' => conf.ignoreSubconf conf'
  | _, _ => false

/-- The meters that both have and that differ. -/
def changedMeters : List K :=
  new.keys.filter fun key => (old.meter key).isSome && !sameMeter old new key

end Changes

/-- A reload without a cold start: the rates for packet ins are part of what starts one.
The messages of the other parts go before, between and after those of the meters. -/
structure WarmRestart (K E : Type) where
  old : Dp K E
  new : Dp K E
  samePacketin : old.packetinPps = new.packetinPps
  sameSlowpath : old.slowpathPps = new.slowpathPps
  portsDelete : List Ofmsg
  delVlans : List Ofmsg
  additions : List Ofmsg
  noMeters : ∀ ofmsg ∈ portsDelete ++ delVlans ++ additions, ofmsg.meterMod? = none

namespace WarmRestart

variable [DecidableEq K] [DecidableEq E] (restart : WarmRestart K E) (iteration : Iteration K)
  (modMeterEntry : E → Meter)

/-- The messages about meters that are deletes. -/
def meterDeletes : List Ofmsg :=
  if restart.old.hasAcls then
    restart.old.delMeters (iteration.run
      (deletedMeters restart.old restart.new ++ changedMeters restart.old restart.new))
  else []

/-- The messages about meters that are adds. -/
def meterAdds : List Ofmsg :=
  if restart.new.hasAcls then
    restart.new.addMeters modMeterEntry (iteration.run
      (addedMeters restart.old restart.new ++ changedMeters restart.old restart.new))
  else []

/-- `_apply_config_changes`. -/
def applyConfigChanges : List Ofmsg :=
  restart.portsDelete ++ restart.meterDeletes iteration ++ restart.delVlans ++
    restart.meterAdds iteration modMeterEntry ++ restart.additions

end WarmRestart

end Model

/-! ## The switch -/

/-- The flow goes through the meter. -/
def usesMeter (meterId : Nat) (entry : FlowEntry) : Bool :=
  entry.instructions.any fun instruction => match instruction with
    | .meter id => meterId == ofpmAll || id == meterId
    | _ => false

/-- The switch handles a message; flows go with the meter that they use. -/
def follow (switch : Switch) : Ofmsg → Switch
  | .meterMod (.delete meterId) =>
      { switch.handle (.meterMod (.delete meterId)) with
        flows := fun id => (switch.flows id).filter fun entry => !usesMeter meterId entry }
  | ofmsg => switch.handle ofmsg

/-- The switch handles the messages in their order. -/
def followAll (switch : Switch) (ofmsgs : List Ofmsg) : Switch := ofmsgs.foldl follow switch

section Meant

variable {K E : Type} (modMeterEntry : E → Meter)

namespace Dp

variable (dp : Dp K E)

/-- The configuration has a meter with this content under this id. -/
def Defines (meterId : Nat) (meter : Meter) : Prop :=
  .meterMod (.add meterId meter) ∈ dp.defaultMeters modMeterEntry

/-- The switch has just the meters of the configuration. -/
def Holds (switch : Switch) : Prop :=
  ∀ meterId meter, switch.meters meterId = some meter ↔ dp.Defines modMeterEntry meterId meter

/-- Meters with one id have one content. -/
def Coherent : Prop :=
  ∀ meterId meter meter', dp.Defines modMeterEntry meterId meter →
    dp.Defines modMeterEntry meterId meter' → meter = meter'

end Dp

variable [DecidableEq K] [DecidableEq E] (restart : WarmRestart K E) (iteration : Iteration K)
  (shuffle : Shuffle) (useBarriers : Bool)

/-- Both configurations define the meter, alike. -/
def Unchanged (old new : Dp K E) (meterId : Nat) : Prop :=
  ∃ key conf, sameMeter old new key = true ∧ new.meter key = some conf ∧ conf.meterId = meterId

/-- What the messages are meant to do to a switch with the meters of the old configuration. -/
structure Keeps (switch : Switch) (ofmsgs : List Ofmsg) : Prop where
  holds : restart.new.Holds modMeterEntry (followAll switch ofmsgs)
  notDeleted : ∀ meterId, Unchanged restart.old restart.new meterId →
    ∀ ofmsg ∈ ofmsgs, deletesEntry Ofmsg.meterMod? ofpmAll meterId ofmsg = false
  flowsStay : ∀ meterId, Unchanged restart.old restart.new meterId →
    ∀ done mod rest, ofmsgs = done ++ .meterMod mod :: rest →
      ∀ flow entry, (followAll switch done).flows flow = some entry →
        .meter meterId ∈ entry.instructions →
          (follow (followAll switch done) (.meterMod mod)).flows flow = some entry

/-- The reordered messages are sent, and do what they are meant to do to every switch with the
meters of the old configuration. -/
def KeepsMeters : Prop :=
  ∃ sent, valveFlowreorder shuffle useBarriers
      (restart.applyConfigChanges iteration modMeterEntry) = some sent ∧
    ∀ switch, restart.old.Holds modMeterEntry switch → Keeps modMeterEntry restart switch sent

/-- There is a meter to delete, and a manager for it. -/
def Deletes : Prop :=
  restart.old.hasAcls = true ∧
    (deletedMeters restart.old restart.new ≠ [] ∨ changedMeters restart.old restart.new ≠ [])

/-- The condition on two configurations: with a delete there is no meter to keep and a manager
for the meters to add; without one the old meters stay, and the others are added. -/
structure MetersSafe : Prop where
  coherent : restart.new.Coherent modMeterEntry
  nothingKept : Deletes restart →
    (∀ key, sameMeter restart.old restart.new key = false) ∧ restart.new.packetinPps = 0 ∧
      restart.new.slowpathPps = 0 ∧ (restart.new.hasAcls = true ∨ restart.new.keys = [])
  allKept : ¬ Deletes restart → ∀ meterId meter,
    (restart.old.Defines modMeterEntry meterId meter →
      restart.new.Defines modMeterEntry meterId meter) ∧
    (restart.new.Defines modMeterEntry meterId meter →
      restart.old.Defines modMeterEntry meterId meter ∨ restart.new.hasAcls = true)

end Meant

/-! ## The messages about meters -/

section Messages

variable {K E : Type} {modMeterEntry : E → Meter} {dp : Dp K E} {keys : List K} {ofmsg : Ofmsg}
  {meterId : Nat} {meter : Meter}

namespace Dp

theorem mem_addMeters : ofmsg ∈ dp.addMeters modMeterEntry keys ↔
    ∃ key ∈ keys, ∃ conf, dp.meter key = some conf ∧ conf.meteradd modMeterEntry = ofmsg := by
  simp only [addMeters, List.mem_map, List.mem_filterMap]
  constructor
  · rintro ⟨conf, ⟨key, member, found⟩, same⟩
    exact ⟨key, member, conf, found, same⟩
  · rintro ⟨key, member, conf, found, same⟩
    exact ⟨conf, ⟨key, member, found⟩, same⟩

/-- Every message of `del_meters` deletes all of the meters. -/
theorem eq_of_mem_delMeters (member : ofmsg ∈ dp.delMeters keys) :
    ofmsg = .meterMod (.delete ofpmAll) := by
  obtain ⟨_, _, rfl⟩ := List.mem_map.mp member
  rfl

theorem delMeters_ne_nil (known : ∀ key ∈ keys, key ∈ dp.keys) :
    dp.delMeters keys ≠ [] ↔ keys ≠ [] := by
  cases keys with
  | nil => simp [delMeters]
  | cons key rest =>
      obtain ⟨conf, found⟩ :=
        Option.isSome_iff_exists.mp ((dp.mem_keys key).mp (known key List.mem_cons_self))
      simp [delMeters, found]

theorem defines_iff : dp.Defines modMeterEntry meterId meter ↔
    (dp.packetinPps ≠ 0 ∧ ppsMeteradd ofpmController dp.packetinPps =
        .meterMod (.add meterId meter)) ∨
      (dp.slowpathPps ≠ 0 ∧ ppsMeteradd ofpmSlowpath dp.slowpathPps =
        .meterMod (.add meterId meter)) ∨
      ∃ key conf, dp.meter key = some conf ∧
        conf.meteradd modMeterEntry = .meterMod (.add meterId meter) := by
  have listed : (∃ key ∈ dp.keys, ∃ conf, dp.meter key = some conf ∧
      conf.meteradd modMeterEntry = .meterMod (.add meterId meter)) ↔
      ∃ key conf, dp.meter key = some conf ∧
        conf.meteradd modMeterEntry = .meterMod (.add meterId meter) := by
    constructor
    · rintro ⟨key, _, conf, found⟩
      exact ⟨key, conf, found⟩
    · rintro ⟨key, conf, found, same⟩
      exact ⟨key, (dp.mem_keys key).mpr (by rw [found]; rfl), conf, found, same⟩
  rw [Defines, defaultMeters, List.mem_append, List.mem_append, mem_addMeters, listed, or_assoc]
  refine or_congr ?_ (or_congr_left ?_)
  · by_cases none : dp.packetinPps = 0
    · simp [addPacketinMeter, none]
    · simp [addPacketinMeter, none, eq_comm]
  · by_cases none : dp.slowpathPps = 0
    · simp [addSlowpathMeter, none]
    · simp [addSlowpathMeter, none, eq_comm]

/-- The meters of the dictionary have ids below those of the meters for packet ins. -/
theorem meterId_of_meteradd {conf : MeterConf E}
    (same : conf.meteradd modMeterEntry = .meterMod (.add meterId meter)) :
    meterId ≠ ofpmController ∧ meterId ≠ ofpmSlowpath := by
  cases same
  have := conf.inRange
  rw [ofpmController, ofpmSlowpath]
  omega

end Dp

namespace WarmRestart

variable [DecidableEq K] [DecidableEq E] {restart : WarmRestart K E} {iteration : Iteration K}

omit [DecidableEq E] in
theorem mem_deletedMeters {old new : Dp K E} {key : K} :
    key ∈ deletedMeters old new ↔ key ∈ old.keys ∧ key ∉ new.keys := by
  rw [deletedMeters, List.mem_filter, decide_eq_true_eq]

omit [DecidableEq K] in
theorem mem_changedMeters {old new : Dp K E} {key : K} :
    key ∈ changedMeters old new ↔
      key ∈ old.keys ∧ key ∈ new.keys ∧ sameMeter old new key = false := by
  rw [changedMeters, List.mem_filter, Bool.and_eq_true, Bool.not_eq_true', old.mem_keys]
  tauto

omit [DecidableEq K] in
/-- The meters that are added anew: those that are not the same. -/
theorem mem_added {old new : Dp K E} {key : K} :
    key ∈ addedMeters old new ++ changedMeters old new ↔
      key ∈ new.keys ∧ sameMeter old new key = false := by
  rw [List.mem_append, mem_changedMeters, addedMeters, List.mem_filter, old.mem_keys]
  cases present : old.meter key with
  | none => simp [sameMeter, present]
  | some conf => simp

theorem eq_of_mem_meterDeletes (member : ofmsg ∈ restart.meterDeletes iteration) :
    ofmsg = .meterMod (.delete ofpmAll) := by
  rw [meterDeletes] at member
  split at member
  · exact Dp.eq_of_mem_delMeters member
  · cases member

theorem meterDeletes_ne_nil : restart.meterDeletes iteration ≠ [] ↔ Deletes restart := by
  rw [meterDeletes, Deletes]
  split
  next hasAcls =>
    rw [Dp.delMeters_ne_nil, ← List.length_pos_iff, (iteration.perm _).length_eq,
      List.length_pos_iff, ne_eq, List.append_eq_nil_iff, not_and_or]
    · simp [hasAcls]
    · intro key member
      rw [(iteration.perm _).mem_iff, List.mem_append] at member
      exact member.elim (fun deleted => (mem_deletedMeters.mp deleted).1)
        (fun changed => (mem_changedMeters.mp changed).1)
  next hasAcls => simp [hasAcls]

omit [DecidableEq K] in
theorem mem_meterAdds : ofmsg ∈ restart.meterAdds iteration modMeterEntry ↔
    restart.new.hasAcls = true ∧ ∃ key conf, sameMeter restart.old restart.new key = false ∧
      restart.new.meter key = some conf ∧ conf.meteradd modMeterEntry = ofmsg := by
  rw [meterAdds]
  split
  next hasAcls =>
    simp only [Dp.mem_addMeters, (iteration.perm _).mem_iff, mem_added, hasAcls, true_and]
    constructor
    · rintro ⟨key, ⟨_, other⟩, conf, found⟩
      exact ⟨key, conf, other, found⟩
    · rintro ⟨key, conf, other, found, same⟩
      exact ⟨key, ⟨(restart.new.mem_keys key).mpr (by rw [found]; rfl), other⟩, conf, found, same⟩
  next hasAcls => simp [hasAcls]

/-- The messages of the other parts. -/
def others (restart : WarmRestart K E) : List Ofmsg :=
  restart.portsDelete ++ restart.delVlans ++ restart.additions

omit [DecidableEq K] [DecidableEq E] in
theorem meterMod?_of_mem_others (member : ofmsg ∈ restart.others) : ofmsg.meterMod? = none :=
  restart.noMeters ofmsg member

theorem mem_applyConfigChanges : ofmsg ∈ restart.applyConfigChanges iteration modMeterEntry ↔
    ofmsg ∈ restart.others ∨ ofmsg ∈ restart.meterDeletes iteration ∨
      ofmsg ∈ restart.meterAdds iteration modMeterEntry := by
  simp only [applyConfigChanges, others, List.mem_append]
  tauto

/-- A message that deletes a meter is one of `del_meters`. -/
theorem mem_meterDeletes_of_deletesEntry
    (member : ofmsg ∈ restart.applyConfigChanges iteration modMeterEntry)
    (deletes : deletesEntry Ofmsg.meterMod? ofpmAll meterId ofmsg = true) :
    ofmsg ∈ restart.meterDeletes iteration := by
  rcases mem_applyConfigChanges.mp member with other | deleted | added
  · rw [deletesEntry, meterMod?_of_mem_others other] at deletes
    cases deletes
  · exact deleted
  · obtain ⟨_, _, conf, _, _, rfl⟩ := mem_meterAdds.mp added
    cases deletes

theorem any_deletesEntry : (restart.applyConfigChanges iteration modMeterEntry).any
    (deletesEntry Ofmsg.meterMod? ofpmAll meterId) = true ↔ Deletes restart := by
  have deletes_iff : restart.meterDeletes iteration ≠ [] ↔ Deletes restart := meterDeletes_ne_nil
  rw [List.any_eq_true, ← deletes_iff]
  constructor
  · rintro ⟨ofmsg, member, deletes⟩
    exact List.ne_nil_of_mem (mem_meterDeletes_of_deletesEntry member deletes)
  · intro some_delete
    obtain ⟨ofmsg, member⟩ := List.exists_mem_of_ne_nil _ some_delete
    refine ⟨ofmsg, mem_applyConfigChanges.mpr (.inr (.inl member)), ?_⟩
    rw [eq_of_mem_meterDeletes member]
    simp [deletesEntry, Ofmsg.meterMod?]

omit [DecidableEq K] in
/-- What is added is a meter of the new configuration. -/
theorem defines_of_mem_meterAdds
    (member : .meterMod (.add meterId meter) ∈ restart.meterAdds iteration modMeterEntry) :
    restart.new.Defines modMeterEntry meterId meter := by
  obtain ⟨_, key, conf, _, found, same⟩ := mem_meterAdds.mp member
  exact Dp.defines_iff.mpr (.inr (.inr ⟨key, conf, found, same⟩))

omit [DecidableEq K] in
/-- A meter of the new configuration is one of the old configuration, or not the same. -/
theorem defines_new_cases (defines : restart.new.Defines modMeterEntry meterId meter) :
    restart.old.Defines modMeterEntry meterId meter ∨
      ∃ key conf, sameMeter restart.old restart.new key = false ∧
        restart.new.meter key = some conf ∧
        conf.meteradd modMeterEntry = .meterMod (.add meterId meter) := by
  rcases Dp.defines_iff.mp defines with packetin | slowpath | ⟨key, conf, found, same⟩
  · rw [← restart.samePacketin] at packetin
    exact .inl (Dp.defines_iff.mpr (.inl packetin))
  · rw [← restart.sameSlowpath] at slowpath
    exact .inl (Dp.defines_iff.mpr (.inr (.inl slowpath)))
  · cases unchanged : sameMeter restart.old restart.new key with
    | false => exact .inr ⟨key, conf, unchanged, found, same⟩
    | true =>
        rw [sameMeter, found] at unchanged
        cases before : restart.old.meter key with
        | none =>
            rw [before] at unchanged
            cases unchanged
        | some conf' =>
            simp only [before, MeterConf.ignoreSubconf, Bool.and_eq_true, beq_iff_eq] at unchanged
            refine .inl (Dp.defines_iff.mpr (.inr (.inr ⟨key, conf', before, ?_⟩)))
            rw [← same, MeterConf.meteradd, MeterConf.meteradd, unchanged.1, unchanged.2]

theorem mem_meterAdds_of_addedContent
    (member : ofmsg ∈ restart.applyConfigChanges iteration modMeterEntry)
    (adds : addedContent Ofmsg.meterMod? meterId ofmsg = some meter) :
    .meterMod (.add meterId meter) ∈ restart.meterAdds iteration modMeterEntry := by
  rcases mem_applyConfigChanges.mp member with other | deleted | added
  · rw [addedContent, meterMod?_of_mem_others other] at adds
    cases adds
  · rw [eq_of_mem_meterDeletes deleted] at adds
    cases adds
  · obtain ⟨_, _, conf, _, _, rfl⟩ := mem_meterAdds.mp added
    simp only [addedContent, MeterConf.meteradd, Ofmsg.meterMod?, Option.ite_none_right_eq_some,
      Option.some.injEq] at adds
    obtain ⟨rfl, rfl⟩ := adds
    exact added

/-- The first add of an id is the only content that is added under it. -/
theorem findSome?_addedContent (coherent : restart.new.Coherent modMeterEntry) :
    (restart.applyConfigChanges iteration modMeterEntry).findSome?
        (addedContent Ofmsg.meterMod? meterId) = some meter ↔
      .meterMod (.add meterId meter) ∈ restart.meterAdds iteration modMeterEntry := by
  constructor
  · intro first
    obtain ⟨ofmsg, member, adds⟩ := List.exists_of_findSome?_eq_some first
    exact mem_meterAdds_of_addedContent member adds
  · intro member
    cases first : (restart.applyConfigChanges iteration modMeterEntry).findSome?
        (addedContent Ofmsg.meterMod? meterId) with
    | none =>
        have adds := List.findSome?_eq_none_iff.mp first _
          (mem_applyConfigChanges.mpr (.inr (.inr member)))
        simp [addedContent, Ofmsg.meterMod?] at adds
    | some other =>
        obtain ⟨ofmsg, present, adds⟩ := List.exists_of_findSome?_eq_some first
        rw [coherent meterId other meter
          (defines_of_mem_meterAdds (mem_meterAdds_of_addedContent present adds))
          (defines_of_mem_meterAdds member)]

/-- The other messages alone decide whether the pass fails. -/
theorem mixesDeletes_iff :
    MixesDeletes (restart.applyConfigChanges iteration modMeterEntry) ↔
      MixesDeletes restart.others := by
  have kindOf : ∀ ofmsg ∈ restart.applyConfigChanges iteration modMeterEntry,
      ofmsg ∈ restart.others ∨ msgType ofmsg = .meterMod ∧ msgKind ofmsg ≠ .delete := by
    intro ofmsg member
    rcases mem_applyConfigChanges.mp member with other | deleted | added
    · exact .inl other
    · rw [eq_of_mem_meterDeletes deleted]
      exact .inr ⟨rfl, by simp [msgKind, EntryMod.msgKind]⟩
    · obtain ⟨_, _, conf, _, _, rfl⟩ := mem_meterAdds.mp added
      exact .inr ⟨rfl, by simp [msgKind, EntryMod.msgKind, MeterConf.meteradd]⟩
  have notMeter : ∀ ofmsg ∈ restart.others, msgType ofmsg ≠ .meterMod := by
    intro ofmsg member type
    have selected := (meterMod?_type ofmsg).mpr type
    rw [meterMod?_of_mem_others member] at selected
    cases selected
  have present : ∀ ofmsg ∈ restart.others,
      ofmsg ∈ restart.applyConfigChanges iteration modMeterEntry :=
    fun ofmsg member => mem_applyConfigChanges.mpr (.inl member)
  have suppressed : ∀ ofmsg ∈ restart.others,
      (Suppressed (restart.applyConfigChanges iteration modMeterEntry) ofmsg ↔
        Suppressed restart.others ofmsg) := by
    intro ofmsg member
    constructor
    · rintro ⟨wide, inBatch, kind, type⟩
      rcases kindOf wide inBatch with other | ⟨meterType, _⟩
      · exact ⟨wide, other, kind, type⟩
      · exact absurd (type.symm.trans meterType) (notMeter ofmsg member)
    · rintro ⟨wide, other, kind, type⟩
      exact ⟨wide, present wide other, kind, type⟩
  have deletes : ∀ P : Ofmsg → Prop,
      (∃ ofmsg ∈ restart.applyConfigChanges iteration modMeterEntry, msgKind ofmsg = .delete ∧
        ¬ Suppressed (restart.applyConfigChanges iteration modMeterEntry) ofmsg ∧ P ofmsg) ↔
      ∃ ofmsg ∈ restart.others, msgKind ofmsg = .delete ∧
        ¬ Suppressed restart.others ofmsg ∧ P ofmsg := by
    intro P
    constructor
    · rintro ⟨ofmsg, inBatch, kind, kept, holds⟩
      rcases kindOf ofmsg inBatch with other | ⟨_, notDelete⟩
      · exact ⟨ofmsg, other, kind, mt (suppressed ofmsg other).mpr kept, holds⟩
      · exact absurd kind notDelete
    · rintro ⟨ofmsg, other, kind, kept, holds⟩
      exact ⟨ofmsg, present ofmsg other, kind, mt (suppressed ofmsg other).mp kept, holds⟩
  rw [MixesDeletes, MixesDeletes, deletes, deletes, deletes]

end WarmRestart

end Messages

/-! ## What the restart does -/

theorem followAll_meters (switch : Switch) (ofmsgs : List Ofmsg) (meterId : Nat) :
    (followAll switch ofmsgs).meters meterId = (switch.applyAll ofmsgs).meters meterId := by
  have agree : ∀ first second : Switch, first.meters = second.meters →
      (followAll first ofmsgs).meters = (second.applyAll ofmsgs).meters := by
    induction ofmsgs with
    | nil => exact fun _ _ same => same
    | cons ofmsg rest ih =>
        intro first second same
        refine ih _ _ ?_
        cases ofmsg with
        | groupMod mod => cases mod <;> exact same
        | meterMod mod => cases mod <;> simp only [follow, Switch.handle, Switch.apply, same]
        | _ => exact same
  exact congrFun (agree switch switch rfl) meterId

section Restart

variable {K E : Type} [DecidableEq K] [DecidableEq E] {modMeterEntry : E → Meter}
  {restart : WarmRestart K E} {iteration : Iteration K} {shuffle : Shuffle} {useBarriers : Bool}
  {sent : List Ofmsg} {switch : Switch} {meterId : Nat} {meter : Meter}

omit [DecidableEq K] [DecidableEq E] in
/-- There is a switch with the meters when each id has one content. -/
theorem exists_holds {dp : Dp K E} (coherent : dp.Coherent modMeterEntry) :
    ∃ switch, dp.Holds modMeterEntry switch := by
  classical
  refine ⟨⟨fun _ => none, fun _ => none, fun meterId =>
    if defined : ∃ meter, dp.Defines modMeterEntry meterId meter then some defined.choose
    else none⟩, ?_⟩
  intro meterId meter
  dsimp only
  split
  next defined =>
    rw [Option.some.injEq]
    constructor
    · rintro rfl
      exact defined.choose_spec
    · exact coherent meterId _ _ defined.choose_spec
  next undefined => exact iff_of_false nofun fun defines => undefined ⟨meter, defines⟩

omit [DecidableEq K] [DecidableEq E] in
theorem coherent_of_holds {dp : Dp K E} (holds : dp.Holds modMeterEntry switch) :
    dp.Coherent modMeterEntry := by
  intro meterId meter meter' defines defines'
  have found := (holds meterId meter).mpr defines
  rw [(holds meterId meter').mpr defines'] at found
  exact (Option.some.inj found).symm

variable (returns : valveFlowreorder shuffle useBarriers
  (restart.applyConfigChanges iteration modMeterEntry) = some sent)

include returns

/-- The meters after the restart: the old ones unless there is a delete, and those that are
added. -/
theorem followAll_sent_meters (switch : Switch) (meterId : Nat) [Decidable (Deletes restart)] :
    (followAll switch sent).meters meterId =
      (if Deletes restart then none else switch.meters meterId).or
        ((restart.applyConfigChanges iteration modMeterEntry).findSome?
          (addedContent Ofmsg.meterMod? meterId)) := by
  obtain ⟨deletes, returned, rfl⟩ := Option.map_eq_some_iff.mp returns
  rw [followAll_meters, Switch.applyAll_meters, selects_meterMod.foldl_reordered returned]
  congr 1
  by_cases some_delete : Deletes restart
  · rw [if_pos some_delete, if_pos (WarmRestart.any_deletesEntry.mpr some_delete)]
  · rw [if_neg some_delete, if_neg (mt WarmRestart.any_deletesEntry.mp some_delete)]

theorem delete_sent (some_delete : Deletes restart) :
    Ofmsg.meterMod (.delete ofpmAll) ∈ sent := by
  have some_message : restart.meterDeletes iteration ≠ [] :=
    WarmRestart.meterDeletes_ne_nil.mpr some_delete
  obtain ⟨ofmsg, member⟩ := List.exists_mem_of_ne_nil _ some_message
  cases WarmRestart.eq_of_mem_meterDeletes member
  exact reordered_of_global returns (WarmRestart.mem_applyConfigChanges.mpr (.inr (.inl member)))
    rfl

theorem deletes_of_sent {ofmsg : Ofmsg} (member : ofmsg ∈ sent)
    (removes : deletesEntry Ofmsg.meterMod? ofpmAll meterId ofmsg = true) : Deletes restart := by
  rcases mem_of_reordered returns member with inBatch | rfl
  · exact WarmRestart.meterDeletes_ne_nil.mp
      (List.ne_nil_of_mem (WarmRestart.mem_meterDeletes_of_deletesEntry inBatch removes))
  · cases removes

/-- With a delete, a meter that both configurations have alike is deleted. -/
theorem not_keeps_of_unchanged (some_delete : Deletes restart)
    (unchanged : Unchanged restart.old restart.new meterId) :
    ¬ Keeps modMeterEntry restart switch sent := by
  intro keeps
  have kept := keeps.notDeleted meterId unchanged _ (delete_sent returns some_delete)
  simp [deletesEntry, Ofmsg.meterMod?] at kept

theorem holds_of_safe (safe : MetersSafe modMeterEntry restart)
    (holds : restart.old.Holds modMeterEntry switch) :
    restart.new.Holds modMeterEntry (followAll switch sent) := by
  classical
  intro meterId meter
  rw [followAll_sent_meters returns]
  by_cases some_delete : Deletes restart
  · obtain ⟨noneSame, noPacketin, noSlowpath, managed⟩ := safe.nothingKept some_delete
    rw [if_pos some_delete, Option.none_or, WarmRestart.findSome?_addedContent safe.coherent]
    refine ⟨WarmRestart.defines_of_mem_meterAdds, fun defines => ?_⟩
    rcases Dp.defines_iff.mp defines with ⟨pps, _⟩ | ⟨pps, _⟩ | ⟨key, conf, found, same⟩
    · exact absurd noPacketin pps
    · exact absurd noSlowpath pps
    · refine WarmRestart.mem_meterAdds.mpr ⟨?_, key, conf, noneSame key, found, same⟩
      refine managed.resolve_right fun empty => ?_
      have member := (restart.new.mem_keys key).mpr (by rw [found]; rfl)
      rw [empty] at member
      cases member
  · obtain keeps := safe.allKept some_delete
    rw [if_neg some_delete]
    constructor
    · intro found
      rcases Option.or_eq_some_iff.mp found with before | ⟨_, added⟩
      · exact (keeps meterId meter).1 ((holds meterId meter).mp before)
      · exact WarmRestart.defines_of_mem_meterAdds
          ((WarmRestart.findSome?_addedContent safe.coherent).mp added)
    · intro defines
      rw [Option.or_eq_some_iff]
      cases before : switch.meters meterId with
      | some other =>
          have old := (keeps meterId other).1 ((holds meterId other).mp before)
          rw [safe.coherent meterId meter other defines old]
          exact .inl rfl
      | none =>
          have notOld : ¬ restart.old.Defines modMeterEntry meterId meter := by
            intro old
            rw [(holds meterId meter).mpr old] at before
            cases before
          refine .inr ⟨rfl, (WarmRestart.findSome?_addedContent safe.coherent).mpr ?_⟩
          obtain ⟨key, conf, new⟩ := (WarmRestart.defines_new_cases defines).resolve_left notOld
          exact WarmRestart.mem_meterAdds.mpr
            ⟨((keeps meterId meter).2 defines).resolve_left notOld, key, conf, new⟩

/-- The condition is enough. -/
theorem keeps_of_safe (safe : MetersSafe modMeterEntry restart)
    (holds : restart.old.Holds modMeterEntry switch) :
    Keeps modMeterEntry restart switch sent where
  holds := holds_of_safe returns safe holds
  notDeleted := by
    intro meterId ⟨key, _, same, _⟩ ofmsg member
    rw [Bool.eq_false_iff]
    intro removes
    have noneSame := (safe.nothingKept (deletes_of_sent returns member removes)).1 key
    rw [same] at noneSame
    cases noneSame
  flowsStay := by
    rintro meterId ⟨key, _, same, _⟩ done mod rest rfl flow entry present _
    cases mod with
    | add => exact present
    | delete deleted =>
        have removes : deletesEntry Ofmsg.meterMod? ofpmAll deleted
            (.meterMod (.delete deleted)) = true := by simp [deletesEntry, Ofmsg.meterMod?]
        have noneSame := (safe.nothingKept (deletes_of_sent returns (by simp) removes)).1 key
        rw [same] at noneSame
        cases noneSame

/-- The condition is needed. -/
theorem safe_of_keeps (holds : restart.old.Holds modMeterEntry switch)
    (keeps : Keeps modMeterEntry restart switch sent) : MetersSafe modMeterEntry restart := by
  classical
  have coherent := coherent_of_holds keeps.holds
  have added_of_defines : ∀ {meterId meter}, Deletes restart →
      restart.new.Defines modMeterEntry meterId meter →
      .meterMod (.add meterId meter) ∈ restart.meterAdds iteration modMeterEntry := by
    intro meterId meter some_delete defines
    have found := (keeps.holds meterId meter).mpr defines
    rw [followAll_sent_meters returns, if_pos some_delete, Option.none_or,
      WarmRestart.findSome?_addedContent coherent] at found
    exact found
  have noPps : ∀ pps meterId, Deletes restart → meterId = ofpmController ∨ meterId = ofpmSlowpath →
      ¬ ppsMeteradd meterId pps ∈ restart.new.defaultMeters modMeterEntry := by
    intro pps meterId some_delete reserved defines
    obtain ⟨_, _, conf, _, _, same⟩ :=
      WarmRestart.mem_meterAdds.mp (added_of_defines some_delete defines)
    have apart := Dp.meterId_of_meteradd same
    exact reserved.elim apart.1 apart.2
  refine ⟨coherent, fun some_delete => ⟨fun key => ?_, ?_, ?_, ?_⟩, fun noDelete meterId meter =>
    ⟨fun old => ?_, fun new => ?_⟩⟩
  · rw [Bool.eq_false_iff]
    intro same
    have found : ∃ conf, restart.new.meter key = some conf := by
      rw [sameMeter] at same
      split at same
      next conf conf' _ found => exact ⟨conf', found⟩
      next => cases same
    obtain ⟨conf, found⟩ := found
    exact not_keeps_of_unchanged returns some_delete ⟨key, conf, same, found, rfl⟩ keeps
  · by_contra pps
    exact noPps _ _ some_delete (.inl rfl) (Dp.defines_iff.mpr (.inl ⟨pps, rfl⟩))
  · by_contra pps
    exact noPps _ _ some_delete (.inr rfl) (Dp.defines_iff.mpr (.inr (.inl ⟨pps, rfl⟩)))
  · by_cases empty : restart.new.keys = []
    · exact .inr empty
    · obtain ⟨key, member⟩ := List.exists_mem_of_ne_nil _ empty
      obtain ⟨conf, found⟩ := Option.isSome_iff_exists.mp ((restart.new.mem_keys key).mp member)
      have defines : restart.new.Defines modMeterEntry conf.meterId (modMeterEntry conf.entry) :=
        Dp.defines_iff.mpr (.inr (.inr ⟨key, conf, found, rfl⟩))
      exact .inl (WarmRestart.mem_meterAdds.mp (added_of_defines some_delete defines)).1
  · rw [← keeps.holds, followAll_sent_meters returns, if_neg noDelete, (holds meterId meter).mpr old]
    rfl
  · have found := (keeps.holds meterId meter).mpr new
    rw [followAll_sent_meters returns, if_neg noDelete, Option.or_eq_some_iff] at found
    rcases found with before | ⟨_, added⟩
    · exact .inl ((holds meterId meter).mp before)
    · exact .inr (WarmRestart.mem_meterAdds.mp
        ((WarmRestart.findSome?_addedContent coherent).mp added)).1

omit returns in
/-- **The restart keeps the meters** just when the pass returns, and there is no switch with the
old meters or the configurations are safe. -/
theorem keepsMeters_iff :
    KeepsMeters modMeterEntry restart iteration shuffle useBarriers ↔
      ¬ MixesDeletes restart.others ∧
        (restart.old.Coherent modMeterEntry → MetersSafe modMeterEntry restart) := by
  have mixes_iff : MixesDeletes (restart.applyConfigChanges iteration modMeterEntry) ↔
      MixesDeletes restart.others := WarmRestart.mixesDeletes_iff
  have returns_iff : (∃ sent, valveFlowreorder shuffle useBarriers
      (restart.applyConfigChanges iteration modMeterEntry) = some sent) ↔
      ¬ MixesDeletes restart.others := by
    rw [← mixes_iff, ← mixesDeletes_iff, ← dedupeOverlapsOfmsgs_eq_none,
      ← Option.ne_none_iff_exists', valveFlowreorder, ne_eq, Option.map_eq_none_iff]
  constructor
  · rintro ⟨sent, returns, keeps⟩
    refine ⟨returns_iff.mp ⟨sent, returns⟩, fun coherent => ?_⟩
    obtain ⟨switch, holds⟩ := exists_holds coherent
    exact safe_of_keeps returns holds (keeps switch holds)
  · rintro ⟨unmixed, safe⟩
    obtain ⟨sent, returns⟩ := returns_iff.mpr unmixed
    exact ⟨sent, returns, fun switch holds =>
      keeps_of_safe returns (safe (coherent_of_holds holds)) holds⟩

omit returns

/-- With ACL tables before and after, nothing may be removed or changed, or all is new. -/
theorem metersSafe_iff (oldAcls : restart.old.hasAcls = true) (newAcls : restart.new.hasAcls = true) :
    MetersSafe modMeterEntry restart ↔ restart.new.Coherent modMeterEntry ∧
      (deletedMeters restart.old restart.new = [] ∧ changedMeters restart.old restart.new = [] ∨
        (∀ key, sameMeter restart.old restart.new key = false) ∧ restart.new.packetinPps = 0 ∧
          restart.new.slowpathPps = 0) := by
  have deletes_iff : ¬ Deletes restart ↔
      deletedMeters restart.old restart.new = [] ∧ changedMeters restart.old restart.new = [] := by
    simp [Deletes, oldAcls]
  have old_kept : ¬ Deletes restart → ∀ meterId meter,
      restart.old.Defines modMeterEntry meterId meter →
        restart.new.Defines modMeterEntry meterId meter := by
    intro noDelete meterId meter defines
    obtain ⟨noneDeleted, noneChanged⟩ := deletes_iff.mp noDelete
    rcases Dp.defines_iff.mp defines with packetin | slowpath | ⟨key, conf, found, same⟩
    · rw [restart.samePacketin] at packetin
      exact Dp.defines_iff.mpr (.inl packetin)
    · rw [restart.sameSlowpath] at slowpath
      exact Dp.defines_iff.mpr (.inr (.inl slowpath))
    · have inOld := (restart.old.mem_keys key).mpr (by rw [found]; rfl)
      have inNew : key ∈ restart.new.keys := by
        by_contra missing
        exact List.ne_nil_of_mem (WarmRestart.mem_deletedMeters.mpr ⟨inOld, missing⟩) noneDeleted
      have unchanged : sameMeter restart.old restart.new key = true := by
        rw [← Bool.not_eq_false]
        intro differs
        exact List.ne_nil_of_mem (WarmRestart.mem_changedMeters.mpr ⟨inOld, inNew, differs⟩)
          noneChanged
      rw [sameMeter, found] at unchanged
      cases after : restart.new.meter key with
      | none =>
          rw [after] at unchanged
          cases unchanged
      | some conf' =>
          simp only [after, MeterConf.ignoreSubconf, Bool.and_eq_true, beq_iff_eq] at unchanged
          refine Dp.defines_iff.mpr (.inr (.inr ⟨key, conf', after, ?_⟩))
          rw [← same, MeterConf.meteradd, MeterConf.meteradd, unchanged.1, unchanged.2]
  constructor
  · intro safe
    refine ⟨safe.coherent, or_iff_not_imp_left.mpr fun changed => ?_⟩
    obtain ⟨noneSame, noPacketin, noSlowpath, _⟩ :=
      safe.nothingKept (not_not.mp (mt deletes_iff.mp changed))
    exact ⟨noneSame, noPacketin, noSlowpath⟩
  · rintro ⟨coherent, unchanged | ⟨noneSame, noPacketin, noSlowpath⟩⟩
    · have noDelete := deletes_iff.mpr unchanged
      exact ⟨coherent, fun some_delete => absurd some_delete noDelete,
        fun _ meterId meter => ⟨old_kept noDelete meterId meter, fun _ => .inr newAcls⟩⟩
    · exact ⟨coherent, fun _ => ⟨noneSame, noPacketin, noSlowpath, .inl newAcls⟩,
        fun noDelete meterId meter => ⟨old_kept noDelete meterId meter, fun _ => .inr newAcls⟩⟩

end Restart

/-! ## A meter that is removed -/

/-- One meter of 100 kb/s under id 1, and maybe one of 200 under id 2. -/
def rateMeters (second : Bool) : Dp Nat Nat where
  keys := 0 :: if second then [1] else []
  meter
    | 0 => some ⟨100, 1, by decide⟩
    | 1 => if second then some ⟨200, 2, by decide⟩ else none
    | _ => none
  mem_keys := by
    intro key
    match key with
    | 0 => simp
    | 1 => cases second <;> simp
    | key + 2 => cases second <;> simp
  hasAcls := true
  packetinPps := 0
  slowpathPps := 0

/-- A drop band of `OFPMF_KBPS`. -/
def kbpsMeter (rate : Nat) : Meter := { flags := 1, bands := [(ofpmbtDrop, rate)] }

/-- The second meter goes with the ACL of port 2, whose flows are replaced. -/
def removeSecond : WarmRestart Nat Nat where
  old := rateMeters true
  new := rateMeters false
  samePacketin := rfl
  sameSlowpath := rfl
  portsDelete := []
  delVlans := []
  additions :=
    let port : Match := .single ⟨0, 2, none⟩
    let flow : FlowMod := ⟨.delete, 0, 0, 0x5adc15c0, none, port, [], 0, 0, 1⟩
    [.flowMod flow, .flowMod { flow with
      command := .add, priority := 20480, instructions := [.gotoTable 1], flags := 0 }]
  noMeters := by
    intro ofmsg member
    simp only [List.nil_append, List.mem_cons, List.not_mem_nil, or_false] at member
    rcases member with rfl | rfl <;> rfl

theorem not_keepsMeters_removeSecond :
    ¬ KeepsMeters kbpsMeter removeSecond ⟨id, fun _ => .refl _⟩ ⟨id, fun _ => .refl _⟩ true := by
  rintro ⟨sent, returns, keeps⟩
  have coherent : removeSecond.old.Coherent kbpsMeter := by
    have contents : ∀ meterId meter, removeSecond.old.Defines kbpsMeter meterId meter →
        (meterId, meter) = (1, kbpsMeter 100) ∨ (meterId, meter) = (2, kbpsMeter 200) := by
      intro meterId meter defines
      simpa [Dp.Defines, Dp.defaultMeters, Dp.addPacketinMeter, Dp.addSlowpathMeter, Dp.addMeters,
        removeSecond, rateMeters, MeterConf.meteradd] using defines
    intro meterId meter meter' defines defines'
    have first := contents meterId meter defines
    have second := contents meterId meter' defines'
    simp only [Prod.mk.injEq] at first second
    rcases first with ⟨rfl, rfl⟩ | ⟨rfl, rfl⟩ <;> exact Eq.symm (by simpa using second)
  obtain ⟨switch, holds⟩ := exists_holds coherent
  have some_delete : Deletes removeSecond := ⟨rfl, .inl (by decide)⟩
  have unchanged : Unchanged removeSecond.old removeSecond.new 1 := ⟨0, _, by decide, rfl, rfl⟩
  exact not_keeps_of_unchanged returns some_delete unchanged (keeps switch holds)

end Faucet.Meters
