import Faucet.Config.ChangeReports

/-!
# Comparing configuration objects

An object keeps the settings of the keys of its defaults (`Built.keys`) and, once it has been
finalized, its hash (`Built.hash`). With a hash without collisions two objects are reported to be
the same exactly when every key that is compared looks the same on both sides (`confHash_eq_iff`).
So a report is right exactly unless the settings look the same and differ, or are equal and
look different (`reports_iff`).
-/

set_option autoImplicit false

namespace Faucet.Config.Changes

open PyRepr (Literal repr_injective)

variable {H : Type}

/-! ## Settings by their keys -/

/-- The value of a key of the configuration. -/
def ConfObject.setting (conf : ConfObject H) (key : String) : Value H :=
  (conf.origConf.lookup key).getD (.scalar .null)

/-- A setting is looked at: all are, or it is not sub-configuration. -/
def ConfObject.Sees (conf : ConfObject H) (subconf : Bool) (key : String) : Prop :=
  subconf = true ∨ (conf.setting key).isSubconf ≠ some true

/-- Both settings of a key are looked at and alike, or neither is looked at. -/
def LooksSame (subconf : Bool) (conf other : ConfObject H) (key : String) : Prop :=
  (conf.Sees subconf key ↔ other.Sees subconf key) ∧
    (conf.Sees subconf key → Alike (conf.setting key) (other.setting key))

theorem lookup_of_mem {settings : List (String × Value H)} {key : String} {value : Value H}
    (nodup : (settings.map Prod.fst).Nodup) (member : (key, value) ∈ settings) :
    settings.lookup key = some value := by
  induction settings with
  | nil => cases member
  | cons setting rest ih =>
      obtain ⟨key', value'⟩ := setting
      obtain ⟨absent, nodup'⟩ := List.nodup_cons.mp nodup
      rw [List.lookup_cons]
      rcases List.mem_cons.mp member with same | later
      · obtain ⟨rfl, rfl⟩ := Prod.mk.inj same
        simp
      · have other : ¬ key = key' := by
          rintro rfl
          exact absent (List.mem_map.mpr ⟨_, later, rfl⟩)
        rw [beq_eq_false_iff_ne.mpr other]
        exact ih nodup' later

theorem ConfObject.setting_of_mem {conf : ConfObject H} {key : String} {value : Value H}
    (nodup : (conf.origConf.map Prod.fst).Nodup) (member : (key, value) ∈ conf.origConf) :
    conf.setting key = value := by
  rw [ConfObject.setting, lookup_of_mem nodup member]
  rfl

theorem ConfObject.mem_origConf {conf : ConfObject H} {key : String} {value : Value H}
    (nodup : (conf.origConf.map Prod.fst).Nodup) : (key, value) ∈ conf.origConf ↔
      key ∈ conf.origConf.map Prod.fst ∧ value = conf.setting key := by
  constructor
  · intro member
    exact ⟨List.mem_map_of_mem member, (setting_of_mem nodup member).symm⟩
  · rintro ⟨member, rfl⟩
    obtain ⟨⟨key', value⟩, inside, rfl⟩ := List.mem_map.mp member
    rw [setting_of_mem nodup inside]
    exact inside

/-! ## The keys that are hashed -/

theorem confKeysOf_of_readable {subconf : Bool} {ignoreKeys : List String}
    {settings : List (String × Value H)}
    (readable : ∀ setting ∈ settings, setting.1 ∉ ignoreKeys → subconf = true ∨
      setting.2.isSubconf ≠ none) :
    confKeysOf subconf ignoreKeys settings =
      some ((settings.filter fun setting => setting.1 ∉ ignoreKeys ∧
        (subconf = true ∨ setting.2.isSubconf ≠ some true)).map fun setting =>
          (setting.1, strConf setting.2)) := by
  induction settings with
  | nil => rfl
  | cons setting rest ih =>
      obtain ⟨key, value⟩ := setting
      obtain ⟨first, later⟩ := List.forall_mem_cons.mp readable
      rw [confKeysOf, ih later]
      by_cases ignored : key ∈ ignoreKeys
      · simp [ignored]
      · cases subconf with
        | true => simp [ignored]
        | false =>
            have known : value.isSubconf ≠ none := (first ignored).resolve_left (by simp)
            cases isSubconf : value.isSubconf with
            | none => exact absurd isSubconf known
            | some sub => cases sub <;> simp [ignored, isSubconf]

theorem confKeysOf_eq_none {ignoreKeys : List String} {settings : List (String × Value H)}
    {setting : String × Value H} (member : setting ∈ settings) (taken : setting.1 ∉ ignoreKeys)
    (unreadable : setting.2.isSubconf = none) :
    confKeysOf false ignoreKeys settings = none := by
  induction settings with
  | nil => cases member
  | cons first rest ih =>
      obtain ⟨key, value⟩ := first
      rw [confKeysOf]
      rcases List.mem_cons.mp member with rfl | later
      · simp [taken, unreadable]
      · rw [ih later]
        split
        · rfl
        · cases value.isSubconf with
          | none => rfl
          | some sub => cases sub <;> rfl

section Keys

variable {defaults ignoreKeys : List String} {conf other : ConfObject H} {subconf : Bool}

theorem mem_sortedSettings (keys : conf.origConf.map Prod.fst = defaults)
    {setting : String × Value H} :
    setting ∈ ((conf.origConf.filter fun setting => setting.1 ∈ defaults).insertionSort
      fun setting setting' => setting.1 ≤ setting'.1) ↔ setting ∈ conf.origConf := by
  rw [List.mem_insertionSort, List.mem_filter]
  constructor
  · exact And.left
  · intro member
    exact ⟨member, decide_eq_true (keys ▸ List.mem_map_of_mem member)⟩

/-- The keys of the settings that are looked at, with what is printed of them. -/
theorem ConfObject.confKeys_of_readable (keys : conf.origConf.map Prod.fst = defaults)
    (nodup : defaults.Nodup)
    (readable : ∀ key ∈ defaults, key ∉ ignoreKeys → subconf = true ∨
      (conf.setting key).isSubconf ≠ none) :
    ∃ pairs, conf.confKeys defaults subconf ignoreKeys = some pairs ∧
      ∀ key literal, (key, literal) ∈ pairs ↔ key ∈ defaults ∧ key ∉ ignoreKeys ∧
        conf.Sees subconf key ∧ literal = strConf (conf.setting key) := by
  have nodupKeys : (conf.origConf.map Prod.fst).Nodup := keys ▸ nodup
  refine ⟨_, confKeysOf_of_readable fun setting member taken => ?_, fun key literal => ?_⟩
  · obtain ⟨key, value⟩ := setting
    obtain ⟨isKey, rfl⟩ := (mem_origConf nodupKeys).mp ((mem_sortedSettings keys).mp member)
    exact readable key (keys ▸ isKey) taken
  · simp only [List.mem_map, List.mem_filter, mem_sortedSettings keys, decide_eq_true_eq,
      Prod.exists, Prod.mk.injEq, mem_origConf nodupKeys, keys]
    constructor
    · rintro ⟨_, _, ⟨⟨isKey, rfl⟩, taken, seen⟩, rfl, rfl⟩
      exact ⟨isKey, taken, seen, rfl⟩
    · rintro ⟨isKey, taken, seen, rfl⟩
      exact ⟨key, conf.setting key, ⟨⟨isKey, rfl⟩, taken, seen⟩, rfl, rfl⟩

theorem ConfObject.confKeys_eq_none (keys : conf.origConf.map Prod.fst = defaults)
    (nodup : defaults.Nodup) {key : String} (member : key ∈ defaults)
    (taken : key ∉ ignoreKeys) (unreadable : (conf.setting key).isSubconf = none) :
    conf.confKeys defaults false ignoreKeys = none := by
  have inside : (key, conf.setting key) ∈ conf.origConf :=
    (mem_origConf (keys ▸ nodup)).mpr ⟨keys ▸ member, rfl⟩
  exact confKeysOf_eq_none ((mem_sortedSettings keys).mpr inside) taken unreadable

end Keys

/-! ## Hashes -/

section Hashes

variable {builtins : Builtins H} {defaults ignoreKeys : List String} {conf other : ConfObject H}

theorem pairText_injective (printable : Char → Bool) : Function.Injective (pairText printable) := by
  rintro ⟨key, literal⟩ ⟨key', literal'⟩ same
  have sameTuples := repr_injective (String.ofList_injective same)
  obtain ⟨sameKeys, sameRest⟩ := List.cons.inj (Literal.tuple.inj sameTuples)
  exact Prod.ext (Literal.str.inj sameKeys) (List.cons.inj sameRest).1

theorem toFinset_pairTexts (printable : Char → Bool) (pairs pairs' : List (String × Literal)) :
    (pairs.map (pairText printable)).toFinset = (pairs'.map (pairText printable)).toFinset ↔
      ∀ pair, pair ∈ pairs ↔ pair ∈ pairs' := by
  rw [Finset.ext_iff]
  simp only [List.mem_toFinset]
  constructor
  · intro same pair
    have sameText := same (pairText printable pair)
    rwa [List.mem_map_of_injective (pairText_injective printable),
      List.mem_map_of_injective (pairText_injective printable)] at sameText
  · intro same text
    simp only [List.mem_map, same]

/-- **Hashes that are calculated are the same exactly when every key looks the same.** -/
theorem confHash_eq_iff (subconf : Bool) (ignoreKeys : List String)
    (injective : Function.Injective builtins.hash)
    (keys : conf.origConf.map Prod.fst = defaults)
    (keys' : other.origConf.map Prod.fst = defaults) (nodup : defaults.Nodup)
    (readable : ∀ key ∈ defaults, key ∉ ignoreKeys → subconf = true ∨
      (conf.setting key).isSubconf ≠ none)
    (readable' : ∀ key ∈ defaults, key ∉ ignoreKeys → subconf = true ∨
      (other.setting key).isSubconf ≠ none) :
    ∃ own others, conf.confHash builtins defaults subconf ignoreKeys = some own ∧
      other.confHash builtins defaults subconf ignoreKeys = some others ∧
      (own = others ↔ ∀ key ∈ defaults, key ∉ ignoreKeys → LooksSame subconf conf other key) := by
  obtain ⟨pairs, confKeys, mem⟩ := ConfObject.confKeys_of_readable keys nodup readable
  obtain ⟨pairs', confKeys', mem'⟩ := ConfObject.confKeys_of_readable keys' nodup readable'
  refine ⟨_, _, by rw [ConfObject.confHash, confKeys]; rfl,
    by rw [ConfObject.confHash, confKeys']; rfl, ?_⟩
  rw [injective.eq_iff, toFinset_pairTexts, Prod.forall]
  constructor
  · intro same key member taken
    constructor
    · constructor
      · intro seen
        exact ((mem' key _).mp ((same key _).mp ((mem key _).mpr
          ⟨member, taken, seen, rfl⟩))).2.2.1
      · intro seen
        exact ((mem key _).mp ((same key _).mpr ((mem' key _).mpr
          ⟨member, taken, seen, rfl⟩))).2.2.1
    · intro seen
      exact strConf_eq_iff.mp ((mem' key _).mp ((same key _).mp ((mem key _).mpr
        ⟨member, taken, seen, rfl⟩))).2.2.2
  · intro looks key literal
    rw [mem, mem']
    constructor
    · rintro ⟨member, taken, seen, rfl⟩
      obtain ⟨sees, alike⟩ := looks key member taken
      exact ⟨member, taken, sees.mp seen, strConf_eq_iff.mpr (alike seen)⟩
    · rintro ⟨member, taken, seen, rfl⟩
      obtain ⟨sees, alike⟩ := looks key member taken
      exact ⟨member, taken, sees.mpr seen, (strConf_eq_iff.mpr (alike (sees.mpr seen))).symm⟩

theorem confHash_eq_none (keys : conf.origConf.map Prod.fst = defaults) (nodup : defaults.Nodup)
    {key : String} (member : key ∈ defaults) (taken : key ∉ ignoreKeys)
    (unreadable : (conf.setting key).isSubconf = none) :
    conf.confHash builtins defaults false ignoreKeys = none := by
  rw [ConfObject.confHash, ConfObject.confKeys_eq_none keys nodup member taken unreadable]
  rfl

end Hashes

/-! ## Objects as they are built -/

section Objects

variable {builtins : Builtins H} {defaults : List String} {getattr : String → Value H}
  {conf : ConfObject H}

theorem Built.keys (built : Built builtins defaults getattr conf) :
    conf.origConf.map Prod.fst = defaults := by
  induction built with
  | make =>
      rw [ConfObject.make, List.map_map]
      exact List.map_id _
  | finalize _ _ ih =>
      rw [ConfObject.finalize, List.map_map]
      exact ih
  | @hashed conf next dynHash _ hashed ih =>
      rw [ConfObject.hashed] at hashed
      split at hashed
      · cases hashed
        exact ih
      · obtain ⟨_, _, same⟩ := Option.map_eq_some_iff.mp hashed
        cases same
        split
        · exact ih
        · exact ih

/-- The hash that is kept is that of the settings, and none is kept before they are final. -/
theorem Built.hash (built : Built builtins defaults getattr conf) :
    (conf.dynFinalized = false → conf.dynHash = none) ∧
      ∀ kept, conf.dynHash = some kept → conf.confHash builtins defaults true [] = some kept := by
  induction built with
  | make => exact ⟨fun _ => rfl, (by intros; contradiction)⟩
  | finalize _ open_ ih =>
      refine ⟨(by intros; contradiction), fun kept same => ?_⟩
      rw [ConfObject.finalize, ih.1 open_] at same
      cases same
  | @hashed conf next dynHash _ hashed ih =>
      rw [ConfObject.hashed] at hashed
      split at hashed
      · cases hashed
        exact ih
      · obtain ⟨_, calculated, same⟩ := Option.map_eq_some_iff.mp hashed
        cases same
        split
        next final =>
          refine ⟨fun open_ => absurd (final.symm.trans open_) (by simp), fun kept same => ?_⟩
          cases same
          exact calculated
        next => exact ih

/-- `__hash__` is the hash of the settings. -/
theorem Built.hashed_eq (built : Built builtins defaults getattr conf) :
    (conf.hashed builtins defaults).map Prod.fst = conf.confHash builtins defaults true [] := by
  rw [ConfObject.hashed]
  cases kept : conf.dynHash with
  | some dynHash => exact (built.hash.2 dynHash kept).symm
  | none =>
      dsimp only
      rw [Option.map_map]
      exact Option.map_id'

end Objects

/-! ## Reports -/

section Reports

variable [DecidableEq H] {builtins : Builtins H} {defaults ignoreKeys : List String}
  {getattr getattr' : String → Value H} {conf other : ConfObject H}

/-- The keys that are compared, in the values that were accepted: neither ignored nor
sub-configuration. -/
def Compared (ignoreKeys : List String) (getattr getattr' : String → Value H) (key : String) :
    Prop :=
  key ∉ ignoreKeys ∧ ¬ ((getattr key).orig.isSubconf = some true ∧
    (getattr' key).orig.isSubconf = some true)

/-- All keys that are compared are equal. -/
def SameSettings (defaults ignoreKeys : List String) (getattr getattr' : String → Value H) : Prop :=
  ∀ key ∈ defaults, Compared ignoreKeys getattr getattr' key →
    (getattr key).orig.eq (getattr' key).orig = true

/-- A report that tells apart exactly the objects of which a key that is compared differs. -/
def Sound (defaults ignoreKeys : List String) (getattr getattr' : String → Value H)
    (report : Option Bool) : Prop :=
  ∃ same, report = some same ∧
    (same = true ↔ SameSettings defaults ignoreKeys getattr getattr')

theorem ignoreSubconf_eq {own others : H}
    (hash : conf.confHash builtins defaults false ignoreKeys = some own)
    (hash' : other.confHash builtins defaults false ignoreKeys = some others) :
    conf.ignoreSubconf builtins defaults other ignoreKeys = some (own == others) := by
  rw [ConfObject.ignoreSubconf, hash, hash']
  rfl

theorem eq_eq {own others : H} (built : Built builtins defaults getattr conf)
    (built' : Built builtins defaults getattr' other)
    (hash : conf.confHash builtins defaults true [] = some own)
    (hash' : other.confHash builtins defaults true [] = some others) :
    conf.eq builtins defaults other = some (own == others) := by
  obtain ⟨⟨_, _⟩, hashed, rfl⟩ := Option.map_eq_some_iff.mp (built.hashed_eq.trans hash)
  obtain ⟨⟨_, _⟩, hashed', rfl⟩ := Option.map_eq_some_iff.mp (built'.hashed_eq.trans hash')
  rw [ConfObject.eq, hashed, hashed']
  rfl

theorem sound_iff {report : Option Bool} {same : Bool} {looks : Prop} (reported : report = some same)
    (sameLooks : same = true ↔ looks) : Sound defaults ignoreKeys getattr getattr' report ↔
      (looks ↔ SameSettings defaults ignoreKeys getattr getattr') := by
  rw [← sameLooks]
  constructor
  · rintro ⟨same', reported', right⟩
    cases reported.symm.trans reported'
    exact right
  · intro right
    exact ⟨same, reported, right⟩

/-- No setting that is compared is a set with elements, of which the first cannot be taken. -/
def ConfObject.Readable (defaults ignoreKeys : List String) (conf : ConfObject H) : Prop :=
  ∀ key ∈ defaults, key ∉ ignoreKeys → (conf.setting key).isSubconf ≠ none

theorem Sound.readable (built : Built builtins defaults getattr conf)
    (built' : Built builtins defaults getattr' other) (nodup : defaults.Nodup)
    (sound : Sound defaults ignoreKeys getattr getattr'
      (conf.ignoreSubconf builtins defaults other ignoreKeys)) :
    conf.Readable defaults ignoreKeys ∧ other.Readable defaults ignoreKeys := by
  obtain ⟨same, reported, _⟩ := sound
  rw [ConfObject.ignoreSubconf] at reported
  constructor
  · intro key member taken unreadable
    rw [confHash_eq_none built.keys nodup member taken unreadable] at reported
    cases reported
  · intro key member taken unreadable
    rw [confHash_eq_none built'.keys nodup member taken unreadable] at reported
    cases hash : conf.confHash builtins defaults false ignoreKeys with
    | none => rw [hash] at reported; cases reported
    | some own => rw [hash] at reported; cases reported

theorem sound_ignoreSubconf_iff (injective : Function.Injective builtins.hash)
    (nodup : defaults.Nodup) (built : Built builtins defaults getattr conf)
    (built' : Built builtins defaults getattr' other) :
    Sound defaults ignoreKeys getattr getattr'
        (conf.ignoreSubconf builtins defaults other ignoreKeys) ↔
      (conf.Readable defaults ignoreKeys ∧ other.Readable defaults ignoreKeys) ∧
        ((∀ key ∈ defaults, key ∉ ignoreKeys → LooksSame false conf other key) ↔
          SameSettings defaults ignoreKeys getattr getattr') := by
  have whenReadable : conf.Readable defaults ignoreKeys → other.Readable defaults ignoreKeys →
      (Sound defaults ignoreKeys getattr getattr'
          (conf.ignoreSubconf builtins defaults other ignoreKeys) ↔
        ((∀ key ∈ defaults, key ∉ ignoreKeys → LooksSame false conf other key) ↔
          SameSettings defaults ignoreKeys getattr getattr')) := by
    intro readable readable'
    obtain ⟨own, others, hash, hash', same⟩ := confHash_eq_iff false ignoreKeys injective
      built.keys built'.keys nodup (fun key member taken => .inr (readable key member taken))
      (fun key member taken => .inr (readable' key member taken))
    exact sound_iff (ignoreSubconf_eq hash hash') (beq_iff_eq.trans same)
  constructor
  · intro sound
    obtain ⟨readable, readable'⟩ := sound.readable built built' nodup
    exact ⟨⟨readable, readable'⟩, (whenReadable readable readable').mp sound⟩
  · rintro ⟨⟨readable, readable'⟩, right⟩
    exact (whenReadable readable readable').mpr right

theorem sound_eq_iff (injective : Function.Injective builtins.hash) (nodup : defaults.Nodup)
    (built : Built builtins defaults getattr conf)
    (built' : Built builtins defaults getattr' other) :
    Sound defaults [] getattr getattr' (conf.eq builtins defaults other) ↔
      ((∀ key ∈ defaults, Alike (conf.setting key) (other.setting key)) ↔
        SameSettings defaults [] getattr getattr') := by
  obtain ⟨own, others, hash, hash', same⟩ := confHash_eq_iff true [] injective built.keys
    built'.keys nodup (fun _ _ _ => .inl rfl) (fun _ _ _ => .inl rfl)
  have looks : (∀ key ∈ defaults, key ∉ [] → LooksSame true conf other key) ↔
      ∀ key ∈ defaults, Alike (conf.setting key) (other.setting key) := by
    simp [LooksSame, ConfObject.Sees]
  exact sound_iff (eq_eq built built' hash hash') ((beq_iff_eq.trans same).trans looks)

/-- An object that takes over what another has kept equals it, whatever their settings. -/
theorem eq_of_mergeDyn {kept : H} (dynHash : other.dynHash = some kept) :
    (conf.mergeDyn other).eq builtins defaults other = some true := by
  have hashed : other.hashed builtins defaults = some (kept, other) := by
    rw [ConfObject.hashed, dynHash]
  have merged : (conf.mergeDyn other).hashed builtins defaults =
      some (kept, conf.mergeDyn other) := by
    rw [ConfObject.hashed, ConfObject.mergeDyn, dynHash]
  rw [ConfObject.eq, hashed, merged]
  exact congrArg some (beq_self_eq_true kept)

/-- **Which reports are right.** Where no hashes collide, `ignore_subconf` tells apart the right
objects exactly when no setting is a set with elements and the keys that are not ignored all look
the same when, and only when, those that are compared are equal; and so does `==` with all keys. -/
theorem reports_iff (injective : Function.Injective builtins.hash) (nodup : defaults.Nodup)
    (built : Built builtins defaults getattr conf)
    (built' : Built builtins defaults getattr' other) :
    (Sound defaults ignoreKeys getattr getattr'
        (conf.ignoreSubconf builtins defaults other ignoreKeys) ↔
      (conf.Readable defaults ignoreKeys ∧ other.Readable defaults ignoreKeys) ∧
        ((∀ key ∈ defaults, key ∉ ignoreKeys → LooksSame false conf other key) ↔
          SameSettings defaults ignoreKeys getattr getattr')) ∧
    (Sound defaults [] getattr getattr' (conf.eq builtins defaults other) ↔
      ((∀ key ∈ defaults, Alike (conf.setting key) (other.setting key)) ↔
        SameSettings defaults [] getattr getattr')) :=
  ⟨sound_ignoreSubconf_iff injective nodup built built', sound_eq_iff injective nodup built built'⟩

end Reports

/-! ## Two classes -/

/-- What is built in, with sets of strings for their own hashes. -/
def asciiBuiltins : Builtins (Finset String) where
  printable char := 32 ≤ char.toNat && char.toNat < 127
  hash := id
  itemText key _ := key.text
  iterate := id

/-- The keys of `Stack.defaults`. -/
def stackDefaults : List String :=
  ["priority", "route_learning", "down_time_multiple", "min_stack_health", "min_lacp_health"]

/-- The attributes of a stack with a priority and a threshold for its health. -/
def stackAttributes (minStackHealth : Scalar) : String → Value (Finset String)
  | "priority" => .scalar (.int 1)
  | "route_learning" => .scalar (.bool false)
  | "down_time_multiple" => .scalar (.int 3)
  | "min_stack_health" => .scalar minStackHealth
  | "min_lacp_health" => .scalar (.float 1 "1.0")
  | _ => .scalar .null

/-- The keys of `Meter.defaults`. -/
def meterDefaults : List String := ["entry", "meter_id"]

/-- The attributes of a meter, with the entry as it is in the file. -/
def meterAttributes (meterId : ℤ) (entry : List (Scalar × Value (Finset String))) :
    String → Value (Finset String)
  | "entry" => .dict entry
  | "meter_id" => .scalar (.int meterId)
  | _ => .scalar .null

/-- The flag `KBPS`. -/
def flagsEntry : Scalar × Value (Finset String) := (.str "flags", .scalar (.str "KBPS"))

/-- One band that drops, of rate 1. -/
def bandsEntry : Scalar × Value (Finset String) :=
  (.str "bands", .list [.dict [(.str "type", .scalar (.str "DROP")), (.str "rate", .scalar (.int 1))]])

theorem reports_meters :
    Sound meterDefaults [] (meterAttributes 1 [flagsEntry, bandsEntry])
        (meterAttributes 2 [flagsEntry, bandsEntry])
        ((ConfObject.make meterDefaults (meterAttributes 1 [flagsEntry, bandsEntry])).ignoreSubconf
          asciiBuiltins meterDefaults
          (.make meterDefaults (meterAttributes 2 [flagsEntry, bandsEntry])) []) ∧
      Sound meterDefaults [] (meterAttributes 1 [flagsEntry, bandsEntry])
        (meterAttributes 2 [flagsEntry, bandsEntry])
        ((ConfObject.make meterDefaults (meterAttributes 1 [flagsEntry, bandsEntry])).eq
          asciiBuiltins meterDefaults
          (.make meterDefaults (meterAttributes 2 [flagsEntry, bandsEntry]))) := by
  have differ : ¬ SameSettings meterDefaults [] (meterAttributes 1 [flagsEntry, bandsEntry])
      (meterAttributes 2 [flagsEntry, bandsEntry]) := by
    intro same
    exact absurd (same "meter_id" (by decide) ⟨by decide, by decide⟩)
      (by decide +kernel)
  have unlike : ¬ Alike
      ((ConfObject.make meterDefaults (meterAttributes 1 [flagsEntry, bandsEntry])).setting
        "meter_id")
      ((ConfObject.make meterDefaults (meterAttributes 2 [flagsEntry, bandsEntry])).setting
        "meter_id") := by
    intro alike
    have printed : Literal.int 1 = Literal.int 2 := strConf_eq_iff.mpr alike
    cases printed
  have readable : ∀ meterId, (ConfObject.make meterDefaults
      (meterAttributes meterId [flagsEntry, bandsEntry])).Readable meterDefaults [] := by
    intro meterId key member _
    rcases List.mem_pair.mp member with rfl | rfl
    · exact nofun
    · exact nofun
  obtain ⟨ignoreSubconf, eq⟩ := reports_iff Function.injective_id (by decide : meterDefaults.Nodup)
    (Built.make : Built asciiBuiltins meterDefaults
      (meterAttributes 1 [flagsEntry, bandsEntry]) _)
    (Built.make : Built asciiBuiltins meterDefaults
      (meterAttributes 2 [flagsEntry, bandsEntry]) _)
  refine ⟨ignoreSubconf.mpr ⟨⟨readable 1, readable 2⟩, ?_⟩, eq.mpr ?_⟩
  · constructor
    · intro looks
      exact absurd ((looks "meter_id" (by decide) (by decide)).2 (.inr nofun)) unlike
    · intro same
      exact absurd same differ
  · constructor
    · intro looks
      exact absurd (looks "meter_id" (by decide)) unlike
    · intro same
      exact absurd same differ

/-- The health that a stack needs is a number that is not printed, so that its change is not seen;
and a meter differs when its entry is written in another order. -/
theorem not_told_apart :
    ¬ Sound stackDefaults [] (stackAttributes (.float 1 "1.0"))
        (stackAttributes (.float (1 / 2) "0.5"))
        ((ConfObject.make stackDefaults (stackAttributes (.float 1 "1.0"))).ignoreSubconf
          asciiBuiltins stackDefaults
          (.make stackDefaults (stackAttributes (.float (1 / 2) "0.5"))) []) ∧
      ¬ Sound meterDefaults [] (meterAttributes 1 [flagsEntry, bandsEntry])
        (meterAttributes 1 [bandsEntry, flagsEntry])
        ((ConfObject.make meterDefaults (meterAttributes 1 [flagsEntry, bandsEntry])).eq
          asciiBuiltins meterDefaults
          (.make meterDefaults (meterAttributes 1 [bandsEntry, flagsEntry]))) := by
  constructor
  · rintro ⟨same, reported, right⟩
    have hidden : (ConfObject.make stackDefaults (stackAttributes (.float 1 "1.0"))).ignoreSubconf
        asciiBuiltins stackDefaults
        (.make stackDefaults (stackAttributes (.float (1 / 2) "0.5"))) [] = some true := by
      decide +kernel
    cases reported.symm.trans hidden
    exact absurd (right.mp rfl "min_stack_health" (by decide) ⟨by decide, by decide⟩)
      (by decide +kernel)
  · rintro ⟨same, reported, right⟩
    have spurious : (ConfObject.make meterDefaults
        (meterAttributes 1 [flagsEntry, bandsEntry])).eq asciiBuiltins meterDefaults
        (.make meterDefaults (meterAttributes 1 [bandsEntry, flagsEntry])) = some false := by
      decide +kernel
    cases reported.symm.trans spurious
    have equal : SameSettings meterDefaults [] (meterAttributes 1 [flagsEntry, bandsEntry])
        (meterAttributes 1 [bandsEntry, flagsEntry]) := by
      intro key member _
      rcases List.mem_pair.mp member with rfl | rfl
      · decide +kernel
      · decide +kernel
    cases right.mpr equal

end Faucet.Config.Changes
