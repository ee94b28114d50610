import Faucet.Config.PortOptions
import Faucet.Library.Fallible

/-!
# Checking a beacon again

`check_config` writes into the `lldp_beacon` that it checks. When another port has the same
dictionary, it is checked again as it is then: what has been written stays
(`checkLldpBeacon_again`), unless the `info` of an `org_tlv` became `bytes`, which is none
of its types (`checkLldpBeacon_ne_ok`).
-/

set_option autoImplicit false

namespace Faucet.Config.Interfaces

open OrderedDict Fallible

variable {types : List (String × List PyType)} {conf : Dict} {key : String} {value : Value}

/-! ## Types -/

theorem testConfigCondition_eq_ok {cond : Bool} {message : String} :
    testConfigCondition cond message = .ok () ↔ cond = false := by
  cases cond with
  | false => simp [testConfigCondition]
  | true => simp [testConfigCondition]

/-- The entry has one of its types, or is null. -/
def wellTyped (types : List (String × List PyType)) (entry : String × Value) : Bool :=
  match types.lookup entry.1 with
  | none => false
  | some allowed =>
      match entry.2 with
      | .null => true
      | value => allowed.any value.isInstance

theorem checkEntryTypes_eq_ok :
    checkEntryTypes types conf = .ok () ↔ ∀ entry ∈ conf, wellTyped types entry = true := by
  induction conf with
  | nil => simp [checkEntryTypes]
  | cons entry rest ih =>
      obtain ⟨key, value⟩ := entry
      rw [List.forall_mem_cons, ← ih, checkEntryTypes, wellTyped]
      dsimp only
      cases types.lookup key with
      | none => simp
      | some allowed =>
          cases value with
          | null => simp
          | _ =>
              dsimp only
              split
              next holds => simp [holds]
              next fails => simp [fails]

/-! ## Missing entries -/

theorem isSome_setUnknownConf (known : (conf.lookup key).isSome) :
    (setUnknownConf conf types).lookup key = conf.lookup key := by
  rw [setUnknownConf]
  induction types generalizing conf with
  | nil => rfl
  | cons entry rest ih =>
      obtain ⟨name, type⟩ := entry
      rw [List.foldl_cons]
      dsimp only
      split
      next => exact ih known
      next =>
        obtain ⟨value, found⟩ := Option.isSome_iff_exists.mp known
        rw [ih]
        · rw [List.lookup_append, found]
          rfl
        · rw [List.lookup_append, found]
          rfl

/-- What is missing is an empty list, or null. -/
theorem lookup_setUnknownConf (unknown : conf.lookup key = none) :
    (setUnknownConf conf types).lookup key =
      (types.lookup key).map fun type => if type = [.list] then .list [] else .null := by
  rw [setUnknownConf]
  induction types generalizing conf with
  | nil => exact unknown
  | cons entry rest ih =>
      obtain ⟨name, type⟩ := entry
      rw [List.foldl_cons, lookup_cons_eq]
      dsimp only
      by_cases same : key = name
      · subst same
        have missing : ¬ (none : Option Value).isSome = true := Bool.false_ne_true
        rw [unknown, if_pos rfl, if_neg missing]
        have added : (conf ++ [(key, if type = [.list] then Value.list [] else .null)]).lookup key =
            some (if type = [.list] then Value.list [] else .null) := by
          rw [List.lookup_append, unknown]
          simp
        have kept := @isSome_setUnknownConf rest _ key (by rw [added]; rfl)
        rw [setUnknownConf, added] at kept
        exact kept
      · rw [if_neg same]
        split
        next => exact ih unknown
        next =>
          refine ih ?_
          rw [List.lookup_append, unknown, lookup_cons_eq, if_neg same]
          rfl

/-- A configuration with all entries stays. -/
theorem setUnknownConf_of_known (known : ∀ entry ∈ types, (conf.lookup entry.1).isSome) :
    setUnknownConf conf types = conf := by
  rw [setUnknownConf]
  induction types with
  | nil => rfl
  | cons entry rest ih =>
      obtain ⟨name, type⟩ := entry
      obtain ⟨first, others⟩ := List.forall_mem_cons.mp known
      rw [List.foldl_cons]
      dsimp only
      rw [if_pos first]
      exact ih others

theorem wellTyped_setUnknownConf {all : List (String × List PyType)}
    (listed : ∀ entry ∈ types, all.lookup entry.1 = some entry.2)
    (typed : ∀ entry ∈ conf, wellTyped all entry = true) :
    ∀ entry ∈ setUnknownConf conf types, wellTyped all entry = true := by
  rw [setUnknownConf]
  induction types generalizing conf with
  | nil => exact typed
  | cons entry rest ih =>
      obtain ⟨name, type⟩ := entry
      obtain ⟨first, others⟩ := List.forall_mem_cons.mp listed
      rw [List.foldl_cons]
      dsimp only
      split
      next => exact ih others typed
      next =>
        refine ih others fun entry member => ?_
        rcases List.mem_append.mp member with old | new
        · exact typed entry old
        · rw [List.mem_singleton.mp new, wellTyped]
          dsimp only at first ⊢
          rw [first]
          by_cases isList : type = [.list]
          · subst isList
            simp [Value.isInstance]
          · simp [isList]

/-! ## Organizationally specific TLVs -/

section OrgTlv

variable {orgTlv orgTlv' : Dict} {toBytes : Value → Except ConfigError Value}

/-- What `convert` does. -/
theorem convert_eq_ok (strict : ∃ error, toBytes .null = .error error)
    (converts : convert key toBytes orgTlv = .ok orgTlv') :
    (∃ data, orgTlv.lookup key = some (.bytearray data) ∧ orgTlv' = orgTlv) ∨
      ∃ value data, orgTlv.lookup key = some value ∧ (∀ data, value ≠ .bytearray data) ∧
        toBytes value = .ok data ∧ orgTlv' = set orgTlv key data := by
  rw [convert] at converts
  split at converts
  next data found =>
    cases converts
    exact .inl ⟨data, found, rfl⟩
  next notBytes =>
    obtain ⟨data, returns, rfl⟩ := map_eq_ok.mp converts
    cases found : orgTlv.lookup key with
    | none =>
        obtain ⟨error, fails⟩ := strict
        rw [found, Option.getD_none, fails] at returns
        cases returns
    | some value =>
        rw [found, Option.getD_some] at returns
        refine .inr ⟨value, data, rfl, ?_, returns, rfl⟩
        rintro data rfl
        exact notBytes data found

theorem convert_keeps (strict : ∃ error, toBytes .null = .error error)
    (converts : convert key toBytes orgTlv = .ok orgTlv') :
    orgTlv'.map Prod.fst = orgTlv.map Prod.fst ∧
      ∀ other, other ≠ key → orgTlv'.lookup other = orgTlv.lookup other := by
  obtain ⟨_, _, rfl⟩ | ⟨value, data, found, _, _, rfl⟩ := convert_eq_ok strict converts
  · exact ⟨rfl, fun _ _ => rfl⟩
  · refine ⟨?_, fun other different => ?_⟩
    · rw [map_fst_set, if_pos (List.mem_map_of_mem (mem_of_lookup found))]
    · rw [lookup_set, if_neg different]

theorem convert_of_bytearray {data : List UInt8} (found : orgTlv.lookup key = some (.bytearray data)) :
    convert key toBytes orgTlv = .ok orgTlv := by
  rw [convert, found]

theorem wellTyped_convert (strict : ∃ error, toBytes .null = .error error)
    (converts : convert key toBytes orgTlv = .ok orgTlv')
    (now : ∃ data, orgTlv'.lookup key = some (.bytearray data))
    (allowed : ∀ data, wellTyped types (key, .bytearray data) = true)
    (typed : ∀ entry ∈ orgTlv, wellTyped types entry = true) :
    ∀ entry ∈ orgTlv', wellTyped types entry = true := by
  obtain ⟨_, _, rfl⟩ | ⟨value, data, found, _, _, rfl⟩ := convert_eq_ok strict converts
  · exact typed
  · obtain ⟨bytes, found⟩ := now
    rw [lookup_set, if_pos rfl] at found
    cases found
    intro entry member
    rcases mem_of_mem_set member with old | rfl
    · exact typed entry old
    · exact allowed bytes

/-- What has been written to the TLV. -/
theorem checkOrgTlv_eq_ok {orgTlv orgTlv' : Value} (returns : checkOrgTlv orgTlv = .ok orgTlv') :
    ∃ entries middle entries', orgTlv = .dict entries ∧ orgTlv' = .dict entries' ∧
      (∀ entry ∈ entries, wellTyped lldpOrgTlvDefaultsTypes entry = true) ∧ entries.length = 3 ∧
      convert "info" infoBytes entries = .ok middle ∧
      convert "oui" ouiBytes middle = .ok entries' := by
  rw [checkOrgTlv] at returns
  obtain ⟨_, typed, returns⟩ := bind_eq_ok.mp returns
  obtain ⟨_, complete, returns⟩ := bind_eq_ok.mp returns
  obtain ⟨middle, infoConverts, returns⟩ := bind_eq_ok.mp returns
  obtain ⟨entries', ouiConverts, rfl⟩ := map_eq_ok.mp returns
  cases orgTlv with
  | dict entries =>
      refine ⟨entries, middle, entries', rfl, rfl, checkEntryTypes_eq_ok.mp typed, ?_, infoConverts,
        ouiConverts⟩
      simpa [lldpOrgTlvDefaultsTypes, Value.entries] using testConfigCondition_eq_ok.mp complete
  | _ => cases typed

theorem infoBytes_strict : ∃ error, infoBytes .null = .error error := ⟨_, rfl⟩

theorem ouiBytes_strict : ∃ error, ouiBytes .null = .error error := ⟨_, rfl⟩

theorem bytearray_of_ouiBytes {oui data : Value} (returns : ouiBytes oui = .ok data) :
    ∃ bytes, data = .bytearray bytes := by
  rw [ouiBytes] at returns
  split at returns
  next bytes _ =>
    cases returns
    exact ⟨bytes, rfl⟩
  next => cases returns

/-- The `info` is hexadecimal when it is text. -/
def plainInfo (orgTlv : Value) : Bool :=
  match orgTlv.entries.lookup "info" with
  | some (.str text) => (fromhex text.toList).isSome
  | _ => true

/-- The `oui` becomes a `bytearray`. -/
theorem lookup_oui {entries entries' : Dict} (converts : convert "oui" ouiBytes entries = .ok entries') :
    ∃ data, entries'.lookup "oui" = some (.bytearray data) := by
  obtain ⟨data, found, rfl⟩ | ⟨value, data, _, _, returns, rfl⟩ :=
    convert_eq_ok ouiBytes_strict converts
  · exact ⟨data, found⟩
  · obtain ⟨bytes, rfl⟩ := bytearray_of_ouiBytes returns
    exact ⟨bytes, by rw [lookup_set, if_pos rfl]⟩

/-- A hexadecimal `info` becomes a `bytearray`, and any other `bytes`. -/
theorem lookup_info {entries entries' : Dict}
    (converts : convert "info" infoBytes entries = .ok entries') :
    (plainInfo (.dict entries) = true ∧ ∃ data, entries'.lookup "info" = some (.bytearray data)) ∨
      plainInfo (.dict entries) = false ∧ ∃ data, entries'.lookup "info" = some (.bytes data) := by
  rw [plainInfo, Value.entries]
  obtain ⟨data, found, rfl⟩ | ⟨value, data, found, notBytes, returns, rfl⟩ :=
    convert_eq_ok infoBytes_strict converts
  · rw [found]
    exact .inl ⟨rfl, data, rfl⟩
  · rw [found, lookup_set, if_pos rfl]
    cases value with
    | str text =>
        rw [infoBytes] at returns
        split at returns
        next bytes hex =>
          cases returns
          exact .inl ⟨by simp [hex], bytes, rfl⟩
        next notHex =>
          cases returns
          exact .inr ⟨by simp [notHex], _, rfl⟩
    | _ => cases returns

/-- A TLV whose `info` has become a `bytearray` stays as it is. -/
theorem checkOrgTlv_again {orgTlv orgTlv' : Value} (returns : checkOrgTlv orgTlv = .ok orgTlv')
    (plain : plainInfo orgTlv = true) : checkOrgTlv orgTlv' = .ok orgTlv' := by
  obtain ⟨entries, middle, entries', rfl, rfl, typed, complete, infoConverts, ouiConverts⟩ :=
    checkOrgTlv_eq_ok returns
  obtain ⟨_, info⟩ | ⟨notPlain, _⟩ := lookup_info infoConverts
  case inr =>
    rw [plain] at notPlain
    cases notPlain
  obtain ⟨infoKeys, _⟩ := convert_keeps infoBytes_strict infoConverts
  obtain ⟨ouiKeys, ouiOthers⟩ := convert_keeps ouiBytes_strict ouiConverts
  have oui := lookup_oui ouiConverts
  have typedMiddle := wellTyped_convert infoBytes_strict infoConverts info (fun _ => rfl) typed
  have typedAfter := wellTyped_convert ouiBytes_strict ouiConverts oui (fun _ => rfl) typedMiddle
  have length : entries'.length = 3 := by
    rw [← complete, ← List.length_map Prod.fst, ouiKeys, infoKeys, List.length_map]
  obtain ⟨infoData, info⟩ := info
  obtain ⟨ouiData, oui⟩ := oui
  have infoAfter : entries'.lookup "info" = some (.bytearray infoData) := by
    rw [ouiOthers "info" (by decide), info]
  rw [checkOrgTlv]
  refine bind_eq_ok.mpr ⟨(), checkEntryTypes_eq_ok.mpr typedAfter, bind_eq_ok.mpr ⟨(), ?_,
    bind_eq_ok.mpr ⟨entries', convert_of_bytearray infoAfter, ?_⟩⟩⟩
  · rw [testConfigCondition_eq_ok]
    simp [lldpOrgTlvDefaultsTypes, Value.entries, length]
  · rw [convert_of_bytearray oui]
    rfl

/-- A TLV whose `info` has become `bytes` has none of its types. -/
theorem checkOrgTlv_ne_ok {orgTlv orgTlv' : Value} (returns : checkOrgTlv orgTlv = .ok orgTlv')
    (notPlain : plainInfo orgTlv = false) (orgTlv'' : Value) : checkOrgTlv orgTlv' ≠ .ok orgTlv'' := by
  obtain ⟨entries, middle, entries', rfl, rfl, _, _, infoConverts, ouiConverts⟩ :=
    checkOrgTlv_eq_ok returns
  obtain ⟨plain, _⟩ | ⟨_, data, info⟩ := lookup_info infoConverts
  case inl =>
    rw [notPlain] at plain
    cases plain
  have infoAfter : entries'.lookup "info" = some (.bytes data) := by
    rw [(convert_keeps ouiBytes_strict ouiConverts).2 "info" (by decide), info]
  intro again
  obtain ⟨_, _, _, same, _, typed, _⟩ := checkOrgTlv_eq_ok again
  cases same
  exact Bool.false_ne_true (typed _ (mem_of_lookup infoAfter))

end OrgTlv

/-! ## Beacons -/

section Beacon

variable {description description' : Value} {lldpBeacon lldpBeacon' : Dict}

/-- The beacon with all its entries. -/
abbrev filled (lldpBeacon : Dict) : Dict := setUnknownConf lldpBeacon lldpBeaconDefaultsTypes

/-- The beacon has a `port_descr`. -/
def hasPortDescr (lldpBeacon : Dict) : Prop :=
  ((lldpBeacon.lookup "port_descr").getD .null) ≠ .null

/-- The `org_tlvs` of a beacon, when they are a list. -/
def orgTlvsOf (lldpBeacon : Dict) : List Value :=
  match lldpBeacon.lookup "org_tlvs" with
  | some (.list orgTlvs) => orgTlvs
  | _ => []

theorem getD_filled {name : String} (isNull : (lldpBeaconDefaultsTypes.lookup name).all
    fun type => type ≠ [.list]) :
    ((filled lldpBeacon).lookup name).getD .null = (lldpBeacon.lookup name).getD .null := by
  cases known : lldpBeacon.lookup name with
  | some value => rw [filled, isSome_setUnknownConf (by rw [known]; rfl), known]
  | none =>
      rw [filled, lookup_setUnknownConf known]
      cases allowed : lldpBeaconDefaultsTypes.lookup name with
      | none => rfl
      | some type =>
          rw [allowed] at isNull
          have notList : type ≠ [.list] := by simpa using isNull
          simp [notList]

theorem enabled_eq (lldpBeacon : Dict) : lldpBeaconEnabled lldpBeacon =
    ((lldpBeacon.lookup "enable").getD .null).truthy := by
  rw [lldpBeaconEnabled]
  cases lldpBeacon.lookup "enable" <;> rfl

theorem enabled_filled : lldpBeaconEnabled (filled lldpBeacon) = lldpBeaconEnabled lldpBeacon := by
  rw [enabled_eq, enabled_eq, getD_filled rfl]

theorem lookup_setPortDescr {name : String} (different : name ≠ "port_descr") :
    (setPortDescr description lldpBeacon).lookup name = lldpBeacon.lookup name := by
  rw [setPortDescr]
  split
  · rw [lookup_set, if_neg different]
  · rfl

theorem setPortDescr_of_hasPortDescr (given : hasPortDescr lldpBeacon) :
    setPortDescr description lldpBeacon = lldpBeacon := by
  rw [setPortDescr]
  split
  next isNull => exact absurd isNull given
  next => rfl

theorem hasPortDescr_setPortDescr (isText : ∃ text, description = .str text) :
    hasPortDescr (setPortDescr description lldpBeacon) := by
  obtain ⟨text, rfl⟩ := isText
  by_cases given : hasPortDescr lldpBeacon
  · rwa [setPortDescr_of_hasPortDescr given]
  · rw [hasPortDescr, not_not] at given
    rw [hasPortDescr, setPortDescr, given]
    simp [lookup_set]

/-- When a beacon with entries is accepted, and what it becomes. -/
theorem checkLldpBeacon_eq_ok (nonempty : lldpBeacon ≠ []) :
    checkLldpBeacon description lldpBeacon = .ok lldpBeacon' ↔
      (∀ entry ∈ lldpBeacon, wellTyped lldpBeaconDefaultsTypes entry = true) ∧
      if lldpBeaconEnabled lldpBeacon then
        ∃ orgTlvs, checkOrgTlvs (setPortDescr description (filled lldpBeacon)) = .ok orgTlvs ∧
          set (setPortDescr description (filled lldpBeacon)) "org_tlvs" (.list orgTlvs) = lldpBeacon'
      else filled lldpBeacon = lldpBeacon' := by
  have notEmpty : ¬ lldpBeacon.isEmpty = true := by simpa using nonempty
  rw [checkLldpBeacon, if_neg notEmpty, bind_eq_ok]
  dsimp only
  rw [enabled_filled]
  constructor
  · rintro ⟨_, typed, returns⟩
    refine ⟨checkEntryTypes_eq_ok.mp typed, ?_⟩
    split at returns
    next enabled =>
      rw [if_pos enabled]
      exact map_eq_ok.mp returns
    next disabled =>
      rw [if_neg disabled]
      cases returns
      rfl
  · rintro ⟨typed, returns⟩
    refine ⟨(), checkEntryTypes_eq_ok.mpr typed, ?_⟩
    split
    next enabled =>
      rw [if_pos enabled] at returns
      exact map_eq_ok.mpr returns
    next disabled =>
      rw [if_neg disabled] at returns
      rw [← returns]

theorem known_filled : ∀ entry ∈ lldpBeaconDefaultsTypes,
    ((filled lldpBeacon).lookup entry.1).isSome := by
  intro entry member
  cases known : lldpBeacon.lookup entry.1 with
  | some value => rw [filled, isSome_setUnknownConf (by rw [known]; rfl), known]; rfl
  | none =>
      rw [filled, lookup_setUnknownConf known, Option.isSome_map]
      simp only [lldpBeaconDefaultsTypes, List.mem_cons, List.not_mem_nil, or_false] at member
      rcases member with rfl | rfl | rfl | rfl <;> rfl

theorem typed_filled (typed : ∀ entry ∈ lldpBeacon, wellTyped lldpBeaconDefaultsTypes entry = true) :
    ∀ entry ∈ filled lldpBeacon, wellTyped lldpBeaconDefaultsTypes entry = true := by
  refine wellTyped_setUnknownConf (fun entry member => ?_) typed
  simp only [lldpBeaconDefaultsTypes, List.mem_cons, List.not_mem_nil, or_false] at member
  rcases member with rfl | rfl | rfl | rfl <;> rfl

theorem filled_ne_nil : filled lldpBeacon ≠ [] := by
  intro isNil
  have known := @known_filled lldpBeacon ("enable", [.bool]) List.mem_cons_self
  rw [isNil] at known
  cases known

/-- A beacon with entries keeps some. -/
theorem checkLldpBeacon_ne_nil (nonempty : lldpBeacon ≠ [])
    (returns : checkLldpBeacon description lldpBeacon = .ok lldpBeacon') : lldpBeacon' ≠ [] := by
  obtain ⟨_, returns⟩ := (checkLldpBeacon_eq_ok nonempty).mp returns
  split at returns
  · obtain ⟨_, _, rfl⟩ := returns
    exact set_ne_nil
  · rw [← returns]
    exact filled_ne_nil

/-- Whether a beacon is accepted does not depend on the description. -/
theorem checkLldpBeacon_accepts (nonempty : lldpBeacon ≠ [])
    (returns : checkLldpBeacon description lldpBeacon = .ok lldpBeacon') (description' : Value) :
    ∃ lldpBeacon'', checkLldpBeacon description' lldpBeacon = .ok lldpBeacon'' := by
  obtain ⟨typed, returns⟩ := (checkLldpBeacon_eq_ok nonempty).mp returns
  by_cases enabled : lldpBeaconEnabled lldpBeacon = true
  · rw [if_pos enabled] at returns
    obtain ⟨orgTlvs, checked, _⟩ := returns
    refine ⟨set (setPortDescr description' (filled lldpBeacon)) "org_tlvs" (.list orgTlvs),
      (checkLldpBeacon_eq_ok nonempty).mpr ⟨typed, ?_⟩⟩
    rw [if_pos enabled]
    refine ⟨orgTlvs, ?_, rfl⟩
    rw [checkOrgTlvs, lookup_setPortDescr (by decide)] at checked ⊢
    exact checked
  · refine ⟨filled lldpBeacon, (checkLldpBeacon_eq_ok nonempty).mpr ⟨typed, ?_⟩⟩
    rw [if_neg enabled]

/-- A beacon with all its entries is accepted again as it is when it is not enabled. -/
theorem checkLldpBeacon_filled
    (typed : ∀ entry ∈ lldpBeacon, wellTyped lldpBeaconDefaultsTypes entry = true)
    (disabled : lldpBeaconEnabled lldpBeacon = false) :
    checkLldpBeacon description (filled lldpBeacon) = .ok (filled lldpBeacon) := by
  rw [checkLldpBeacon_eq_ok filled_ne_nil, enabled_filled, disabled, if_neg Bool.false_ne_true]
  exact ⟨typed_filled typed, setUnknownConf_of_known known_filled⟩

/-- What becomes of a beacon that is enabled. -/
structure Settled (description : Value) (lldpBeacon lldpBeacon' : Dict) : Prop where
  nonempty : lldpBeacon' ≠ []
  typed : ∀ entry ∈ lldpBeacon', wellTyped lldpBeaconDefaultsTypes entry = true
  known : ∀ entry ∈ lldpBeaconDefaultsTypes, (lldpBeacon'.lookup entry.1).isSome
  enabled : lldpBeaconEnabled lldpBeacon' = true
  portDescr : (lldpBeacon'.lookup "port_descr").getD .null =
    ((setPortDescr description (filled lldpBeacon)).lookup "port_descr").getD .null
  orgTlvs : ∃ orgTlvs, (orgTlvsOf lldpBeacon).mapM checkOrgTlv = .ok orgTlvs ∧
    lldpBeacon'.lookup "org_tlvs" = some (.list orgTlvs) ∧
      ∀ orgTlvs', orgTlvs' = orgTlvs → set lldpBeacon' "org_tlvs" (.list orgTlvs') = lldpBeacon'

theorem settled (nonempty : lldpBeacon ≠ []) (isText : ∃ text, description = .str text)
    (enabled : lldpBeaconEnabled lldpBeacon = true)
    (returns : checkLldpBeacon description lldpBeacon = .ok lldpBeacon') :
    Settled description lldpBeacon lldpBeacon' := by
  obtain ⟨typed, returns⟩ := (checkLldpBeacon_eq_ok nonempty).mp returns
  rw [if_pos enabled] at returns
  obtain ⟨orgTlvs, checked, rfl⟩ := returns
  have lookup_other : ∀ name, name ≠ "org_tlvs" →
      (set (setPortDescr description (filled lldpBeacon)) "org_tlvs" (.list orgTlvs)).lookup name =
        (setPortDescr description (filled lldpBeacon)).lookup name := by
    intro name different
    rw [lookup_set, if_neg different]
  have lookup_orgTlvs :
      (set (setPortDescr description (filled lldpBeacon)) "org_tlvs" (.list orgTlvs)).lookup
        "org_tlvs" = some (.list orgTlvs) := by rw [lookup_set, if_pos rfl]
  refine ⟨?_, fun entry member => ?_, fun entry member => ?_, ?_, ?_, orgTlvs, ?_, lookup_orgTlvs,
    ?_⟩
  · intro isNil
    rw [isNil] at lookup_orgTlvs
    cases lookup_orgTlvs
  · rcases mem_of_mem_set member with old | rfl
    · rw [setPortDescr] at old
      split at old
      · rcases mem_of_mem_set old with old | rfl
        · exact typed_filled typed entry old
        · obtain ⟨text, rfl⟩ := isText
          rfl
      · exact typed_filled typed entry old
    · rfl
  · by_cases same : entry.1 = "org_tlvs"
    · rw [same, lookup_orgTlvs]
      rfl
    · rw [lookup_other _ same]
      by_cases same : entry.1 = "port_descr"
      · have given := @hasPortDescr_setPortDescr description (filled lldpBeacon) isText
        rw [same]
        rw [hasPortDescr] at given
        cases found : (setPortDescr description (filled lldpBeacon)).lookup "port_descr" with
        | some value => rfl
        | none =>
            rw [found] at given
            exact absurd rfl given
      · rw [lookup_setPortDescr same]
        exact known_filled entry member
  · rw [enabled_eq, lookup_other "enable" (by decide), lookup_setPortDescr (by decide), ← enabled_eq,
      enabled_filled, enabled]
  · rw [lookup_other "port_descr" (by decide)]
  · rw [checkOrgTlvs, lookup_setPortDescr (by decide)] at checked
    rw [orgTlvsOf]
    cases known : lldpBeacon.lookup "org_tlvs" with
    | some value =>
        rw [filled, isSome_setUnknownConf (by rw [known]; rfl), known] at checked
        cases value with
        | list values => exact checked
        | _ => cases checked
    | none =>
        rw [filled, lookup_setUnknownConf known] at checked
        exact checked
  · rintro _ rfl
    rw [set_set]

/-- **What has been written stays** when the beacon is checked again, also for another port, if
the TLVs of an enabled beacon have hexadecimal `info`. -/
theorem checkLldpBeacon_again (isText : ∃ text, description = .str text)
    (returns : checkLldpBeacon description lldpBeacon = .ok lldpBeacon')
    (plain : lldpBeaconEnabled lldpBeacon = true →
      ∀ orgTlv ∈ orgTlvsOf lldpBeacon, plainInfo orgTlv = true) :
    checkLldpBeacon description' lldpBeacon' = .ok lldpBeacon' := by
  by_cases nonempty : lldpBeacon = []
  · subst nonempty
    cases returns
    rfl
  · cases enabled : lldpBeaconEnabled lldpBeacon with
    | false =>
        obtain ⟨typed, same⟩ := (checkLldpBeacon_eq_ok nonempty).mp returns
        rw [enabled, if_neg Bool.false_ne_true] at same
        rw [← same]
        exact checkLldpBeacon_filled typed enabled
    | true =>
        obtain ⟨nonempty', typed, known, enabled', portDescr, orgTlvs, checked, found, kept⟩ :=
          settled nonempty isText enabled returns
        have given : hasPortDescr lldpBeacon' := by
          rw [hasPortDescr, portDescr]
          exact hasPortDescr_setPortDescr isText
        rw [checkLldpBeacon_eq_ok nonempty', enabled', if_pos rfl, filled,
          setUnknownConf_of_known known, setPortDescr_of_hasPortDescr given]
        refine ⟨typed, orgTlvs, ?_, kept orgTlvs rfl⟩
        rw [checkOrgTlvs, found]
        dsimp only
        rw [mapM_eq_ok] at checked ⊢
        clear found kept
        have plain := plain enabled
        generalize orgTlvsOf lldpBeacon = before at checked plain
        induction checked with
        | nil => exact .nil
        | cons first _ ih =>
            obtain ⟨head, others⟩ := List.forall_mem_cons.mp plain
            exact .cons (checkOrgTlv_again first head) (ih others)

/-- An `info` that has become `bytes` is not accepted. -/
theorem checkLldpBeacon_ne_ok (nonempty : lldpBeacon ≠ []) (isText : ∃ text, description = .str text)
    (enabled : lldpBeaconEnabled lldpBeacon = true)
    (returns : checkLldpBeacon description lldpBeacon = .ok lldpBeacon')
    (notPlain : ∃ orgTlv ∈ orgTlvsOf lldpBeacon, plainInfo orgTlv = false) (lldpBeacon'' : Dict) :
    checkLldpBeacon description' lldpBeacon' ≠ .ok lldpBeacon'' := by
  obtain ⟨nonempty', typed, known, enabled', portDescr, orgTlvs, checked, found, kept⟩ :=
    settled nonempty isText enabled returns
  intro again
  obtain ⟨_, again⟩ := (checkLldpBeacon_eq_ok nonempty').mp again
  rw [enabled', if_pos rfl, filled, setUnknownConf_of_known known] at again
  obtain ⟨orgTlvs', again, -⟩ := again
  rw [checkOrgTlvs, lookup_setPortDescr (by decide), found] at again
  dsimp only at again
  rw [mapM_eq_ok] at checked again
  obtain ⟨orgTlv, member, notPlain⟩ := notPlain
  clear found kept
  generalize orgTlvsOf lldpBeacon = before at checked member
  induction checked generalizing orgTlvs' with
  | nil => cases member
  | cons first _ ih =>
      cases again with
      | cons again others =>
          rcases List.mem_cons.mp member with rfl | later
          · exact checkOrgTlv_ne_ok first notPlain _ again
          · exact ih _ others later

/-- The description of the port matters for an enabled beacon without a `port_descr`. -/
theorem checkLldpBeacon_congr (same : lldpBeaconEnabled lldpBeacon = true →
    hasPortDescr lldpBeacon ∨ description = description') :
    checkLldpBeacon description lldpBeacon = checkLldpBeacon description' lldpBeacon := by
  rw [checkLldpBeacon, checkLldpBeacon]
  dsimp only
  rw [enabled_filled]
  by_cases enabled : lldpBeaconEnabled lldpBeacon = true
  · rcases same enabled with given | rfl
    · have given' : hasPortDescr (filled lldpBeacon) := by rwa [hasPortDescr, getD_filled rfl]
      rw [setPortDescr_of_hasPortDescr given', setPortDescr_of_hasPortDescr given']
    · rfl
  · rw [if_neg enabled, if_neg enabled]

/-- Ports that make the same of an enabled beacon without a `port_descr` have one description. -/
theorem description_of_same (nonempty : lldpBeacon ≠ [])
    (isText : ∃ text, description = .str text) (isText' : ∃ text, description' = .str text)
    (enabled : lldpBeaconEnabled lldpBeacon = true)
    (returns : checkLldpBeacon description lldpBeacon = .ok lldpBeacon')
    (returns' : checkLldpBeacon description' lldpBeacon = .ok lldpBeacon') :
    hasPortDescr lldpBeacon ∨ description = description' := by
  by_cases given : hasPortDescr lldpBeacon
  · exact .inl given
  · have isNull : ((filled lldpBeacon).lookup "port_descr").getD .null = .null := by
      rw [getD_filled rfl]
      rwa [hasPortDescr, not_not] at given
    have first := (settled nonempty isText enabled returns).portDescr
    have second := (settled nonempty isText' enabled returns').portDescr
    rw [first] at second
    simp only [setPortDescr, isNull, lookup_set, if_true, Option.getD_some] at second
    exact .inr second

end Beacon

end Faucet.Config.Interfaces
