import Faucet.Config.SharedOptions

/-!
# When shared options are harmless

Whether a port is accepted, and what it becomes, depends on its dictionaries in a few ways only
(`checkConfig_eq_ok`): a non-VLAN port has no beacon, and the beacon and the coprocessor are checked by
themselves. Ports that agree on what they share are parsed as if each were alone
(`parsePorts_of_agree`): what one has written is what the next one would write.
-/

set_option autoImplicit false

namespace Faucet.Config.Interfaces

open OrderedDict Fallible

variable {α V : Type}

/-! ## One port -/

namespace Port

variable {validMac : String → Bool} {port port' result : Port} {defaultBeacon : Dict}

/-- The checks that do not depend on what the dictionaries hold. -/
structure Valid (validMac : String → Bool) (port : Port) : Prop where
  number : port.checkNumber = .ok ()
  vlanOptions : port.checkVlanOptions = .ok ()
  placed : port.nonVlanPortOptions ≠ [] →
    ∀ default ∈ firstDefaults ++ lastDefaults, port.misplaced default = false
  hairpin : port.checkHairpin = .ok ()
  dot1x : port.checkDot1x = .ok ()
  stack : port.checkStack = .ok ()
  lacp : port.checkLacp validMac = .ok ()
  acls : port.checkAcls = .ok ()

theorem checkNonVlanOptions_eq_ok : port.checkNonVlanOptions defaultBeacon = .ok () ↔
    (port.nonVlanPortOptions ≠ [] →
      ∀ default ∈ firstDefaults ++ lastDefaults, port.misplaced default = false) ∧
    (port.nonVlanPortOptions ≠ [] → port.misplaced ("lldp_beacon", .dict defaultBeacon) = false) := by
  rw [checkNonVlanOptions, testConfigCondition_eq_ok]
  by_cases vlanPort : port.nonVlanPortOptions = []
  · simp [vlanPort]
  · have notEmpty : (!port.nonVlanPortOptions.isEmpty) = true := by simpa using vlanPort
    rw [notEmpty, Bool.true_and, defaults, List.any_append, List.any_cons, Bool.or_eq_false_iff,
      Bool.or_eq_false_iff, List.any_eq_false, List.any_eq_false]
    simp only [Bool.not_eq_true, List.mem_append]
    constructor
    · rintro ⟨first, beacon, last⟩
      exact ⟨fun _ default member => member.elim (first default) (last default), fun _ => beacon⟩
    · rintro ⟨others, beacon⟩
      exact ⟨fun default member => others vlanPort default (.inl member), beacon vlanPort,
        fun default member => others vlanPort default (.inr member)⟩

/-- What `check_config` accepts, and what it returns. -/
theorem checkConfig_eq_ok : port.checkConfig validMac defaultBeacon = .ok result ↔
    port.Valid validMac ∧
    (port.nonVlanPortOptions ≠ [] → port.misplaced ("lldp_beacon", .dict defaultBeacon) = false) ∧
    ∃ coprocessor lldpBeacon, checkCoprocessor port.coprocessor = .ok coprocessor ∧
      checkLldpBeacon (port.option "description") port.enableBeacon = .ok lldpBeacon ∧
      { port.settle with lldpBeacon := lldpBeacon, coprocessor := coprocessor } = result := by
  rw [checkConfig]
  constructor
  · intro returns
    obtain ⟨_, number, returns⟩ := bind_eq_ok.mp returns
    obtain ⟨_, vlanOptions, returns⟩ := bind_eq_ok.mp returns
    obtain ⟨_, nonVlanOptions, returns⟩ := bind_eq_ok.mp returns
    obtain ⟨_, hairpin, returns⟩ := bind_eq_ok.mp returns
    obtain ⟨_, dot1x, returns⟩ := bind_eq_ok.mp returns
    obtain ⟨coprocessor, checked, returns⟩ := bind_eq_ok.mp returns
    obtain ⟨_, stack, returns⟩ := bind_eq_ok.mp returns
    obtain ⟨_, lacp, returns⟩ := bind_eq_ok.mp returns
    obtain ⟨lldpBeacon, beacon, returns⟩ := bind_eq_ok.mp returns
    obtain ⟨_, acls, returns⟩ := bind_eq_ok.mp returns
    obtain ⟨placed, fits⟩ := checkNonVlanOptions_eq_ok.mp nonVlanOptions
    exact ⟨⟨number, vlanOptions, placed, hairpin, dot1x, stack, lacp, acls⟩, fits, coprocessor,
      lldpBeacon, checked, beacon, Except.ok.inj returns⟩
  · rintro ⟨valid, fits, coprocessor, lldpBeacon, checked, beacon, rfl⟩
    have nonVlanOptions := checkNonVlanOptions_eq_ok.mpr ⟨valid.placed, fits⟩
    exact bind_eq_ok.mpr ⟨(), valid.number, bind_eq_ok.mpr ⟨(), valid.vlanOptions,
      bind_eq_ok.mpr ⟨(), nonVlanOptions, bind_eq_ok.mpr ⟨(), valid.hairpin,
      bind_eq_ok.mpr ⟨(), valid.dot1x, bind_eq_ok.mpr ⟨coprocessor, checked,
      bind_eq_ok.mpr ⟨(), valid.stack, bind_eq_ok.mpr ⟨(), valid.lacp,
      bind_eq_ok.mpr ⟨lldpBeacon, beacon, bind_eq_ok.mpr ⟨(), valid.acls, rfl⟩⟩⟩⟩⟩⟩⟩⟩⟩⟩

/-- The ports differ in what their dictionaries hold, and not in whether there is a coprocessor. -/
structure Similar (port port' : Port) : Prop where
  option : port.option = port'.option
  coprocessor : port.coprocessor.isEmpty = port'.coprocessor.isEmpty

theorem Similar.truthy_get (similar : Similar port port') {name : String}
    (other : name ≠ "lldp_beacon") : (port.get name).truthy = (port'.get name).truthy := by
  rw [get, get, if_neg other, if_neg other]
  split
  · rw [Value.truthy, Value.truthy, similar.coprocessor]
  · rw [similar.option]

theorem Similar.nonVlanPortOptions (similar : Similar port port') :
    port.nonVlanPortOptions = port'.nonVlanPortOptions := by
  rw [Port.nonVlanPortOptions, Port.nonVlanPortOptions]
  refine List.filter_congr fun name member => similar.truthy_get ?_
  rintro rfl
  simp at member

theorem mem_nonVlanPortOptions {name : String} (listed : name ∈ ["stack", "mirror", "coprocessor",
    "output_only"]) (isTrue : (port.get name).truthy = true) : name ∈ port.nonVlanPortOptions :=
  List.mem_filter.mpr ⟨listed, isTrue⟩

theorem Similar.misplaced (similar : Similar port port') {default : String × Value}
    (other : default.1 ≠ "lldp_beacon") : port.misplaced default = port'.misplaced default := by
  have sameGet := similar.truthy_get other
  rw [Port.misplaced, Port.misplaced, sameGet, similar.nonVlanPortOptions, similar.option,
    similar.truthy_get (by decide : "coprocessor" ≠ "lldp_beacon")]
  by_cases same : default.1 = "coprocessor"
  · cases isTrue : (port'.get default.1).truthy with
    | false => simp
    | true =>
        have member : default.1 ∈ port'.nonVlanPortOptions := by
          rw [same] at isTrue ⊢
          exact mem_nonVlanPortOptions (by decide) isTrue
        simp [member]
  · have sameValue : port.get default.1 = port'.get default.1 := by
      rw [get, get, if_neg other, if_neg same, if_neg other, if_neg same, similar.option]
    rw [sameValue]

theorem Similar.valid (similar : Similar port port') (valid : port.Valid validMac) :
    port'.Valid validMac := by
  obtain ⟨number, vlanOptions, placed, hairpin, dot1x, stack, lacp, acls⟩ := valid
  obtain ⟨sameOption, _⟩ := id similar
  refine ⟨?_, ?_, ?_, ?_, ?_, ?_, ?_, ?_⟩
  · rwa [checkNumber, ← sameOption]
  · rwa [checkVlanOptions, ← sameOption, ← similar.nonVlanPortOptions]
  · rw [← similar.nonVlanPortOptions]
    intro vlanPort default member
    rw [← similar.misplaced]
    · exact placed vlanPort default member
    · rintro same
      have absent : ∀ default ∈ firstDefaults ++ lastDefaults, default.1 ≠ "lldp_beacon" := by
        simp [firstDefaults, lastDefaults]
      exact absent default member same
  · rwa [checkHairpin, ← sameOption]
  · rwa [checkDot1x, ← sameOption]
  · rwa [checkStack, ← sameOption]
  · rwa [checkLacp, ← sameOption]
  · rwa [checkAcls, aclsIn, ← sameOption]

/-- A non-VLAN port has no beacon. -/
theorem misplaced_beacon : port.misplaced ("lldp_beacon", .dict []) = !port.lldpBeacon.isEmpty := by
  have absent : "lldp_beacon" ∉ vlanAgnosticOptions ++ port.nonVlanPortOptions := by
    simp [vlanAgnosticOptions, nonVlanPortOptions]
  have notAcl : "acl".toList.isPrefixOf "lldp_beacon".toList = false := by decide
  rw [misplaced]
  dsimp only
  rw [decide_eq_false absent, notAcl, Bool.false_and, get, if_pos rfl]
  cases port.lldpBeacon with
  | nil => rfl
  | cons entry rest => simp [Value.eq, Value.truthy]

theorem Similar.settle (similar : Similar port port') : port.settle.option = port'.settle.option := by
  obtain ⟨option, lldpBeacon, coprocessor⟩ := port
  obtain ⟨option', lldpBeacon', coprocessor'⟩ := port'
  obtain rfl : option = option' := similar.option
  simp only [Port.settle, setOption, apply_ite Port.option]

theorem start_option_congr {conf conf' : Dict} (default default' : Dict) (key : Value)
    (same : ∀ name, name ∉ nestedOptions → conf'.lookup name = conf.lookup name) :
    (start default key conf).option = (start default' key conf').option := by
  have sameDefault : ∀ name, name ∉ nestedOptions → withDefault conf' name = withDefault conf name := by
    intro name other
    rw [withDefault, withDefault, same name other]
  have sameName : nameOf key conf' = nameOf key conf := by
    rw [nameOf, nameOf, sameDefault "name" (by decide)]
  funext name
  simp only [start]
  by_cases listed : name = "lldp_beacon" ∨ name = "coprocessor"
  · rw [if_pos listed, if_pos listed]
  · have other : name ∉ nestedOptions := by simpa [nestedOptions] using listed
    rw [if_neg listed, if_neg listed, sameDefault name other, sameName]

/-- A port has a description. -/
theorem start_description {conf : Dict} (default : Dict) (key : Value)
    (typed : ∀ entry ∈ conf, wellTyped defaultsTypes entry = true) :
    ∃ text, (start default key conf).option "description" = .str text := by
  have isText : ∀ name, name ∈ ["name", "description"] →
      withDefault conf name = .null ∨ ∃ text, withDefault conf name = .str text := by
    intro name listed
    have noDefault : ((firstDefaults ++ lastDefaults).lookup name).getD .null = .null ∧
        initial name = .null ∧ defaultsTypes.lookup name = some [.str] := by
      simp only [List.mem_cons, List.not_mem_nil, or_false] at listed
      rcases listed with rfl | rfl <;> exact ⟨rfl, rfl, rfl⟩
    rw [withDefault, noDefault.1, noDefault.2.1]
    cases found : conf.lookup name with
    | none => exact .inl rfl
    | some value =>
        have allowed := typed _ (mem_of_lookup found)
        rw [wellTyped] at allowed
        dsimp only at allowed
        rw [noDefault.2.2] at allowed
        cases value with
        | null => exact .inl rfl
        | str text => exact .inr ⟨text, rfl⟩
        | _ => simp [Value.isInstance] at allowed
  have nameText : ∃ text, nameOf key conf = .str text := by
    rw [nameOf]
    rcases isText "name" (by simp) with isNull | ⟨text, found⟩
    · exact ⟨key.text, by rw [isNull]⟩
    · exact ⟨text, by rw [found]⟩
  simp only [start]
  rw [if_neg (by decide)]
  rcases isText "description" (by simp) with isNull | ⟨text, found⟩
  · rw [isNull]
    exact nameText
  · exact ⟨text, by rw [found]⟩

/-! ## The dictionaries -/

theorem isEmpty_coprocessor {coprocessor coprocessor' : Dict}
    (checked : checkCoprocessor coprocessor = .ok coprocessor') :
    coprocessor.isEmpty = coprocessor'.isEmpty := by
  rw [checkCoprocessor] at checked
  split at checked
  · cases checked
    rfl
  next nonempty =>
    obtain ⟨_, _, checked⟩ := bind_eq_ok.mp checked
    obtain ⟨_, _, checked⟩ := bind_eq_ok.mp checked
    cases checked
    rw [Bool.not_eq_true] at nonempty
    rw [nonempty, eq_comm, List.isEmpty_eq_false_iff]
    exact set_ne_nil

/-- A coprocessor that has been checked stays. -/
theorem checkCoprocessor_again {coprocessor coprocessor' : Dict}
    (checked : checkCoprocessor coprocessor = .ok coprocessor') :
    checkCoprocessor coprocessor' = .ok coprocessor' := by
  have sameEmpty := isEmpty_coprocessor checked
  rw [checkCoprocessor] at checked
  split at checked
  next isEmpty =>
    cases checked
    rw [checkCoprocessor, if_pos isEmpty]
  next nonempty =>
    obtain ⟨_, typed, checked⟩ := bind_eq_ok.mp checked
    obtain ⟨_, strategy, checked⟩ := bind_eq_ok.mp checked
    cases checked
    have typed := checkEntryTypes_eq_ok.mp typed
    rw [checkCoprocessor, ← sameEmpty, if_neg nonempty]
    refine bind_eq_ok.mpr ⟨(), checkEntryTypes_eq_ok.mpr fun entry member => ?_,
      bind_eq_ok.mpr ⟨(), ?_, ?_⟩⟩
    · rcases mem_of_mem_set member with old | rfl
      · exact typed entry old
      · cases found : coprocessor.lookup "vlan_vid_base" with
        | none => rfl
        | some value => exact typed _ (mem_of_lookup found)
    · rw [lookup_set, if_neg (by decide)]
      exact strategy
    · rw [lookup_set, if_pos rfl, Option.getD_some, set_set]

end Port

/-! ## Parsing a port -/

variable {env : Env V} {key : Value} {conf conf' : Dict} {parsed : ParsedPort V} {defaultBeacon : Dict}

theorem dpParsePort_eq_ok : dpParsePort env defaultBeacon key conf = .ok parsed ↔
    (conf.any fun option => ((defaults []).lookup option.1).isNone) = false ∧
    (∀ entry ∈ conf, wellTyped defaultsTypes entry = true) ∧
    (Port.start defaultBeacon key conf).checkConfig env.validMac defaultBeacon = .ok parsed.port ∧
    key.text ∈ [(parsed.port.option "number").text, (parsed.port.option "name").text] ∧
    nativeVlanOf env parsed.port = .ok parsed.nativeVlan ∧
    taggedVlansOf env parsed.port = .ok parsed.taggedVlans := by
  rw [dpParsePort]
  constructor
  · intro returns
    obtain ⟨port, made, returns⟩ := bind_eq_ok.mp returns
    obtain ⟨_, matching, returns⟩ := bind_eq_ok.mp returns
    obtain ⟨nativeVlan, native, returns⟩ := bind_eq_ok.mp returns
    obtain ⟨taggedVlans, tagged, returns⟩ := bind_eq_ok.mp returns
    cases returns
    rw [Port.make] at made
    obtain ⟨_, known, made⟩ := bind_eq_ok.mp made
    obtain ⟨_, typed, made⟩ := bind_eq_ok.mp made
    refine ⟨testConfigCondition_eq_ok.mp known, checkEntryTypes_eq_ok.mp typed, made, ?_, native,
      tagged⟩
    have matching := testConfigCondition_eq_ok.mp matching
    rw [Bool.not_eq_false'] at matching
    exact of_decide_eq_true matching
  · rintro ⟨known, typed, made, matching, native, tagged⟩
    refine bind_eq_ok.mpr ⟨parsed.port, ?_, bind_eq_ok.mpr ⟨(), ?_,
      bind_eq_ok.mpr ⟨_, native, bind_eq_ok.mpr ⟨_, tagged, rfl⟩⟩⟩⟩
    · rw [Port.make]
      exact bind_eq_ok.mpr ⟨(), testConfigCondition_eq_ok.mpr known,
        bind_eq_ok.mpr ⟨(), checkEntryTypes_eq_ok.mpr typed, made⟩⟩
    · rw [testConfigCondition_eq_ok, decide_eq_true matching]
      rfl

/-- What a port does with its dictionaries. -/
theorem dictionaries_of_parsed (returns : dpParsePort env defaultBeacon key conf = .ok parsed) :
    Port.checkCoprocessor (Port.start defaultBeacon key conf).coprocessor =
        .ok parsed.port.coprocessor ∧
      checkLldpBeacon ((Port.start defaultBeacon key conf).option "description")
        (Port.start defaultBeacon key conf).enableBeacon = .ok parsed.port.lldpBeacon ∧
      ((Port.start defaultBeacon key conf).nonVlanPortOptions ≠ [] →
        (Port.start defaultBeacon key conf).misplaced ("lldp_beacon", .dict defaultBeacon) =
          false) := by
  obtain ⟨_, _, made, _⟩ := dpParsePort_eq_ok.mp returns
  obtain ⟨_, fits, coprocessor, lldpBeacon, checked, beacon, same⟩ := Port.checkConfig_eq_ok.mp made
  rw [← same]
  exact ⟨checked, beacon, fits⟩

/-- A configuration that differs in the dictionaries is accepted too, if they are. -/
theorem dpParsePort_similar {coprocessor lldpBeacon : Dict}
    (returns : dpParsePort env [] key conf = .ok parsed)
    (names : conf'.map Prod.fst = conf.map Prod.fst)
    (typed : ∀ entry ∈ conf', wellTyped defaultsTypes entry = true)
    (similar : Port.Similar (Port.start [] key conf) (Port.start [] key conf'))
    (fits : (Port.start [] key conf).nonVlanPortOptions ≠ [] →
      (Port.start [] key conf').lldpBeacon = [])
    (checked : Port.checkCoprocessor (Port.start [] key conf').coprocessor = .ok coprocessor)
    (beacon : checkLldpBeacon ((Port.start [] key conf').option "description")
      (Port.start [] key conf').enableBeacon = .ok lldpBeacon) :
    dpParsePort env [] key conf' = .ok { parsed with
      port := { parsed.port with lldpBeacon := lldpBeacon, coprocessor := coprocessor } } := by
  obtain ⟨known, _, made, others⟩ := dpParsePort_eq_ok.mp returns
  obtain ⟨valid, _, _, _, _, _, same⟩ := Port.checkConfig_eq_ok.mp made
  refine dpParsePort_eq_ok.mpr ⟨?_, typed, Port.checkConfig_eq_ok.mpr ⟨similar.valid valid,
    fun vlanPort => ?_, _, _, checked, beacon, ?_⟩, others⟩
  · have unknown : ∀ conf : Dict, (conf.any fun option => ((defaults []).lookup option.1).isNone) =
        (conf.map Prod.fst).any fun name => ((defaults []).lookup name).isNone := by
      intro conf
      rw [List.any_map]
      rfl
    rwa [unknown, names, ← unknown]
  · rw [Port.misplaced_beacon, fits (similar.nonVlanPortOptions ▸ vlanPort)]
    rfl
  · rw [← same]
    simp only [similar.settle]

/-! ## The store -/

section Store

variable [DecidableEq α] {entry : Entry α} {port : Port} {store : Store α} {name name' : String}
  {object : α}

omit [DecidableEq α] in
theorem lookup_load (objects : Objects α) (entry : Entry α) (name : String) :
    (entry.load objects).lookup name = (entry.conf.lookup name).map (objects name) := by
  rw [Entry.load]
  induction entry.conf with
  | nil => rfl
  | cons option rest ih =>
      obtain ⟨name', object⟩ := option
      rw [List.map_cons, lookup_cons_eq, ih, lookup_cons_eq]
      by_cases same : name = name'
      · rw [if_pos same, if_pos same, same]
        rfl
      · rw [if_neg same, if_neg same]

/-- What is written: the object that is the option, when it is a dictionary. -/
theorem objects_write : (entry.write port store name).objects name' object =
    if name' = name ∧ entry.conf.lookup name = some object ∧
      (store.objects name object).isInstance .dict = true then .dict (port.nested name)
    else store.objects name' object := by
  rw [Entry.write]
  cases has : entry.conf.lookup name with
  | none => simp
  | some object' =>
      dsimp only
      cases value : store.objects name object' with
      | dict entries =>
          by_cases both : name' = name ∧ object = object'
          · obtain ⟨rfl, rfl⟩ := both
            simp [value, Value.isInstance]
          · have notBoth : ¬ (name' = name ∧ some object' = some object ∧
                (store.objects name object).isInstance .dict = true) := by
              rintro ⟨sameName, sameObject, _⟩
              exact both ⟨sameName, (Option.some.inj sameObject).symm⟩
            dsimp only
            rw [if_neg both, if_neg notBoth]
      | _ =>
          have notDict : ¬ (name' = name ∧ some object' = some object ∧
              (store.objects name object).isInstance .dict = true) := by
            rintro ⟨_, sameObject, isDict⟩
            cases sameObject
            rw [value] at isDict
            cases isDict
          rw [if_neg notDict]
          dsimp only
          split <;> rfl

theorem objects_store : (entry.store port store).objects name object =
    if name ∈ nestedOptions ∧ entry.conf.lookup name = some object ∧
      (store.objects name object).isInstance .dict = true then .dict (port.nested name)
    else store.objects name object := by
  simp only [Entry.store, nestedOptions, List.foldl_cons, List.foldl_nil]
  rw [objects_write, objects_write, objects_write]
  by_cases isBeacon : name = "lldp_beacon"
  · subst isBeacon
    simp
  · by_cases isCoprocessor : name = "coprocessor"
    · subst isCoprocessor
      simp
    · simp [isBeacon, isCoprocessor]

theorem defaultBeacon_store : (entry.store port store).defaultBeacon =
    if ∃ object, entry.conf.lookup "lldp_beacon" = some object ∧
      (store.objects "lldp_beacon" object).isInstance .dict = false then port.lldpBeacon
    else store.defaultBeacon := by
  have kept : ∀ store : Store α, (entry.write port store "coprocessor").defaultBeacon =
      store.defaultBeacon := by
    intro store
    rw [Entry.write]
    split
    · rfl
    · split
      · rfl
      · rfl
  simp only [Entry.store, nestedOptions, List.foldl_cons, List.foldl_nil]
  rw [kept, Entry.write]
  cases has : entry.conf.lookup "lldp_beacon" with
  | none => simp
  | some object =>
      dsimp only
      cases value : store.objects "lldp_beacon" object with
      | dict entries => simp [value, Value.isInstance]
      | _ => simp [value, Value.isInstance]

end Store

/-! ## What is written to -/

section OnlyDicts

variable {objects objects' : Objects α} {entry : Entry α}

theorem entries_of_isDict {value : Value} (isDict : value.isInstance .dict = true) :
    value = .dict value.entries := by
  cases value with
  | dict entries => rfl
  | _ => cases isDict

/-- What a dictionary holds is not part of its type. -/
theorem wellTyped_dict (types : List (String × List PyType)) (name : String) (entries entries' : Dict) :
    wellTyped types (name, .dict entries) = wellTyped types (name, .dict entries') := by
  have same : (Value.dict entries).isInstance = (Value.dict entries').isInstance := by
    funext type
    cases type <;> rfl
  rw [wellTyped, wellTyped]
  dsimp only
  cases types.lookup name with
  | none => rfl
  | some allowed =>
      dsimp only
      rw [same]

/-- The objects differ in dictionaries that are written to. -/
def OnlyDicts (objects objects' : Objects α) : Prop :=
  ∀ name object, objects' name object = objects name object ∨
    name ∈ nestedOptions ∧ (objects name object).isInstance .dict = true ∧
      (objects' name object).isInstance .dict = true

namespace OnlyDicts

theorem refl (objects : Objects α) : OnlyDicts objects objects := fun _ _ => .inl rfl

theorem symm (only : OnlyDicts objects objects') : OnlyDicts objects' objects := by
  intro name object
  rcases only name object with same | ⟨listed, isDict, isDict'⟩
  · exact .inl same.symm
  · exact .inr ⟨listed, isDict', isDict⟩

theorem isDict (only : OnlyDicts objects objects') (name : String) (object : α) :
    (objects' name object).isInstance .dict = (objects name object).isInstance .dict := by
  rcases only name object with same | ⟨_, isDict, isDict'⟩
  · rw [same]
  · rw [isDict, isDict']

/-- Other options are as configured. -/
theorem option (only : OnlyDicts objects objects') (entry : Entry α) :
    (Port.start [] entry.key (entry.load objects')).option =
      (Port.start [] entry.key (entry.load objects)).option := by
  refine Port.start_option_congr [] [] entry.key fun name other => ?_
  rw [lookup_load, lookup_load]
  cases entry.conf.lookup name with
  | none => rfl
  | some object =>
      rcases only name object with same | ⟨listed, _⟩
      · rw [Option.map_some, Option.map_some, same]
      · exact absurd listed other

/-- The types are those of the configuration. -/
theorem typed (only : OnlyDicts objects objects')
    (typed : ∀ option ∈ entry.load objects, wellTyped defaultsTypes option = true) :
    ∀ option ∈ entry.load objects', wellTyped defaultsTypes option = true := by
  intro option member
  obtain ⟨⟨name, object⟩, listed, rfl⟩ := List.mem_map.mp member
  have before := typed (name, objects name object) (List.mem_map.mpr ⟨(name, object), listed, rfl⟩)
  dsimp only
  rcases only name object with same | ⟨_, isDict, isDict'⟩
  · rwa [same]
  · rw [entries_of_isDict isDict] at before
    rw [entries_of_isDict isDict']
    exact (wellTyped_dict _ _ _ _).trans before

theorem store [DecidableEq α] {store : Store α} (only : OnlyDicts objects store.objects)
    (entry : Entry α) (port : Port) : OnlyDicts objects (entry.store port store).objects := by
  intro name object
  rw [objects_store]
  split
  next written =>
    obtain ⟨listed, _, isDict⟩ := written
    exact .inr ⟨listed, (only.isDict name object).symm.trans isDict, rfl⟩
  next => exact only name object

end OnlyDicts

theorem map_fst_load (objects : Objects α) (entry : Entry α) :
    (entry.load objects).map Prod.fst = entry.conf.map Prod.fst := by
  rw [Entry.load, List.map_map]
  rfl

end OnlyDicts

/-! ## Ports that agree -/

section Agreement

variable {objects objects' : Objects α} {entry entry' : Entry α} {parsed' : ParsedPort V}
  {name : String} {object : α} {lldpBeacon : Dict}

/-- A dictionary of the port before it is checked. -/
theorem nested_start (listed : name ∈ nestedOptions) :
    (Port.start [] entry.key (entry.load objects)).nested name =
      ((entry.conf.lookup name).map (objects name)).elim [] Value.entries := by
  simp only [nestedOptions, List.mem_cons, List.not_mem_nil, or_false] at listed
  rw [← lookup_load]
  rcases listed with rfl | rfl
  · rw [Port.nested, if_pos rfl, Port.start]
    dsimp only
    split
    next absent => rw [absent]; rfl
    next found => rw [found]; rfl
    next value notDict found =>
      rw [found]
      cases value with
      | dict entries => exact absurd rfl (notDict entries)
      | _ => rfl
  · rw [Port.nested, if_neg (by decide), Port.start]
    dsimp only
    split
    next found => rw [found]; rfl
    next notDict =>
      cases found : (entry.load objects).lookup "coprocessor" with
      | none => rfl
      | some value =>
          cases value with
          | dict entries => exact absurd found (notDict entries)
          | _ => rfl

theorem enableBeacon_of_no_stack {port : Port} (noStack : (port.option "stack").truthy = false) :
    port.enableBeacon = port.lldpBeacon := by
  rw [Port.enableBeacon, noStack, Bool.false_and, if_neg Bool.false_ne_true]

/-- What becomes of a beacon that is configured for a port without a stack. -/
theorem beacon_of_alone (returns : entry.alone env objects = .ok parsed)
    (has : entry.conf.lookup "lldp_beacon" = some object)
    (isDict : objects "lldp_beacon" object = .dict lldpBeacon)
    (noStack : (entry.option objects "stack").truthy = false) :
    checkLldpBeacon (entry.option objects "description") lldpBeacon =
      .ok parsed.port.lldpBeacon := by
  obtain ⟨_, beacon, _⟩ := dictionaries_of_parsed returns
  have start := @nested_start _ objects entry "lldp_beacon" (by decide)
  rw [has, Option.map_some, isDict] at start
  rw [enableBeacon_of_no_stack noStack] at beacon
  have given : (Port.start [] entry.key (entry.load objects)).lldpBeacon = lldpBeacon := start
  rwa [given] at beacon

theorem description_of_alone (returns : entry.alone env objects = .ok parsed) :
    ∃ text, entry.option objects "description" = .str text :=
  Port.start_description _ _ (dpParsePort_eq_ok.mp returns).2.1

/-- Ports that agree make the same of a beacon that they have both, and it stays then. -/
theorem Agree.beacon (agree : Agree objects entry' entry)
    (returns' : entry'.alone env objects = .ok parsed') (returns : entry.alone env objects = .ok parsed)
    (has' : entry'.conf.lookup "lldp_beacon" = some object)
    (has : entry.conf.lookup "lldp_beacon" = some object)
    (isDict : objects "lldp_beacon" object = .dict lldpBeacon) :
    parsed'.port.lldpBeacon = parsed.port.lldpBeacon ∧
      (entry.option objects "stack").truthy = false ∧
      ∀ description, checkLldpBeacon description parsed.port.lldpBeacon =
        .ok parsed.port.lldpBeacon := by
  obtain ⟨noStack', noStack, whenEnabled⟩ := agree object lldpBeacon has' has isDict
  have beacon' := beacon_of_alone returns' has' isDict noStack'
  have beacon := beacon_of_alone returns has isDict noStack
  refine ⟨?_, noStack, fun description => ?_⟩
  · rw [checkLldpBeacon_congr fun enabled => (whenEnabled enabled).1, beacon] at beacon'
    exact (Except.ok.inj beacon').symm
  · exact checkLldpBeacon_again (description_of_alone returns) beacon
      fun enabled => (whenEnabled enabled).2

theorem coprocessor_of_alone {coprocessor : Dict} (returns : entry.alone env objects = .ok parsed)
    (has : entry.conf.lookup "coprocessor" = some object)
    (isDict : objects "coprocessor" object = .dict coprocessor) :
    Port.checkCoprocessor coprocessor = .ok parsed.port.coprocessor := by
  obtain ⟨checked, _, _⟩ := dictionaries_of_parsed returns
  have start := @nested_start _ objects entry "coprocessor" (by decide)
  rw [has, Option.map_some, isDict] at start
  have given : (Port.start [] entry.key (entry.load objects)).coprocessor = coprocessor := start
  rwa [given] at checked

/-- Ports that agree make the same of the dictionaries that they have both. -/
theorem Agree.nested (agree : Agree objects entry' entry)
    (returns' : entry'.alone env objects = .ok parsed') (returns : entry.alone env objects = .ok parsed)
    (listed : name ∈ nestedOptions) (has' : entry'.conf.lookup name = some object)
    (has : entry.conf.lookup name = some object)
    (isDict : (objects name object).isInstance .dict = true) :
    parsed'.port.nested name = parsed.port.nested name := by
  have isDict := entries_of_isDict isDict
  simp only [nestedOptions, List.mem_cons, List.not_mem_nil, or_false] at listed
  rcases listed with rfl | rfl
  · exact (agree.beacon returns' returns has' has isDict).1
  · have checked' := coprocessor_of_alone returns' has' isDict
    have checked := coprocessor_of_alone returns has isDict
    exact Except.ok.inj (checked'.symm.trans checked)

end Agreement

/-! ## Ports that agree are parsed as if they were alone -/

section Sufficient

variable [DecidableEq α] {objects : Objects α} {entry : Entry α} {store : Store α}
  {done : List (Entry α × ParsedPort V)}

/-- The store after some ports have been parsed. -/
structure Holds (objects : Objects α) (done : List (Entry α × ParsedPort V)) (store : Store α) :
    Prop where
  default : store.defaultBeacon = []
  kept : ∀ name object, store.objects name object = objects name object ∨
    name ∈ nestedOptions ∧ (objects name object).isInstance .dict = true ∧
      ∃ pair ∈ done, pair.1.conf.lookup name = some object ∧
        store.objects name object = .dict (pair.2.port.nested name)
  written : ∀ pair ∈ done, ∀ name ∈ nestedOptions, ∀ object,
    pair.1.conf.lookup name = some object → (objects name object).isInstance .dict = true →
      store.objects name object = .dict (pair.2.port.nested name)

omit [DecidableEq α] in
theorem Holds.onlyDicts (holds : Holds objects done store) : OnlyDicts objects store.objects := by
  intro name object
  rcases holds.kept name object with same | ⟨listed, isDict, _, _, _, written⟩
  · exact .inl same
  · rw [written]
    exact .inr ⟨listed, isDict, rfl⟩

omit [DecidableEq α] in
/-- A dictionary of the port is as configured, or as another port has made it. -/
theorem Holds.nested_start (holds : Holds objects done store) {name : String}
    (listed : name ∈ nestedOptions) :
    (Port.start [] entry.key (entry.load store.objects)).nested name =
        (Port.start [] entry.key (entry.load objects)).nested name ∨
      ∃ pair ∈ done, ∃ object, pair.1.conf.lookup name = some object ∧
        entry.conf.lookup name = some object ∧ (objects name object).isInstance .dict = true ∧
        (Port.start [] entry.key (entry.load store.objects)).nested name =
          pair.2.port.nested name := by
  rw [Interfaces.nested_start listed, Interfaces.nested_start listed]
  cases has : entry.conf.lookup name with
  | none => exact .inl rfl
  | some object =>
      rcases holds.kept name object with same | ⟨_, isDict, pair, member, has', written⟩
      · rw [Option.map_some, Option.map_some, same]
        exact .inl rfl
      · refine .inr ⟨pair, member, object, has', rfl, isDict, ?_⟩
        rw [Option.map_some, written]
        rfl

omit [DecidableEq α] in
/-- The next port is parsed as if it were alone. -/
theorem Holds.parses (holds : Holds objects done store)
    (returns : entry.alone env objects = .ok parsed)
    (doneReturns : ∀ pair ∈ done, pair.1.alone env objects = .ok pair.2)
    (agree : ∀ pair ∈ done, Agree objects pair.1 entry) :
    dpParsePort env store.defaultBeacon entry.key (entry.load store.objects) = .ok parsed := by
  obtain ⟨checked, beacon, fits⟩ := dictionaries_of_parsed returns
  have sameOption := holds.onlyDicts.option entry
  have coprocessorStart :=
    @Holds.nested_start _ _ _ entry _ _ holds "coprocessor" (by decide)
  have beaconStart := @Holds.nested_start _ _ _ entry _ _ holds "lldp_beacon" (by decide)
  have sameCoprocessor : (Port.start [] entry.key (entry.load objects)).coprocessor.isEmpty =
        (Port.start [] entry.key (entry.load store.objects)).coprocessor.isEmpty ∧
      Port.checkCoprocessor (Port.start [] entry.key (entry.load store.objects)).coprocessor =
        .ok parsed.port.coprocessor := by
    rcases coprocessorStart with same | ⟨pair, member, object, has', has, isDict, written⟩
    · have same : (Port.start [] entry.key (entry.load store.objects)).coprocessor =
          (Port.start [] entry.key (entry.load objects)).coprocessor := same
      rw [same]
      exact ⟨rfl, checked⟩
    · have agreed := (agree pair member).nested (doneReturns pair member) returns (by decide) has' has
        isDict
      have written : (Port.start [] entry.key (entry.load store.objects)).coprocessor =
          parsed.port.coprocessor := written.trans agreed
      rw [written]
      exact ⟨Port.isEmpty_coprocessor checked, Port.checkCoprocessor_again checked⟩
  have sameBeacon : ((Port.start [] entry.key (entry.load objects)).nonVlanPortOptions ≠ [] →
        (Port.start [] entry.key (entry.load store.objects)).lldpBeacon = []) ∧
      checkLldpBeacon ((Port.start [] entry.key (entry.load store.objects)).option "description")
        (Port.start [] entry.key (entry.load store.objects)).enableBeacon =
          .ok parsed.port.lldpBeacon := by
    have noBeacon : (Port.start [] entry.key (entry.load objects)).nonVlanPortOptions ≠ [] →
        (Port.start [] entry.key (entry.load objects)).lldpBeacon = [] := by
      intro vlanPort
      have placed := fits vlanPort
      rw [Port.misplaced_beacon, Bool.not_eq_false', List.isEmpty_iff] at placed
      exact placed
    rcases beaconStart with same | ⟨pair, member, object, has', has, isDict, written⟩
    · have same : (Port.start [] entry.key (entry.load store.objects)).lldpBeacon =
          (Port.start [] entry.key (entry.load objects)).lldpBeacon := same
      rw [same, Port.enableBeacon, sameOption, same]
      exact ⟨noBeacon, beacon⟩
    · have isDict := entries_of_isDict isDict
      obtain ⟨agreed, noStack, again⟩ :=
        (agree pair member).beacon (doneReturns pair member) returns has' has isDict
      have written : (Port.start [] entry.key (entry.load store.objects)).lldpBeacon =
          parsed.port.lldpBeacon := written.trans agreed
      have noStack' : ((Port.start [] entry.key (entry.load store.objects)).option "stack").truthy =
          false := by rwa [sameOption]
      rw [enableBeacon_of_no_stack noStack', written]
      refine ⟨fun vlanPort => ?_, again _⟩
      have empty := noBeacon vlanPort
      rw [enableBeacon_of_no_stack noStack, empty] at beacon
      exact (Except.ok.inj beacon).symm
  rw [holds.default]
  exact dpParsePort_similar returns (by rw [map_fst_load, map_fst_load])
    (holds.onlyDicts.typed (dpParsePort_eq_ok.mp returns).2.1) ⟨sameOption.symm, sameCoprocessor.1⟩
    sameBeacon.1 sameCoprocessor.2 sameBeacon.2

omit [DecidableEq α] in
/-- A `lldp_beacon` that is no dictionary is null. -/
theorem isNull_of_alone {object : α} (returns : entry.alone env objects = .ok parsed)
    (has : entry.conf.lookup "lldp_beacon" = some object)
    (notDict : (objects "lldp_beacon" object).isInstance .dict = false) :
    objects "lldp_beacon" object = .null := by
  have typed := (dpParsePort_eq_ok.mp returns).2.1
  have found : (entry.load objects).lookup "lldp_beacon" = some (objects "lldp_beacon" object) := by
    rw [lookup_load, has]
    rfl
  have allowed := typed _ (mem_of_lookup found)
  have type : defaultsTypes.lookup "lldp_beacon" = some [.dict] := rfl
  rw [wellTyped] at allowed
  dsimp only at allowed
  rw [type] at allowed
  cases value : objects "lldp_beacon" object with
  | null => rfl
  | dict entries =>
      rw [value] at notDict
      cases notDict
  | _ =>
      rw [value] at allowed
      simp [Value.isInstance] at allowed

omit [DecidableEq α] in
/-- Without a `stack` the beacon of the class stays empty. -/
theorem lldpBeacon_of_null {object : α} (returns : entry.alone env objects = .ok parsed)
    (has : entry.conf.lookup "lldp_beacon" = some object)
    (notDict : (objects "lldp_beacon" object).isInstance .dict = false)
    (alone : ¬ StackWithoutBeacon objects entry) : parsed.port.lldpBeacon = [] := by
  have isNull := isNull_of_alone returns has notDict
  have noStack : (entry.option objects "stack").truthy = false := by
    rw [← Bool.not_eq_true]
    exact fun stack => alone ⟨stack, object, has, isNull⟩
  obtain ⟨_, beacon, _⟩ := dictionaries_of_parsed returns
  have start := @nested_start _ objects entry "lldp_beacon" (by decide)
  rw [has, Option.map_some, isNull] at start
  have given : (Port.start [] entry.key (entry.load objects)).lldpBeacon = [] := start
  rw [enableBeacon_of_no_stack noStack, given] at beacon
  exact (Except.ok.inj beacon).symm

/-- What is written for the next port is what the others with the same dictionaries have
written. -/
theorem Holds.step (holds : Holds objects done store)
    (returns : entry.alone env objects = .ok parsed)
    (doneReturns : ∀ pair ∈ done, pair.1.alone env objects = .ok pair.2)
    (alone : ¬ StackWithoutBeacon objects entry)
    (agree : ∀ pair ∈ done, Agree objects pair.1 entry) :
    Holds objects (done ++ [(entry, parsed)]) (entry.store parsed.port store) := by
  have isDict := holds.onlyDicts.isDict
  refine ⟨?_, fun name object => ?_, fun pair member name listed object has dict => ?_⟩
  · rw [defaultBeacon_store]
    split
    next isNull =>
      obtain ⟨object, has, notDict⟩ := isNull
      rw [isDict] at notDict
      exact lldpBeacon_of_null returns has notDict alone
    next => exact holds.default
  · rw [objects_store]
    split
    next written =>
      obtain ⟨listed, has, dict⟩ := written
      rw [isDict] at dict
      exact .inr ⟨listed, dict, (entry, parsed), by simp, has, rfl⟩
    next =>
      rcases holds.kept name object with same | ⟨listed, dict, pair, member, has, written⟩
      · exact .inl same
      · exact .inr ⟨listed, dict, pair, List.mem_append_left _ member, has, written⟩
  · rw [objects_store]
    split
    next written =>
      rcases List.mem_append.mp member with earlier | last
      · rw [(agree pair earlier).nested (doneReturns pair earlier) returns listed has written.2.1
          dict]
      · obtain rfl : pair = (entry, parsed) := by simpa using last
        rfl
    next notWritten =>
      rcases List.mem_append.mp member with earlier | last
      · exact holds.written pair earlier name listed object has dict
      · obtain rfl : pair = (entry, parsed) := by simpa using last
        exact absurd ⟨listed, has, (isDict name object).trans dict⟩ notWritten

omit [DecidableEq α] in
/-- In the end the port has the dictionaries that it has alone. -/
theorem Holds.view (holds : Holds objects done store) (member : (entry, parsed) ∈ done)
    (returns : entry.alone env objects = .ok parsed)
    (alone : ¬ StackWithoutBeacon objects entry) : entry.view store parsed.port = parsed.port := by
  have same : ∀ name ∈ nestedOptions,
      entry.nestedIn store parsed.port name = parsed.port.nested name := by
    intro name listed
    rw [Entry.nestedIn]
    cases has : entry.conf.lookup name with
    | none => rfl
    | some object =>
        dsimp only
        cases dict : (objects name object).isInstance .dict with
        | true => rw [holds.written _ member name listed object has dict]
        | false =>
            rw [← holds.onlyDicts.isDict] at dict
            split
            next found =>
              rw [found] at dict
              cases dict
            next =>
              split
              next isBeacon =>
                subst isBeacon
                rw [holds.onlyDicts.isDict] at dict
                rw [holds.default, Port.nested, if_pos rfl, lldpBeacon_of_null returns has dict alone]
              next => rfl
  rw [Entry.view, same "lldp_beacon" (by decide), same "coprocessor" (by decide)]
  rfl

/-- The ports are parsed as if each were alone. -/
theorem Holds.run {entries : List (Entry α)} {ports : List (ParsedPort V)}
    (holds : Holds objects done store)
    (doneReturns : ∀ pair ∈ done, pair.1.alone env objects = .ok pair.2)
    (returns : List.Forall₂ (fun entry port => entry.alone env objects = .ok port) entries ports)
    (alone : ∀ entry ∈ entries, ¬ StackWithoutBeacon objects entry)
    (agree : entries.Pairwise (Agree objects))
    (agreeDone : ∀ pair ∈ done, ∀ entry ∈ entries, Agree objects pair.1 entry) :
    ∃ last, parsePorts env store entries = .ok (ports, last) ∧
      Holds objects (done ++ entries.zip ports) last := by
  induction returns generalizing store done with
  | nil => exact ⟨store, rfl, by simpa using holds⟩
  | @cons entry parsed rest ports first _ ih =>
      obtain ⟨alone, others⟩ := List.forall_mem_cons.mp alone
      obtain ⟨agreeFirst, agree⟩ := List.pairwise_cons.mp agree
      have agreeEntry : ∀ pair ∈ done, Agree objects pair.1 entry :=
        fun pair member => agreeDone pair member entry List.mem_cons_self
      have step := holds.step first doneReturns alone agreeEntry
      obtain ⟨last, parsedRest, holdsLast⟩ := ih step
        (fun pair member => by
          rcases List.mem_append.mp member with earlier | new
          · exact doneReturns pair earlier
          · obtain rfl : pair = (entry, parsed) := by simpa using new
            exact first)
        others agree
        (fun pair member later listed => by
          rcases List.mem_append.mp member with earlier | new
          · exact agreeDone pair earlier later (List.mem_cons_of_mem _ listed)
          · obtain rfl : pair = (entry, parsed) := by simpa using new
            exact agreeFirst later listed)
      refine ⟨last, ?_, by simpa using holdsLast⟩
      have view := holdsLast.view (by simp) first alone
      rw [parsePorts, holds.parses first doneReturns agreeEntry]
      refine bind_eq_ok.mpr ⟨parsed, rfl, bind_eq_ok.mpr ⟨_, parsedRest, ?_⟩⟩
      dsimp only
      rw [view]

/-- **Ports that agree are parsed as if each were alone**, and nothing is left behind. -/
theorem parsePorts_of_agree {entries : List (Entry α)} {ports : List (ParsedPort V)}
    (returns : List.Forall₂ (fun entry port => entry.alone env objects = .ok port) entries ports)
    (alone : ∀ entry ∈ entries, ¬ StackWithoutBeacon objects entry)
    (agree : entries.Pairwise (Agree objects)) :
    ∃ last, parsePorts env ⟨objects, []⟩ entries = .ok (ports, last) ∧ last.defaultBeacon = [] := by
  have start : @Holds α V objects [] ⟨objects, []⟩ :=
    ⟨rfl, fun _ _ => .inl rfl, fun _ member => by cases member⟩
  obtain ⟨last, parsed, holds⟩ := start.run (fun _ member => by cases member) returns alone agree
    fun _ member => by cases member
  exact ⟨last, parsed, holds.default⟩

end Sufficient

end Faucet.Config.Interfaces
