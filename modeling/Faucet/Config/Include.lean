import Faucet.Library.OrderedDict

/-!
# Including configuration files

`dp_include` loads a file and the files that it includes into three accumulators: the
hashes of the files, their contents and the top-level configuration. Each call works on
copies of the first and the last, but hands the contents on as they are, and looks for
loops in the hashes as they were when it was called.

It terminates (`dpInclude_ne_none`), as a file that is being loaded is recorded before its
includes are.
-/

set_option autoImplicit false

namespace Faucet.Config

open OrderedDict

/-! ## Files -/

/-- A value that the YAML library returns: `text` is what `str` makes of a scalar, a key is
given by its text. -/
inductive Yaml where
  | null
  | scalar (truthy : Bool) (text : String)
  | list (values : List Yaml)
  | mapping (entries : List (String × Yaml))

/-- `bool(value)` -/
def Yaml.truthy : Yaml → Bool
  | null => false
  | scalar truthy _ => truthy
  | list values => !values.isEmpty
  | mapping entries => !entries.isEmpty

/-- What `yaml_load` does: an error may be one that `read_config` does not catch. -/
inductive YamlLoad where
  | loads (conf : Yaml)
  | error
  | uncaught

/-- The files and the libraries, for paths `P`, digests `D` and entries of the top-level
configuration with keys `K` and values `V`. -/
structure Host (P D K V : Type) where
  isFile : P → Bool
  /-- The text of a file that can be read and decoded. -/
  read : P → Option String
  yamlLoad : String → YamlLoad
  configHashContent : String → D
  /-- `dp_config_path` of `str` of an include; `none` where `realpath` raises. -/
  dpConfigPath : Yaml → P → Option P
  /-- What `dict.update` takes from a value; `none` for a `TypeError` or a `ValueError`. -/
  items : Yaml → Option (List (K × V))

section Model

variable {P D K V : Type} [DecidableEq P] [DecidableEq K]

/-- `config_hashes`, `config_contents` and `top_confs`; `merged` are the files whose
configuration is in `top_confs`, which nothing reads. -/
structure Accumulators (P D K V : Type) where
  hashes : List (P × Option D)
  contents : List (P × String)
  topConfs : List (String × List (K × V))
  merged : List P

/-- The accumulators that the parser starts with. -/
def Accumulators.initial {P D K V : Type} (topConfs : List (String × List (K × V))) :
    Accumulators P D K V where
  hashes := []
  contents := []
  topConfs := topConfs
  merged := []

/-- The sections of a file that are configuration. -/
def Accumulators.names {P D K V : Type} (acc : Accumulators P D K V) : List String :=
  acc.topConfs.map Prod.fst

/-- How `dp_include` ends: it raises, or it returns what it has recorded. -/
inductive Result (P D K V : Type) where
  | raises
  | returns (loaded : Bool) (acc : Accumulators P D K V)

/-- `dict.update` -/
def updateDict {κ β : Type} [DecidableEq κ] (dict items : List (κ × β)) : List (κ × β) :=
  items.foldl (fun dict item => set dict item.1 item.2) dict

namespace Host

variable (host : Host P D K V)

/-- `read_config`; `none` is an error that it does not catch. -/
def readConfig (configFile : P) : Option (Yaml × Option String) :=
  match host.read configFile with
  | none => some (.null, none)
  | some text =>
      match host.yamlLoad text with
      | .loads conf => some (conf, some text)
      | .error => some (.null, some text)
      | .uncaught => none

/-- What `dp_include` finds in a file: nothing to load, something that has no keys or an
error, or entries under valid keys. -/
inductive Opened where
  | fails
  | raises
  | loads (entries : List (String × Yaml)) (content : String)

/-- The beginning of `dp_include`, up to its check of the sections. -/
def openConfig (names : List String) (configFile : P) : Opened :=
  if !host.isFile configFile then .fails
  else match host.readConfig configFile with
    | none => .raises
    | some (conf, content) =>
        if !conf.truthy then .fails
        else match conf, content with
          | .mapping entries, some content =>
              if entries.all fun entry =>
                  entry.1 ∈ names ++ ["include", "include-optional", "version"] then
                .loads entries content
              else .fails
          | _, _ => .raises

/-- A section with what the file says of it; `none` where that is not valid. -/
def newTopConf (entries : List (String × Yaml)) (conf : String × List (K × V)) :
    Option (String × List (K × V)) :=
  match entries.lookup conf.1 with
  | none => some conf
  | some value => (host.items value).map fun items => (conf.1, updateDict conf.2 items)

/-- `new_top_confs` -/
def newTopConfs (entries : List (String × Yaml)) (topConfs : List (String × List (K × V))) :
    Option (List (String × List (K × V))) :=
  topConfs.mapM (host.newTopConf entries)

/-- The includes in their order and whether they are required; `none` for a directive that is not
a list. -/
def includeValues (entries : List (String × Yaml)) : List (Option (Bool × Yaml)) :=
  [("include", true), ("include-optional", false)].flatMap fun (directive, required) =>
    match entries.lookup directive with
    | none => []
    | some (.list values) => values.map fun value => some (required, value)
    | some _ => [none]

/-- The loop over the includes of a file, on the copies of this file and the contents of all. -/
def includeFiles (call : Accumulators P D K V → P → Option (Result P D K V))
    (configHashes : List (P × Option D)) (configFile : P) :
    Accumulators P D K V → List (Option (Bool × Yaml)) → Option (Result P D K V)
  | new, [] => some (.returns true new)
  | new, none :: _ => some (.returns false new)
  | new, some (fileRequired, value) :: rest =>
      match host.dpConfigPath value configFile with
      | none => some .raises
      | some includePath =>
          if (configHashes.lookup includePath).isSome then some (.returns false new)
          else match call new includePath with
            | some (.returns true after) => includeFiles call configHashes configFile after rest
            | some (.returns false after) =>
                if fileRequired then some (.returns false after)
                else includeFiles call configHashes configFile
                  { after with hashes := set after.hashes includePath none } rest
            | stopped => stopped

/-- `top_confs` with the new configuration. -/
def updateTopConfs (topConfs new : List (String × List (K × V))) : List (String × List (K × V)) :=
  new.foldl (fun topConfs conf =>
    set topConfs conf.1 (updateDict ((topConfs.lookup conf.1).getD []) conf.2)) topConfs

/-- The copies with the file itself recorded; its contents are recorded at the end. -/
def start (acc : Accumulators P D K V) (configFile : P) (content : String)
    (newTopConfs : List (String × List (K × V))) : Accumulators P D K V where
  hashes := set acc.hashes configFile (some (host.configHashContent content))
  contents := acc.contents
  topConfs := newTopConfs
  merged := acc.merged ++ [configFile]

/-- The accumulators with the copies, now that the file has been loaded. -/
def finish (acc : Accumulators P D K V) (configFile : P) (content : String)
    (new : Accumulators P D K V) : Accumulators P D K V where
  hashes := updateDict acc.hashes new.hashes
  contents := updateDict new.contents (set acc.contents configFile content)
  topConfs := updateTopConfs acc.topConfs new.topConfs
  merged := new.merged

/-- `dp_include`, down to a depth; `none` when it is reached. -/
def dpInclude : ℕ → Accumulators P D K V → P → Option (Result P D K V)
  | 0, _, _ => none
  | depth + 1, acc, configFile =>
      match host.openConfig acc.names configFile with
      | .fails => some (.returns false acc)
      | .raises => some .raises
      | .loads entries content =>
          match host.newTopConfs entries acc.topConfs with
          | none => some (.returns false acc)
          | some newTopConfs =>
              match host.includeFiles (dpInclude depth) acc.hashes configFile
                  (host.start acc configFile content newTopConfs) (includeValues entries) with
              | some (.returns true new) => some (.returns true (finish acc configFile content new))
              | some (.returns false new) => some (.returns false { acc with contents := new.contents })
              | stopped => stopped

end Host

/-! ## Dictionaries -/

section Dict

variable {κ β : Type} [DecidableEq κ] {dict items : List (κ × β)}

theorem nodup_updateDict (nodup : (dict.map Prod.fst).Nodup) :
    ((updateDict dict items).map Prod.fst).Nodup := by
  induction items generalizing dict with
  | nil => exact nodup
  | cons item rest ih => exact ih (nodup_set nodup)

theorem lookup_updateDict (nodup : (items.map Prod.fst).Nodup) (k : κ) :
    (updateDict dict items).lookup k = (items.lookup k).or (dict.lookup k) := by
  induction items generalizing dict with
  | nil => rfl
  | cons item rest ih =>
      obtain ⟨key, value⟩ := item
      obtain ⟨fresh, nodup⟩ := List.nodup_cons.mp nodup
      have step : updateDict dict ((key, value) :: rest) = updateDict (set dict key value) rest := rfl
      rw [step, ih nodup, lookup_set, lookup_cons_eq]
      by_cases same : k = key
      · subst same
        have absent : rest.lookup k = none := by
          rw [List.lookup_eq_none_iff]
          intro pair member
          rw [bne_iff_ne]
          rintro rfl
          exact fresh (List.mem_map.mpr ⟨pair, member, rfl⟩)
        simp [absent]
      · simp [same]

end Dict

/-! ## What a call keeps -/

/-- The accumulators are dictionaries. -/
structure Accumulators.WellFormed (acc : Accumulators P D K V) : Prop where
  hashes : (acc.hashes.map Prod.fst).Nodup
  contents : (acc.contents.map Prod.fst).Nodup

omit [DecidableEq P] [DecidableEq K] in
theorem wellFormed_initial (topConfs : List (String × List (K × V))) :
    (Accumulators.initial topConfs : Accumulators P D K V).WellFormed :=
  ⟨List.nodup_nil, List.nodup_nil⟩

/-- The path is recorded, with a hash or as not loaded. -/
def Accumulators.Known (acc : Accumulators P D K V) (path : P) : Prop :=
  (acc.hashes.lookup path).isSome

instance (acc : Accumulators P D K V) (path : P) : Decidable (acc.Known path) :=
  inferInstanceAs (Decidable ((acc.hashes.lookup path).isSome = true))

/-- The path is recorded with a hash. -/
def Accumulators.Hashed (acc : Accumulators P D K V) (path : P) : Prop :=
  ∃ digest, acc.hashes.lookup path = some (some digest)

namespace Host

variable {host : Host P D K V} {call : Accumulators P D K V → P → Option (Result P D K V)}
  {configHashes : List (P × Option D)} {configFile : P} {acc new : Accumulators P D K V}
  {steps : List (Option (Bool × Yaml))} {result : Result P D K V}

omit [DecidableEq K] in
/-- The rule of the loop: what holds between the includes, and of what comes out. -/
theorem includeFiles_rule (inv : Accumulators P D K V → Prop) (post : Result P D K V → Prop)
    (ends : ∀ new loaded, inv new → post (.returns loaded new)) (raises : post .raises)
    (loads : ∀ new path after, inv new → configHashes.lookup path = none →
      call new path = some (.returns true after) → inv after)
    (fails : ∀ new path after, inv new → configHashes.lookup path = none →
      call new path = some (.returns false after) →
        post (.returns false after) ∧ inv { after with hashes := set after.hashes path none })
    (holds : inv new)
    (runs : host.includeFiles call configHashes configFile new steps = some result) :
    post result := by
  induction steps generalizing new with
  | nil =>
      cases runs
      exact ends new true holds
  | cons step rest ih =>
      cases step with
      | none =>
          cases runs
          exact ends new false holds
      | some directive =>
          obtain ⟨fileRequired, value⟩ := directive
          rw [includeFiles] at runs
          split at runs
          next =>
            cases runs
            exact raises
          next path _ =>
            split at runs
            next =>
              cases runs
              exact ends new false holds
            next unknown =>
              rw [Option.not_isSome_iff_eq_none] at unknown
              split at runs
              next after called => exact ih (loads new path after holds unknown called) runs
              next after called =>
                obtain ⟨stops, goesOn⟩ := fails new path after holds unknown called
                split at runs
                · cases runs
                  exact stops
                · exact ih goesOn runs
              next stopped notLoaded notFailed =>
                cases result with
                | raises => exact raises
                | returns loaded after =>
                    cases loaded with
                    | true => exact absurd runs (notLoaded after)
                    | false => exact absurd runs (notFailed after)

section Steps

variable {value : Yaml} {fileRequired : Bool} {path : P} {after : Accumulators P D K V}

omit [DecidableEq K] in
theorem includeFiles_load (found : host.dpConfigPath value configFile = some path)
    (unknown : configHashes.lookup path = none)
    (called : call new path = some (.returns true after)) :
    host.includeFiles call configHashes configFile new (some (fileRequired, value) :: steps) =
      host.includeFiles call configHashes configFile after steps := by
  simp only [includeFiles, found, unknown, called, Option.isSome_none, Bool.false_eq_true, ite_false]

omit [DecidableEq K] in
theorem includeFiles_skip (found : host.dpConfigPath value configFile = some path)
    (unknown : configHashes.lookup path = none)
    (called : call new path = some (.returns false after)) :
    host.includeFiles call configHashes configFile new (some (false, value) :: steps) =
      host.includeFiles call configHashes configFile
        { after with hashes := set after.hashes path none } steps := by
  simp only [includeFiles, found, unknown, called, Option.isSome_none, Bool.false_eq_true, ite_false]

omit [DecidableEq K] in
theorem includeFiles_required (found : host.dpConfigPath value configFile = some path)
    (unknown : configHashes.lookup path = none)
    (called : call new path = some (.returns false after)) :
    host.includeFiles call configHashes configFile new (some (true, value) :: steps) =
      some (.returns false after) := by
  simp only [includeFiles, found, unknown, called, Option.isSome_none, Bool.false_eq_true, ite_false,
    ite_true]

omit [DecidableEq K] in
theorem includeFiles_loop (found : host.dpConfigPath value configFile = some path)
    (known : (configHashes.lookup path).isSome) :
    host.includeFiles call configHashes configFile new (some (fileRequired, value) :: steps) =
      some (.returns false new) := by
  simp only [includeFiles, found, known, ite_true]

end Steps

theorem known_set {hashes : List (P × Option D)} {path other : P} {hash : Option D} :
    ((set hashes path hash).lookup other).isSome ↔
      other = path ∨ (hashes.lookup other).isSome := by
  rw [lookup_set]
  split
  next same => simp [same]
  next different => simp [different]

/-- What any call does to the accumulators. -/
structure Grows (acc : Accumulators P D K V) (loaded : Bool) (after : Accumulators P D K V) :
    Prop where
  wellFormed : after.WellFormed
  known : ∀ path, acc.Known path → after.Known path
  failed : loaded = false → after = { acc with contents := after.contents }

omit [DecidableEq K] in
/-- The loop keeps what its calls keep. -/
theorem includeFiles_grows {loaded : Bool} {last : Accumulators P D K V}
    (calls : ∀ new path loaded after, new.WellFormed →
      call new path = some (.returns loaded after) → Grows new loaded after)
    (wellFormed : acc.WellFormed)
    (runs : host.includeFiles call configHashes configFile acc steps =
      some (.returns loaded last)) :
    last.WellFormed ∧ ∀ path, acc.Known path → last.Known path := by
  have atEnd : ∀ loaded' last', Result.returns loaded last = .returns loaded' last' →
      last'.WellFormed ∧ ∀ path, acc.Known path → last'.Known path := by
    refine includeFiles_rule
      (fun new => new.WellFormed ∧ ∀ path, acc.Known path → new.Known path)
      (fun result => ∀ loaded new, result = .returns loaded new →
        new.WellFormed ∧ ∀ path, acc.Known path → new.Known path)
      ?_ (by simp) ?_ ?_ ⟨wellFormed, fun _ => id⟩ runs
    · intro new loaded holds _ _ same
      cases same
      exact holds
    · intro new path after holds _ called
      have grows := calls new path true after holds.1 called
      exact ⟨grows.wellFormed, fun path known => grows.known path (holds.2 path known)⟩
    · intro new path after holds _ called
      have grows := calls new path false after holds.1 called
      refine ⟨?_, ⟨nodup_set grows.wellFormed.hashes, grows.wellFormed.contents⟩,
        fun path known => known_set.mpr (.inr (grows.known path (holds.2 path known)))⟩
      intro _ _ same
      cases same
      exact ⟨grows.wellFormed, fun path known => grows.known path (holds.2 path known)⟩
  exact atEnd loaded last rfl

theorem dpInclude_grows {depth : ℕ} {loaded : Bool} {after : Accumulators P D K V}
    (wellFormed : acc.WellFormed)
    (runs : host.dpInclude depth acc configFile = some (.returns loaded after)) :
    Grows acc loaded after := by
  induction depth generalizing acc configFile loaded after with
  | zero => cases runs
  | succ depth ih =>
      rw [dpInclude] at runs
      split at runs
      next =>
        cases runs
        exact ⟨wellFormed, fun _ => id, fun _ => rfl⟩
      next => cases runs
      next entries content _ =>
        split at runs
        next =>
          cases runs
          exact ⟨wellFormed, fun _ => id, fun _ => rfl⟩
        next newTopConfs _ =>
          have wellFormedStart : (host.start acc configFile content newTopConfs).WellFormed :=
            ⟨nodup_set wellFormed.hashes, wellFormed.contents⟩
          split at runs
          next new looped =>
            cases runs
            obtain ⟨kept, known⟩ := includeFiles_grows (fun _ _ _ _ => ih) wellFormedStart looped
            refine ⟨⟨nodup_updateDict wellFormed.hashes, nodup_updateDict kept.contents⟩,
              fun path before => ?_, by simp⟩
            rw [Accumulators.Known, finish, lookup_updateDict kept.hashes, Option.isSome_or,
              Bool.or_eq_true]
            exact .inl (known path (known_set.mpr (.inr before)))
          next new looped =>
            cases runs
            obtain ⟨kept, _⟩ := includeFiles_grows (fun _ _ _ _ => ih) wellFormedStart looped
            exact ⟨⟨wellFormed.hashes, kept.contents⟩, fun _ => id, fun _ => rfl⟩
          next stopped notLoaded notFailed =>
            cases loaded with
            | true => exact absurd runs (notLoaded after)
            | false => exact absurd runs (notFailed after)

/-! ## Termination -/

omit [DecidableEq K] in
/-- The loop ends when the calls do. -/
theorem includeFiles_ne_none (inv : Accumulators P D K V → Prop)
    (returns : ∀ new path, inv new → configHashes.lookup path = none → call new path ≠ none)
    (loads : ∀ new path after, inv new → call new path = some (.returns true after) → inv after)
    (fails : ∀ new path after, inv new → call new path = some (.returns false after) →
      inv { after with hashes := set after.hashes path none })
    (holds : inv new) : host.includeFiles call configHashes configFile new steps ≠ none := by
  induction steps generalizing new with
  | nil => nofun
  | cons step rest ih =>
      cases step with
      | none => nofun
      | some directive =>
          obtain ⟨fileRequired, value⟩ := directive
          rw [includeFiles]
          split
          next => nofun
          next path _ =>
            split
            next => nofun
            next unknown =>
              split
              next after called => exact ih (loads new path after holds called)
              next after called =>
                split
                · nofun
                · exact ih (fails new path after holds called)
              next =>
                exact returns new path holds (Option.not_isSome_iff_eq_none.mp unknown)

/-- The files that are not recorded. -/
def unrecorded (files : Finset P) (acc : Accumulators P D K V) : Finset P :=
  files.filter fun path => ¬ acc.Known path

/-- What decreases with the depth: twice the files that are not recorded, and one when the
file itself is recorded, as its includes are not. -/
def load (files : Finset P) (acc : Accumulators P D K V) (configFile : P) : ℕ :=
  2 * (unrecorded files acc).card + if acc.Known configFile then 1 else 0

omit [DecidableEq K] in
theorem mem_unrecorded {files : Finset P} {path : P} :
    path ∈ unrecorded files acc ↔ path ∈ files ∧ ¬ acc.Known path := Finset.mem_filter

omit [DecidableEq K] in
theorem unrecorded_subset {files : Finset P} (known : ∀ path, acc.Known path → new.Known path) :
    unrecorded files new ⊆ unrecorded files acc := by
  intro path member
  obtain ⟨isFile, unknown⟩ := mem_unrecorded.mp member
  exact mem_unrecorded.mpr ⟨isFile, mt (known path) unknown⟩

omit [DecidableEq K] in
/-- A file that gets recorded is one less. -/
theorem card_unrecorded_lt {files : Finset P} {path : P} (isFile : path ∈ files)
    (known : ∀ path, acc.Known path → new.Known path) (before : ¬ acc.Known path)
    (after : new.Known path) : (unrecorded files new).card < (unrecorded files acc).card := by
  refine Finset.card_lt_card (Finset.ssubset_iff_of_subset (unrecorded_subset known) |>.mpr
    ⟨path, mem_unrecorded.mpr ⟨isFile, before⟩, ?_⟩)
  intro member
  exact (mem_unrecorded.mp member).2 after

omit [DecidableEq K] in
/-- The includes of a file have less before them. -/
theorem load_lt {files : Finset P} {path : P} (isFile : configFile ∈ files) (included : path ∈ files)
    (known : ∀ path, acc.Known path → new.Known path) (self : new.Known configFile)
    (unknown : ¬ acc.Known path) : load files new path < load files acc configFile := by
  have subset : unrecorded files new ⊆ unrecorded files acc := unrecorded_subset known
  have fewer := Finset.card_le_card subset
  by_cases before : acc.Known configFile
  · by_cases after : new.Known path
    · have less := card_unrecorded_lt included known unknown after
      rw [load, load, if_pos after, if_pos before]
      omega
    · rw [load, load, if_neg after, if_pos before]
      omega
  · have less := card_unrecorded_lt isFile known before self
    rw [load, load, if_neg before]
    split <;> omega

omit [DecidableEq P] [DecidableEq K] in
theorem openConfig_of_not_isFile {names : List String}
    (missing : host.isFile configFile = false) :
    host.openConfig names configFile = .fails := by
  simp [openConfig, missing]

omit [DecidableEq P] [DecidableEq K] in
theorem isFile_of_loads {names : List String} {entries : List (String × Yaml)}
    {content : String} (opened : host.openConfig names configFile = .loads entries content) :
    host.isFile configFile = true := by
  by_contra missing
  rw [openConfig_of_not_isFile (Bool.not_eq_true _ ▸ missing)] at opened
  cases opened

omit [DecidableEq P] [DecidableEq K] in
theorem read_of_loads {names : List String} {entries : List (String × Yaml)}
    {content : String} (opened : host.openConfig names configFile = .loads entries content) :
    host.read configFile = some content := by
  rw [openConfig] at opened
  split at opened
  next => cases opened
  next =>
    split at opened
    next => cases opened
    next conf text opensAs =>
      split at opened
      next => cases opened
      next =>
        split at opened
        next found =>
          split at opened
          next =>
            cases opened
            rw [readConfig] at opensAs
            split at opensAs
            next => cases opensAs
            next text isRead =>
              split at opensAs
              next =>
                cases opensAs
                exact isRead
              next => cases opensAs
              next => cases opensAs
          next => cases opened
        next => cases opened

/-- **It terminates** for every finite set of files, whatever they include. -/
theorem dpInclude_ne_none {files : Finset P} (finite : ∀ path, host.isFile path = true → path ∈ files)
    {depth : ℕ} (wellFormed : acc.WellFormed) (enough : load files acc configFile < depth) :
    host.dpInclude depth acc configFile ≠ none := by
  induction depth generalizing acc configFile with
  | zero => omega
  | succ depth ih =>
      rw [dpInclude]
      split
      next => nofun
      next => nofun
      next entries content opened =>
        split
        next => nofun
        next newTopConfs _ =>
          have isFile := finite configFile (isFile_of_loads opened)
          have some_depth : 0 < depth := by
            by_cases before : acc.Known configFile
            · rw [load, if_pos before] at enough
              omega
            · have positive := Finset.card_pos.mpr ⟨configFile, mem_unrecorded.mpr ⟨isFile, before⟩⟩
              rw [load] at enough
              omega
          have loop : host.includeFiles (host.dpInclude depth) acc.hashes configFile
              (host.start acc configFile content newTopConfs) (includeValues entries) ≠ none := by
            refine includeFiles_ne_none (fun new => new.WellFormed ∧
              (∀ path, acc.Known path → new.Known path) ∧ new.Known configFile) ?_ ?_ ?_
              ⟨⟨nodup_set wellFormed.hashes, wellFormed.contents⟩,
                fun path known => known_set.mpr (.inr known), known_set.mpr (.inl rfl)⟩
            · intro new path holds unknown
              obtain ⟨kept, known, self⟩ := holds
              cases included : host.isFile path with
              | false =>
                  obtain ⟨depth, rfl⟩ := Nat.exists_eq_succ_of_ne_zero (Nat.pos_iff_ne_zero.mp some_depth)
                  rw [dpInclude, openConfig_of_not_isFile included]
                  nofun
              | true =>
                  have notKnown : ¬ acc.Known path := Option.not_isSome_iff_eq_none.mpr unknown
                  have less := load_lt isFile (finite path included) known self notKnown
                  exact ih kept (by omega)
            · intro new path after holds called
              obtain ⟨kept, known, self⟩ := holds
              have grows := dpInclude_grows kept called
              exact ⟨grows.wellFormed, fun path before => grows.known path (known path before),
                grows.known _ self⟩
            · intro new path after holds called
              obtain ⟨kept, known, self⟩ := holds
              have grows := dpInclude_grows kept called
              exact ⟨⟨nodup_set grows.wellFormed.hashes, grows.wellFormed.contents⟩,
                fun path before => known_set.mpr (.inr (grows.known path (known path before))),
                known_set.mpr (.inr (grows.known _ self))⟩
          split
          next => nofun
          next => nofun
          next => exact loop

omit [DecidableEq K] in
/-- The loop returns the same for calls that return the same. -/
theorem includeFiles_congr {call' : Accumulators P D K V → P → Option (Result P D K V)}
    (same : ∀ new path result, call new path = some result → call' new path = some result)
    (runs : host.includeFiles call configHashes configFile new steps = some result) :
    host.includeFiles call' configHashes configFile new steps = some result := by
  induction steps generalizing new with
  | nil => exact runs
  | cons step rest ih =>
      cases step with
      | none => exact runs
      | some directive =>
          obtain ⟨fileRequired, value⟩ := directive
          rw [includeFiles] at runs ⊢
          split at runs
          next => exact runs
          next path _ =>
            split at runs
            next known => rwa [if_pos known]
            next unknown =>
              rw [if_neg unknown]
              cases called : call new path with
              | none =>
                  rw [called] at runs
                  cases runs
              | some inner =>
                  rw [same new path inner called]
                  rw [called] at runs
                  cases inner with
                  | raises => exact runs
                  | returns loaded after =>
                      cases loaded with
                      | true => exact ih runs
                      | false =>
                          dsimp only at runs ⊢
                          split at runs
                          next required => rwa [if_pos required]
                          next optional =>
                            rw [if_neg optional]
                            exact ih runs

/-- A result stays with more depth. -/
theorem dpInclude_mono {depth : ℕ} (runs : host.dpInclude depth acc configFile = some result) :
    host.dpInclude (depth + 1) acc configFile = some result := by
  induction depth generalizing acc configFile result with
  | zero => cases runs
  | succ depth ih =>
      rw [dpInclude] at runs ⊢
      split at runs
      next => exact runs
      next => exact runs
      next entries content _ =>
        split at runs
        next => exact runs
        next newTopConfs _ =>
          cases looped : host.includeFiles (host.dpInclude depth) acc.hashes configFile
              (host.start acc configFile content newTopConfs) (includeValues entries) with
          | none =>
              rw [looped] at runs
              cases runs
          | some inner =>
              rw [looped] at runs
              rw [includeFiles_congr (fun new path result => ih) looped]
              exact runs

theorem dpInclude_le {depth depth' : ℕ} (le : depth ≤ depth')
    (runs : host.dpInclude depth acc configFile = some result) :
    host.dpInclude depth' acc configFile = some result := by
  induction le with
  | refl => exact runs
  | step _ ih => exact dpInclude_mono ih

/-- The depth does not matter for the result. -/
theorem dpInclude_unique {depth depth' : ℕ} {result' : Result P D K V}
    (runs : host.dpInclude depth acc configFile = some result)
    (runs' : host.dpInclude depth' acc configFile = some result') : result = result' := by
  have whole := dpInclude_le (le_max_left depth depth') runs
  have whole' := dpInclude_le (le_max_right depth depth') runs'
  exact Option.some.inj (whole.symm.trans whole')

theorem includeFiles_le {depth depth' : ℕ} (le : depth ≤ depth')
    (runs : host.includeFiles (host.dpInclude depth) configHashes configFile new steps =
      some result) :
    host.includeFiles (host.dpInclude depth') configHashes configFile new steps = some result :=
  includeFiles_congr (fun _ _ _ => dpInclude_le le) runs

end Host

end Model

end Faucet.Config
