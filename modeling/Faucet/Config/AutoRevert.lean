import Faucet.Config.Walks
import Faucet.Library.TransitionSystem

/-!
# Reverting to the last good configuration

When `parse_configs` rejects a configuration it writes back the contents that the last accepted load
recorded. They are those of every file that was loaded then; an optional include that was left out,
missing or not loadable, has none and is not put back.

So the next parse gives the last accepted configuration when each include that was left out
is left out again (`reverted`). One that has been created since, and loads, stays part of the
configuration (`not_reverted_created`).
-/

set_option autoImplicit false

namespace Faucet.Config

open OrderedDict TransitionSystem

section Model

variable {P D K V C : Type} [DecidableEq P] [DecidableEq K]

/-! ## Writing files -/

/-- The files, by resolved paths, and which of them can be opened for writing. -/
structure Disk (P : Type) where
  isFile : P → Bool
  read : P → Option String
  writable : P → Bool

/-- The file is there with the content. -/
def Disk.write (disk : Disk P) (configFile : P) (content : String) : Disk P :=
  { disk with
    isFile := Function.update disk.isFile configFile true
    read := Function.update disk.read configFile (some content) }

/-- `revert_config`: the first file that cannot be written ends it. -/
def revertConfig : Disk P → List (P × String) → Disk P
  | disk, [] => disk
  | disk, (configFileName, configContent) :: rest =>
      if disk.writable configFileName then revertConfig (disk.write configFileName configContent) rest
      else disk

/-- The host with the files of the disk. -/
def Host.on (host : Host P D K V) (disk : Disk P) : Host P D K V :=
  host.edit disk.isFile disk.read

/-! ## Parsing -/

/-- A value, an `InvalidConfigError`, or another error. -/
inductive Parsed (R : Type) where
  | returns (value : R)
  | invalid
  | uncaught

/-- What comes after the files: the test of the version, and `dp_preparsed_parser` with the
DPs that it returns. -/
structure Parser (K V C : Type) where
  versionIsTwo : Yaml → Bool
  dpPreparsedParser : List (String × List (K × V)) → Parsed C

/-- What `dp_parser` returns. -/
structure Load (P D K V C : Type) where
  configHashes : List (P × Option D)
  configContents : List (P × String)
  dps : C
  topConf : List (String × List (K × V))

/-- `V2_TOP_CONFS` -/
def v2TopConfs : List String := ["acls", "dps", "meters", "routers", "vlans"]

namespace Host

/-- `_config_parser_v2`; `none` when `dp_include` reaches the depth. -/
def configParserV2 (host : Host P D K V) (parser : Parser K V C) (depth : ℕ) (configPath : P) :
    Option (Parsed (Load P D K V C)) :=
  match host.dpInclude depth (.initial (v2TopConfs.map fun name => (name, []))) configPath with
  | none => none
  | some .raises => some .uncaught
  | some (.returns false _) => some .invalid
  | some (.returns true acc) =>
      if ((acc.topConfs.lookup "dps").getD []).isEmpty then some .invalid
      else match parser.dpPreparsedParser acc.topConfs with
        | .returns dps => some (.returns ⟨acc.hashes, acc.contents, dps, acc.topConfs⟩)
        | .invalid => some .invalid
        | .uncaught => some .uncaught

/-- `dp_parser` -/
def dpParser (host : Host P D K V) (parser : Parser K V C) (depth : ℕ) (configFile : P) :
    Option (Parsed (Load P D K V C)) :=
  match host.readConfig configFile with
  | none => some .uncaught
  | some (.mapping conf, _) =>
      if (conf.lookup "version").all parser.versionIsTwo then
        host.configParserV2 parser depth configFile
      else some .invalid
  | some _ => some .invalid

end Host

/-- What `ValvesManager` and its `meta_dp_state` keep of a load. -/
structure ValvesManager (P D K V : Type) where
  configAutoRevert : Bool
  configWatcher : ConfigWatcher P D
  topConf : Option (List (String × List (K × V)))
  lastGoodConfig : List (P × String)

/-- `parse_configs`, with what `dp_parser` gives it. -/
def ValvesManager.parseConfigs (host : Host P D K V) (parser : Parser K V C) (depth : ℕ)
    (disk : Disk P) (manager : ValvesManager P D K V) (newConfigFile : P) :
    Option (Disk P × ValvesManager P D K V × Parsed (Load P D K V C)) :=
  match (host.on disk).dpParser parser depth newConfigFile with
  | none => none
  | some .uncaught => some (disk, manager, .uncaught)
  | some (.returns load) =>
      some (disk,
        { manager with
          configWatcher := manager.configWatcher.update newConfigFile (some load.configHashes)
          topConf := some load.topConf
          lastGoodConfig := load.configContents },
        .returns load)
  | some .invalid =>
      some (if manager.configAutoRevert then revertConfig disk manager.lastGoodConfig else disk,
        { manager with configWatcher := manager.configWatcher.update newConfigFile none },
        .invalid)

/-! ## Runs -/

/-- The files and the manager; with what the last step has parsed, and what the last load returned
that was accepted, from which files. -/
structure System (P D K V C : Type) where
  disk : Disk P
  manager : ValvesManager P D K V
  parsed : Option (Parsed (Load P D K V C))
  accepted : Option (Disk P × Load P D K V C)

/-- Files are edited, created and removed, or the configuration file is parsed. -/
inductive Action (P : Type) where
  | edit (disk : Disk P)
  | parse (depth : ℕ)

/-- What is accepted after a parse: the files as they are, when it succeeds. -/
def System.accept (system : System P D K V C) :
    Parsed (Load P D K V C) → Option (Disk P × Load P D K V C)
  | .returns load => some (system.disk, load)
  | _ => system.accepted

/-- An edit of the files, a parse, or a reversal. -/
def System.step (host : Host P D K V) (parser : Parser K V C) (configFile : P)
    (system : System P D K V C) : Action P → Option (System P D K V C)
  | .edit disk => some { system with disk := disk, parsed := none }
  | .parse depth =>
      (system.manager.parseConfigs host parser depth system.disk configFile).map
        fun (disk, manager, parsed) => ⟨disk, manager, some parsed, system.accept parsed⟩

/-- After a load that is rejected, the next one gives the configuration that was accepted last. -/
def System.Reverted (host : Host P D K V) (parser : Parser K V C) (configFile : P)
    (system : System P D K V C) : Prop :=
  system.parsed = some .invalid → ∀ good load, system.accepted = some (good, load) →
    ∃ depth next load', system.step host parser configFile (.parse depth) = some next ∧
      next.parsed = some (.returns load') ∧ load'.topConf = load.topConf ∧ load'.dps = load.dps

/-- When the load is rejected, the files can be written, and what the last accepted load left out
does not load from the files that are written back. -/
def System.Restorable (host : Host P D K V) (parser : Parser K V C) (configFile : P)
    (system : System P D K V C) : Action P → Prop
  | .edit _ => True
  | .parse depth => (host.on system.disk).dpParser parser depth configFile = some .invalid →
      ∀ good load, system.accepted = some (good, load) →
        (∀ entry ∈ system.manager.lastGoodConfig, system.disk.writable entry.1 = true) ∧
        ∀ marks path,
          (host.on good).LeavesOut v2TopConfs (.file (fun _ => none) configFile) marks path →
          (host.on (revertConfig system.disk system.manager.lastGoodConfig)).Walks v2TopConfs
            (.file marks path) none

/-! ## What is written back -/

omit [DecidableEq K] in
/-- A file that is written has its text, and the others are as they were. -/
theorem revertConfig_spec {disk : Disk P} {contents : List (P × String)}
    (nodup : (contents.map Prod.fst).Nodup)
    (writable : ∀ entry ∈ contents, disk.writable entry.1 = true) (path : P) :
    (revertConfig disk contents).isFile path =
        ((contents.lookup path).isSome || disk.isFile path) ∧
      (revertConfig disk contents).read path = (contents.lookup path).or (disk.read path) := by
  induction contents generalizing disk with
  | nil => exact ⟨rfl, rfl⟩
  | cons entry rest ih =>
      obtain ⟨configFile, content⟩ := entry
      obtain ⟨fresh, nodup⟩ := List.nodup_cons.mp nodup
      obtain ⟨first, others⟩ := List.forall_mem_cons.mp writable
      have written := @ih (disk.write configFile content) nodup others
      rw [revertConfig, if_pos first, written.1, written.2, lookup_cons_eq]
      by_cases same : path = configFile
      · subst same
        have absent : rest.lookup path = none := by
          rw [List.lookup_eq_none_iff]
          intro pair member
          rw [bne_iff_ne]
          rintro rfl
          exact fresh (List.mem_map.mpr ⟨pair, member, rfl⟩)
        simp [absent, Disk.write]
      · simp [same, Disk.write]

namespace Host

variable {host : Host P D K V} {names : List String} {walk : Walk P} {outcome : Option (Marks P)}
  {acc new after : Accumulators P D K V} {path configFile : P} {loaded : Bool}
  {isFile : P → Bool} {read : P → Option String}

/-! ## What the contents are -/

/-- The file is there with the text. -/
def Has (host : Host P D K V) (path : P) (text : String) : Prop :=
  host.isFile path = true ∧ host.read path = some text

/-- What is recorded of the contents stays recorded, and is what the files say. -/
structure Reads (host : Host P D K V) (acc after : Accumulators P D K V) : Prop where
  keeps : ∀ path, (acc.contents.lookup path).isSome → (after.contents.lookup path).isSome
  texts : (∀ path text, acc.contents.lookup path = some text → host.Has path text) →
    ∀ path text, after.contents.lookup path = some text → host.Has path text

omit [DecidableEq K] in
theorem Reads.refl (acc : Accumulators P D K V) : host.Reads acc acc := ⟨fun _ => id, id⟩

omit [DecidableEq K] in
theorem Reads.trans {last : Accumulators P D K V} (first : host.Reads acc after)
    (second : host.Reads after last) : host.Reads acc last :=
  ⟨fun path recorded => second.keeps path (first.keeps path recorded),
    fun texts => second.texts (first.texts texts)⟩

/-- The contents of a file that has been loaded. -/
theorem lookup_contents_finish {content : String} (wellFormed : acc.WellFormed) (other : P) :
    (finish acc path content new).contents.lookup other =
      if other = path then some content
      else (acc.contents.lookup other).or (new.contents.lookup other) := by
  rw [finish, lookup_updateDict (nodup_set wellFormed.contents), lookup_set]
  split <;> rfl

theorem reads_finish {content : String} (wellFormed : acc.WellFormed) (has : host.Has path content)
    (reads : host.Reads acc new) : host.Reads acc (finish acc path content new) := by
  constructor
  · intro other recorded
    rw [lookup_contents_finish wellFormed]
    split
    · rfl
    · rw [Option.isSome_or, recorded, Bool.true_or]
  · intro texts other text found
    rw [lookup_contents_finish wellFormed] at found
    split at found
    next same =>
      cases found
      exact same ▸ has
    next =>
      rcases Option.or_eq_some_iff.mp found with old | ⟨_, later⟩
      · exact texts other text old
      · exact reads.texts texts other text later

theorem dpInclude_reads {depth : ℕ} (wellFormed : acc.WellFormed)
    (runs : host.dpInclude depth acc path = some (.returns loaded after)) :
    host.Reads acc after := by
  induction depth generalizing acc path loaded after with
  | zero => cases runs
  | succ depth ih =>
      rw [dpInclude] at runs
      split at runs
      next =>
        cases runs
        exact .refl _
      next => cases runs
      next entries content opened =>
        split at runs
        next =>
          cases runs
          exact .refl _
        next newTopConfs _ =>
          have has : host.Has path content := ⟨isFile_of_loads opened, read_of_loads opened⟩
          have loop : ∀ {result}, host.includeFiles (host.dpInclude depth) acc.hashes path
              (host.start acc path content newTopConfs) (includeValues entries) = some result →
                ∀ loaded new, result = .returns loaded new → host.Reads acc new := by
            intro result runs
            have started : (host.start acc path content newTopConfs).WellFormed ∧
                host.Reads acc (host.start acc path content newTopConfs) :=
              ⟨⟨nodup_set wellFormed.hashes, wellFormed.contents⟩, fun _ => id, id⟩
            refine includeFiles_rule (fun new => new.WellFormed ∧ host.Reads acc new)
              (fun result => ∀ loaded new, result = .returns loaded new → host.Reads acc new)
              ?_ (by simp) ?_ ?_ started runs
            · intro new loaded holds _ _ same
              cases same
              exact holds.2
            · intro new path after holds _ called
              exact ⟨(dpInclude_grows holds.1 called).wellFormed, holds.2.trans (ih holds.1 called)⟩
            · intro new path after holds _ called
              have kept := (dpInclude_grows holds.1 called).wellFormed
              have reads := holds.2.trans (ih holds.1 called)
              refine ⟨fun _ _ same => ?_, ⟨nodup_set kept.hashes, kept.contents⟩,
                reads.keeps, reads.texts⟩
              cases same
              exact reads
          split at runs
          next new looped =>
            cases runs
            exact reads_finish wellFormed has (loop looped true new rfl)
          next new looped =>
            cases runs
            exact ⟨(loop looped false new rfl).keeps, (loop looped false new rfl).texts⟩
          next stopped notLoaded notFailed =>
            cases loaded with
            | true => exact absurd runs (notLoaded after)
            | false => exact absurd runs (notFailed after)

/-! ## Loading again -/

/-- The recorded files are as they were. -/
def SameRecorded (host : Host P D K V) (isFile : P → Bool) (read : P → Option String)
    (acc : Accumulators P D K V) : Prop :=
  ∀ path, (acc.contents.lookup path).isSome → isFile path = host.isFile path ∧
    (host.isFile path = true → read path = host.read path)

/-- A walk that loads gives the same where the recorded files are as they were, but for the contents
that have been recorded before. -/
def Reproduces (host : Host P D K V) (isFile : P → Bool) (read : P → Option String)
    (names : List String) : Walk P → Option (Marks P) → Prop
  | .file marks path, outcome => ∀ final, outcome = some final →
      ∀ acc, acc.WellFormed → Marked names marks acc →
      ∃ depth after, host.dpInclude depth acc path = some (.returns true after) ∧
        Marked names final after ∧ (host.SameRecorded isFile read after →
          ∀ contents : List (P × String), (contents.map Prod.fst).Nodup →
          ∃ depth' contents', (host.edit isFile read).dpInclude depth'
              { acc with contents := contents } path =
            some (.returns true { after with contents := contents' }))
  | .includes before file marks steps, outcome => ∀ final, outcome = some final →
      ∀ configHashes acc, acc.WellFormed →
      (∀ path, (configHashes.lookup path).map Option.isSome = before path) → Marked names marks acc →
      ∃ depth after, host.includeFiles (host.dpInclude depth) configHashes file acc steps =
          some (.returns true after) ∧
        Marked names final after ∧ host.Reads acc after ∧ (host.SameRecorded isFile read after →
          ∀ contents : List (P × String), (contents.map Prod.fst).Nodup →
          ∃ depth' contents', (host.edit isFile read).includeFiles
              ((host.edit isFile read).dpInclude depth') configHashes file
              { acc with contents := contents } steps =
            some (.returns true { after with contents := contents' }))

omit [DecidableEq K] in
theorem SameRecorded.of_reads (same : host.SameRecorded isFile read after)
    (reads : host.Reads acc after) : host.SameRecorded isFile read acc :=
  fun path recorded => same path (reads.keeps path recorded)

/-- When what the walk leaves out does not load, the walk loads again. -/
theorem Walks.reproduces (walks : host.Walks names walk outcome)
    (stays : ∀ marks path, host.LeavesOut names walk marks path →
      (host.edit isFile read).Walks names (.file marks path) none) :
    host.Reproduces isFile read names walk outcome := by
  induction walks with
  | notOpened => rintro _ ⟨⟩
  | notValid => rintro _ ⟨⟩
  | @file marks path entries content outcome opened valid _ ih =>
      intro final isFinal acc wellFormed marked
      obtain ⟨newTopConfs, isSome, started⟩ := marked_start path content valid marked
      have wellFormedStart : (host.start acc path content newTopConfs).WellFormed :=
        ⟨nodup_set wellFormed.hashes, wellFormed.contents⟩
      obtain ⟨depth, new, runs, markedNew, reads, again⟩ :=
        ih (fun marks' path' out => stays marks' path' (.file opened out)) final isFinal acc.hashes _
          wellFormedStart marked.marks started
      obtain ⟨wellFormedNew, known⟩ :=
        includeFiles_grows (fun _ _ _ _ => dpInclude_grows) wellFormedStart runs
      refine ⟨depth + 1, finish acc path content new, ?_, ?_, fun same contents nodup => ?_⟩
      · simp only [dpInclude, marked.names, opened, isSome, runs]
      · exact marked_finish markedNew marked.names wellFormedNew
          fun path before => known path (known_set.mpr (.inr before))
      · have self : ((finish acc path content new).contents.lookup path).isSome := by
          rw [lookup_contents_finish wellFormed, if_pos rfl]
          rfl
        have opened' : (host.edit isFile read).openConfig names path = .loads entries content := by
          rw [openConfig_edit (same path self).1 (same path self).2, opened]
        have sameNew : host.SameRecorded isFile read new := by
          intro other recorded
          refine same other ?_
          rw [lookup_contents_finish wellFormed]
          split
          · rfl
          · rw [Option.isSome_or, recorded, Bool.or_true]
        obtain ⟨depth', contents', runs'⟩ := again sameNew contents nodup
        have isSome' : (host.edit isFile read).newTopConfs entries acc.topConfs = some newTopConfs :=
          isSome
        have runs'' : (host.edit isFile read).includeFiles ((host.edit isFile read).dpInclude depth')
            acc.hashes path ((host.edit isFile read).start { acc with contents := contents } path
              content newTopConfs) (includeValues entries) =
            some (.returns true { new with contents := contents' }) := runs'
        have sameNames : ({ acc with contents := contents } : Accumulators P D K V).names = names :=
          marked.names
        have again' : (host.edit isFile read).dpInclude (depth' + 1) { acc with contents := contents }
            path = some (.returns true (finish { acc with contents := contents } path content
              { new with contents := contents' })) := by
          simp only [dpInclude, sameNames, opened', isSome', runs'']
        exact ⟨depth' + 1, _, again'⟩
  | done =>
      intro final isFinal configHashes acc _ _ marked
      cases isFinal
      exact ⟨0, acc, rfl, marked, .refl acc, fun _ contents _ => ⟨0, contents, rfl⟩⟩
  | @load before file marks required value rest path after outcome found unknown walksFile _ ihFile
      ihRest =>
      intro final isFinal configHashes acc wellFormed same marked
      obtain ⟨depth, loaded, called, markedAfter, again⟩ :=
        ihFile (fun marks' path' out => stays marks' path' (.inside found walksFile out)) _ rfl acc
          wellFormed marked
      have kept := (dpInclude_grows wellFormed called).wellFormed
      obtain ⟨depth', last, runs, markedLast, reads, again'⟩ :=
        ihRest (fun marks' path' out => stays marks' path' (.afterLoad found walksFile out)) final
          isFinal configHashes loaded kept same markedAfter
      have unrecorded := Option.map_eq_none_iff.mp ((same _).trans unknown)
      refine ⟨max depth depth', last, ?_, markedLast, (dpInclude_reads wellFormed called).trans reads,
        fun sameRecorded contents nodup => ?_⟩
      · rw [includeFiles_load found unrecorded (dpInclude_le (le_max_left _ _) called)]
        exact includeFiles_le (le_max_right _ _) runs
      · have wellFormed' : ({ acc with contents := contents } : Accumulators P D K V).WellFormed :=
          ⟨wellFormed.hashes, nodup⟩
        obtain ⟨depth, contents', called'⟩ := again (sameRecorded.of_reads reads) contents nodup
        have nodup' := (dpInclude_grows wellFormed' called').wellFormed.contents
        obtain ⟨depth', contents'', runs'⟩ := again' sameRecorded contents' nodup'
        have found' : (host.edit isFile read).dpConfigPath value file = some path := found
        refine ⟨max depth depth', contents'', ?_⟩
        rw [includeFiles_load found' unrecorded (dpInclude_le (le_max_left _ _) called')]
        exact includeFiles_le (le_max_right _ _) runs'
  | @skip before file marks value rest path outcome found unknown walksFile _ _ ihRest =>
      intro final isFinal configHashes acc wellFormed same marked
      obtain ⟨depth, failed, called, _⟩ := walksFile.mirrors acc wellFormed marked
      have grows := dpInclude_grows wellFormed called
      have reads := dpInclude_reads wellFormed called
      rw [grows.failed rfl] at called reads
      have skipped : ({ acc with hashes := set acc.hashes path none, contents := failed.contents } :
          Accumulators P D K V).WellFormed :=
        ⟨nodup_set wellFormed.hashes, grows.wellFormed.contents⟩
      obtain ⟨depth', last, runs, markedLast, readsRest, again⟩ :=
        ihRest (fun marks' path' out => stays marks' path' (.afterSkip found walksFile out)) final
          isFinal configHashes _ skipped same (marked.set none rfl rfl)
      have unrecorded := Option.map_eq_none_iff.mp ((same _).trans unknown)
      refine ⟨max depth depth', last, ?_, markedLast, reads.trans ⟨readsRest.keeps, readsRest.texts⟩,
        fun sameRecorded contents nodup => ?_⟩
      · rw [includeFiles_skip found unrecorded (dpInclude_le (le_max_left _ _) called)]
        exact includeFiles_le (le_max_right _ _) runs
      · have wellFormed' : ({ acc with contents := contents } : Accumulators P D K V).WellFormed :=
          ⟨wellFormed.hashes, nodup⟩
        obtain ⟨depth, failed', called', _⟩ := (stays marks path (.here found walksFile)).mirrors
          { acc with contents := contents } wellFormed' ⟨marked.marks, marked.names⟩
        have grows' := dpInclude_grows wellFormed' called'
        rw [grows'.failed rfl] at called'
        obtain ⟨depth', contents', runs'⟩ :=
          again sameRecorded failed'.contents grows'.wellFormed.contents
        have found' : (host.edit isFile read).dpConfigPath value file = some path := found
        refine ⟨max depth depth', contents', ?_⟩
        rw [includeFiles_skip found' unrecorded (dpInclude_le (le_max_left _ _) called')]
        exact includeFiles_le (le_max_right _ _) runs'
  | required => rintro _ ⟨⟩
  | loop => rintro _ ⟨⟩
  | directive => rintro _ ⟨⟩

/-- A file that has been loaded has its contents recorded. -/
theorem recorded_self {depth : ℕ} (wellFormed : acc.WellFormed)
    (runs : host.dpInclude depth acc path = some (.returns true after)) :
    (after.contents.lookup path).isSome := by
  cases depth with
  | zero => cases runs
  | succ depth =>
      rw [dpInclude] at runs
      split at runs
      next => cases runs
      next => cases runs
      next =>
        split at runs
        next => cases runs
        next =>
          split at runs
          next =>
            cases runs
            rw [lookup_contents_finish wellFormed, if_pos rfl]
            rfl
          next => cases runs
          next stopped notLoaded _ => exact absurd runs (notLoaded after)

/-! ## Parsing again -/

variable {parser : Parser K V C} {load : Load P D K V C} {depth : ℕ}

theorem configParserV2_returns : host.configParserV2 parser depth path = some (.returns load) ↔
    ∃ acc, host.dpInclude depth (.initial (v2TopConfs.map fun name => (name, []))) path =
        some (.returns true acc) ∧
      ((acc.topConfs.lookup "dps").getD []).isEmpty = false ∧
      parser.dpPreparsedParser acc.topConfs = .returns load.dps ∧
      load = ⟨acc.hashes, acc.contents, load.dps, acc.topConfs⟩ := by
  rw [configParserV2]
  constructor
  · intro returns
    split at returns
    next => cases returns
    next => cases returns
    next => cases returns
    next acc runs =>
      split at returns
      next => cases returns
      next someDps =>
        split at returns
        next dps parsed =>
          cases returns
          exact ⟨acc, runs, Bool.eq_false_iff.mpr someDps, parsed, rfl⟩
        next => cases returns
        next => cases returns
  · rintro ⟨acc, runs, someDps, parsed, same⟩
    rw [runs]
    dsimp only
    rw [if_neg (Bool.eq_false_iff.mp someDps), parsed, same]

theorem dpParser_returns : host.dpParser parser depth path = some (.returns load) ↔
    ∃ conf content, host.readConfig path = some (.mapping conf, content) ∧
      (conf.lookup "version").all parser.versionIsTwo = true ∧
      host.configParserV2 parser depth path = some (.returns load) := by
  rw [dpParser]
  constructor
  · intro returns
    split at returns
    next => cases returns
    next conf content isRead =>
      split at returns
      next version => exact ⟨conf, content, isRead, version, returns⟩
      next => cases returns
    next => cases returns
  · rintro ⟨conf, content, isRead, version, returns⟩
    rw [isRead]
    dsimp only
    rw [if_pos version, returns]

theorem nodup_configContents (returns : host.dpParser parser depth path = some (.returns load)) :
    (load.configContents.map Prod.fst).Nodup := by
  obtain ⟨_, _, _, _, returns⟩ := dpParser_returns.mp returns
  obtain ⟨acc, runs, _, _, same⟩ := configParserV2_returns.mp returns
  rw [same]
  exact (dpInclude_grows (wellFormed_initial _) runs).wellFormed.contents

/-- When the recorded contents are back, and what was left out does not load, the next
parse gives the same configuration. -/
theorem dpParser_again (returns : host.dpParser parser depth path = some (.returns load))
    (back : ∀ path text, load.configContents.lookup path = some text →
      isFile path = true ∧ read path = some text)
    (stays : ∀ marks other, host.LeavesOut v2TopConfs (.file (fun _ => none) path) marks other →
      (host.edit isFile read).Walks v2TopConfs (.file marks other) none) :
    ∃ depth' load', (host.edit isFile read).dpParser parser depth' path = some (.returns load') ∧
      load'.topConf = load.topConf ∧ load'.dps = load.dps := by
  obtain ⟨conf, content, isRead, version, returns⟩ := dpParser_returns.mp returns
  obtain ⟨acc, runs, someDps, parsed, same⟩ := configParserV2_returns.mp returns
  have sameContents : load.configContents = acc.contents := by rw [same]
  have wellFormed : (Accumulators.initial (v2TopConfs.map fun name => (name, [])) :
      Accumulators P D K V).WellFormed := wellFormed_initial _
  have walks : host.Walks v2TopConfs (.file (fun _ => none) path) (some acc.marks) :=
    walks_of_returns wellFormed runs
  obtain ⟨depth', after, runs', _, again⟩ :=
    walks.reproduces stays acc.marks rfl _ wellFormed ⟨fun _ => rfl, rfl⟩
  cases dpInclude_unique runs runs'
  have reads := (dpInclude_reads wellFormed runs).texts nofun
  have sameRecorded : host.SameRecorded isFile read acc := by
    intro other recorded
    obtain ⟨text, found⟩ := Option.isSome_iff_exists.mp recorded
    obtain ⟨isFile', read'⟩ := back other text (sameContents ▸ found)
    obtain ⟨wasFile, wasRead⟩ := reads other text found
    exact ⟨isFile'.trans wasFile.symm, fun _ => read'.trans wasRead.symm⟩
  obtain ⟨depth'', contents, runs''⟩ := again sameRecorded [] List.nodup_nil
  refine ⟨depth'', ⟨acc.hashes, contents, load.dps, acc.topConfs⟩, dpParser_returns.mpr
    ⟨conf, content, ?_, version, configParserV2_returns.mpr
      ⟨{ acc with contents := contents }, runs'', someDps, parsed, rfl⟩⟩, by rw [same], rfl⟩
  have self := sameRecorded path (recorded_self wellFormed runs)
  obtain ⟨text, found⟩ := Option.isSome_iff_exists.mp (recorded_self wellFormed runs)
  have sameText : read path = host.read path := self.2 (reads path text found).1
  rw [← isRead, readConfig, readConfig]
  simp only [edit, sameText]

end Host

/-! ## Reverting -/

namespace System

variable {host : Host P D K V} {parser : Parser K V C} {configFile : P}
  {start system next : System P D K V C} {action : Action P}

/-- The manager has the contents of the last load that was accepted. -/
structure Consistent (host : Host P D K V) (parser : Parser K V C) (configFile : P)
    (system : System P D K V C) : Prop where
  autoRevert : system.manager.configAutoRevert = true
  accepted : ∀ good load, system.accepted = some (good, load) →
    system.manager.lastGoodConfig = load.configContents ∧
      ∃ depth, (host.on good).dpParser parser depth configFile = some (.returns load)

/-- What a parse does. -/
theorem step_parse {depth : ℕ}
    (taken : system.step host parser configFile (.parse depth) = some next) :
    ((host.on system.disk).dpParser parser depth configFile = some .uncaught ∧
      next.manager = system.manager ∧ next.accepted = system.accepted ∧
      next.parsed = some .uncaught) ∨
    (∃ load, (host.on system.disk).dpParser parser depth configFile = some (.returns load) ∧
      next.manager.lastGoodConfig = load.configContents ∧
      next.manager.configAutoRevert = system.manager.configAutoRevert ∧
      next.accepted = some (system.disk, load) ∧ next.parsed = some (.returns load)) ∨
    ((host.on system.disk).dpParser parser depth configFile = some .invalid ∧
      next.disk = (if system.manager.configAutoRevert then
        revertConfig system.disk system.manager.lastGoodConfig else system.disk) ∧
      next.manager.lastGoodConfig = system.manager.lastGoodConfig ∧
      next.manager.configAutoRevert = system.manager.configAutoRevert ∧
      next.accepted = system.accepted ∧ next.parsed = some .invalid) := by
  rw [step, ValvesManager.parseConfigs] at taken
  cases parsed : (host.on system.disk).dpParser parser depth configFile with
  | none =>
      rw [parsed] at taken
      cases taken
  | some result =>
      rw [parsed] at taken
      cases result with
      | uncaught =>
          cases taken
          exact .inl ⟨rfl, rfl, rfl, rfl⟩
      | returns load =>
          cases taken
          exact .inr (.inl ⟨load, rfl, rfl, rfl, rfl, rfl⟩)
      | invalid =>
          cases taken
          exact .inr (.inr ⟨rfl, rfl, rfl, rfl, rfl, rfl⟩)

theorem step_of_returns {depth : ℕ} {load : Load P D K V C}
    (returns : (host.on system.disk).dpParser parser depth configFile = some (.returns load)) :
    ∃ next, system.step host parser configFile (.parse depth) = some next ∧
      next.parsed = some (.returns load) := by
  rw [step, ValvesManager.parseConfigs, returns]
  exact ⟨_, rfl, rfl⟩

/-- Every step keeps the manager consistent. -/
theorem Consistent.step (consistent : system.Consistent host parser configFile)
    (taken : system.step host parser configFile action = some next) :
    next.Consistent host parser configFile := by
  obtain ⟨autoRevert, accepted⟩ := consistent
  cases action with
  | edit disk =>
      cases taken
      exact ⟨autoRevert, accepted⟩
  | parse depth =>
      obtain ⟨_, manager, same, _⟩ | ⟨load, parsed, contents, kept, same, _⟩ |
        ⟨_, _, contents, kept, same, _⟩ := step_parse taken
      · rw [← manager] at autoRevert accepted
        exact ⟨autoRevert, fun good load isAccepted => accepted good load (same ▸ isAccepted)⟩
      · refine ⟨kept.trans autoRevert, fun good load' isAccepted => ?_⟩
        rw [same] at isAccepted
        cases isAccepted
        exact ⟨contents, depth, parsed⟩
      · refine ⟨kept.trans autoRevert, fun good load isAccepted => ?_⟩
        rw [contents]
        exact accepted good load (same ▸ isAccepted)

/-- A step that may be taken reverts what it rejects. -/
theorem reverted_step (consistent : system.Consistent host parser configFile)
    (restorable : system.Restorable host parser configFile action)
    (taken : system.step host parser configFile action = some next) :
    next.Reverted host parser configFile := by
  cases action with
  | edit disk =>
      cases taken
      nofun
  | parse depth =>
      obtain ⟨_, _, _, parsed⟩ | ⟨_, _, _, _, _, parsed⟩ | ⟨invalid, disk, _, _, same, _⟩ :=
        step_parse taken
      · intro rejected
        rw [parsed] at rejected
        cases rejected
      · intro rejected
        rw [parsed] at rejected
        cases rejected
      · intro _ good load isAccepted
        rw [same] at isAccepted
        obtain ⟨contents, depth, returns⟩ := consistent.accepted good load isAccepted
        obtain ⟨writable, stays⟩ := restorable invalid good load isAccepted
        rw [if_pos consistent.autoRevert] at disk
        have nodup := Host.nodup_configContents returns
        have back : ∀ path text, load.configContents.lookup path = some text →
            next.disk.isFile path = true ∧ next.disk.read path = some text := by
          intro path text found
          obtain ⟨isFile, read⟩ := revertConfig_spec (contents ▸ nodup) writable path
          rw [disk, isFile, read, contents, found]
          exact ⟨rfl, rfl⟩
        rw [← disk] at stays
        obtain ⟨depth', load', returns', sameTopConf, sameDps⟩ := Host.dpParser_again returns back stays
        obtain ⟨after, taken, parsed⟩ := step_of_returns returns'
        exact ⟨depth', after, load', taken, parsed, sameTopConf, sameDps⟩

/-- **The last good configuration comes back** in every run in which each rejected load finds
the files writable and what the last accepted load left out still not loadable. -/
theorem reverted (isNew : start.accepted = none) (autoRevert : start.manager.configAutoRevert = true)
    (reaches : Reaches (fun system action => system.step host parser configFile action)
      (fun system action => system.Restorable host parser configFile action) start system) :
    system.Reverted host parser configFile := by
  have initially : start.Consistent host parser configFile ∧
      start.Reverted host parser configFile := by
    refine ⟨⟨autoRevert, fun good load isAccepted => ?_⟩, fun _ good load isAccepted => ?_⟩
    · rw [isNew] at isAccepted
      cases isAccepted
    · rw [isNew] at isAccepted
      cases isAccepted
  have throughout := reaches.invariant
    (fun system => system.Consistent host parser configFile ∧ system.Reverted host parser configFile)
    initially ?_
  · exact throughout.2
  · intro state next action holds restorable taken
    exact ⟨holds.1.step taken, reverted_step holds.1 restorable taken⟩

end System

end Model

/-! ## A file with an optional include -/

/-- The top file `0` defines a DP and has file `1` as an optional include. -/
def optionalInclude : Host ℕ String String Yaml where
  isFile _ := false
  read _ := none
  yamlLoad text :=
    if text = "top" then .loads (.mapping [("dps", .mapping [("s1", .null)]),
      ("include-optional", .list [.scalar true "1"])])
    else if text = "more" then .loads (.mapping [("dps", .mapping [("s2", .null)])])
    else .error
  configHashContent text := text
  dpConfigPath _ _ := some 1
  items value := match value with
    | .mapping entries => some entries
    | _ => none

/-- All DPs have the same `dp_id`. -/
def sameDpId : Parser String Yaml ℕ where
  versionIsTwo _ := true
  dpPreparsedParser topConfs :=
    if ((topConfs.lookup "dps").getD []).length = 1 then .returns 1 else .invalid

/-- The files, all of which can be written. -/
def files (top included : Option String) : Disk ℕ where
  isFile path := if path = 0 then top.isSome else path = 1 && included.isSome
  read path := if path = 0 then top else if path = 1 then included else none
  writable _ := true

/-- Nothing has been loaded. -/
def newSystem : System ℕ String String Yaml ℕ where
  disk := files (some "top") none
  manager := ⟨true, ⟨none, none⟩, none, []⟩
  parsed := none
  accepted := none

/-- The steps of a system with one optional include. -/
def stepOptional (system : System ℕ String String Yaml ℕ) (action : Action ℕ) :=
  system.step optionalInclude sameDpId 0 action

/-- While it is missing, the optional include is all that is left out. -/
theorem leavesOut_optional {marks : Marks ℕ} {path : ℕ} {disk : Disk ℕ}
    (out : (optionalInclude.on (files (some "top") none)).LeavesOut v2TopConfs
      (.file (fun _ => none) 0) marks path) (missing : disk.isFile 1 = false) :
    (optionalInclude.on disk).Walks v2TopConfs (.file marks path) none := by
  have noFile : ∀ marks after, ¬ (optionalInclude.on (files (some "top") none)).Walks v2TopConfs
      (.file marks 1) (some after) := by
    rintro marks after walks
    cases walks with
    | file opened => cases opened
  cases out with
  | @file _ _ entries content _ _ opened out =>
      have sameEntries : Host.Opened.loads [("dps", .mapping [("s1", .null)]),
          ("include-optional", .list [.scalar true "1"])] "top" = .loads entries content := opened
      cases sameEntries
      cases out with
      | inside found walks =>
          cases found
          exact absurd walks (noFile _ _)
      | afterLoad found walks =>
          cases found
          exact absurd walks (noFile _ _)
      | here found =>
          cases found
          exact .notOpened (Host.openConfig_of_not_isFile missing)
      | afterSkip _ _ out => cases out

/-- The top file is broken while the optional include is missing. -/
theorem reverted_broken : ∃ system, exec stepOptional newSystem
      [.parse 2, .edit (files (some "broken") none), .parse 2] = some system ∧
    system.parsed = some .invalid ∧ system.accepted.isSome = true ∧
    system.Reverted optionalInclude sameDpId 0 := by
  have rejected : (optionalInclude.on (files (some "top") none)).dpParser sameDpId 2 0 ≠
      some .invalid := nofun
  have allowed : Allowed stepOptional
      (fun system action => system.Restorable optionalInclude sameDpId 0 action) newSystem
      [.parse 2, .edit (files (some "broken") none), .parse 2] := by
    refine ⟨fun invalid => absurd invalid rejected, trivial, fun _ good load isAccepted => ?_, trivial⟩
    cases isAccepted
    refine ⟨fun _ _ => rfl, fun marks path out => ?_⟩
    exact leavesOut_optional out rfl
  exact ⟨_, rfl, rfl, rfl, System.reverted rfl rfl (.of_exec _ allowed rfl)⟩

/-- An optional include is created whose DP is a duplicate; all files can be written. -/
theorem not_reverted_created : ∃ system, exec stepOptional newSystem
      [.parse 2, .edit (files (some "top") (some "more")), .parse 2] = some system ∧
    ¬ system.Reverted optionalInclude sameDpId 0 := by
  refine ⟨_, rfl, fun reverted => ?_⟩
  obtain ⟨depth, next, load, taken, parsed, _⟩ := reverted rfl _ _ rfl
  let written := (files (some "top") (some "more")).write 0 "top"
  have returns : (optionalInclude.on written).dpParser sameDpId depth 0 = some (.returns load) := by
    obtain ⟨_, _, _, other⟩ | ⟨_, returns, _, _, _, same⟩ | ⟨_, _, _, _, _, other⟩ :=
      System.step_parse taken
    · cases other.symm.trans parsed
    · cases same.symm.trans parsed
      exact returns
    · cases other.symm.trans parsed
  obtain ⟨_, _, _, _, returns⟩ := Host.dpParser_returns.mp returns
  obtain ⟨acc, runs, _, accepted, _⟩ := Host.configParserV2_returns.mp returns
  have both : (optionalInclude.on written).dpInclude 2
      (.initial (v2TopConfs.map fun name => (name, []))) 0 = some (.returns true
        { hashes := [(0, some "top"), (1, some "more")]
          contents := [(1, "more"), (0, "top")]
          topConfs := [("acls", []), ("dps", [("s1", .null), ("s2", .null)]), ("meters", []),
            ("routers", []), ("vlans", [])]
          merged := [0, 1] }) := rfl
  cases Host.dpInclude_unique runs both
  cases accepted


end Faucet.Config
