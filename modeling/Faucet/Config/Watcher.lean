import Faucet.Config.IncludeRecords

/-!
# Watching the configuration files

After a load the watcher has the hashes that `dp_include` left, in which an optional include
that was not loaded has none. Such an include counts as a change when it is a file, also
when it was one during the load and could not be loaded.

A change is detected exactly when it has to be (`contentChanged_iff`) if and only if each
optional include that the load left out is missing (`Clean`): then the files that are
recorded are all that the load depends on. A file that has become unreadable makes the
watcher raise.
-/

set_option autoImplicit false

namespace Faucet.Config

open OrderedDict

section Model

variable {P D K V : Type} [DecidableEq P] [DecidableEq D] [DecidableEq K]

/-! ## The watcher -/

namespace Host

variable (host : Host P D K V)

/-- `config_file_hash`; `none` is an error. -/
def configFileHash (configFileName : P) : Option D :=
  (host.read configFileName).map host.configHashContent

/-- The loop of `config_changed`; `none` where a file that exists cannot be read. -/
def filesChanged : List (P × Option D) → Option Bool
  | [] => some false
  | (configFile, configHash) :: rest =>
      let configFileExists := host.isFile configFile
      if configHash.isNone && configFileExists then some true
      else if configHash.isSome && !configFileExists then some true
      else if configFileExists then
        match host.configFileHash configFile with
        | none => none
        | some newConfigHash =>
            if some newConfigHash ≠ configHash then some true else filesChanged rest
      else filesChanged rest

/-- `config_changed` -/
def configChanged (topConfigFile newTopConfigFile : Option P)
    (configHashes : Option (List (P × Option D))) : Option Bool :=
  if newTopConfigFile ≠ topConfigFile then some true
  else match configHashes, newTopConfigFile with
    | some configHashes, some _ => host.filesChanged configHashes
    | _, _ => some false

end Host

/-- `ConfigWatcher`: the file and the hashes of the last load. -/
structure ConfigWatcher (P D : Type) where
  configFile : Option P
  configHashes : Option (List (P × Option D))

/-- `content_changed` -/
def ConfigWatcher.contentChanged (watcher : ConfigWatcher P D) (host : Host P D K V)
    (newConfigFile : P) : Option Bool :=
  host.configChanged watcher.configFile (some newConfigFile) watcher.configHashes

/-- `ConfigWatcher.update` -/
def ConfigWatcher.update (watcher : ConfigWatcher P D) (newConfigFile : P)
    (newConfigHashes : Option (List (P × Option D))) : ConfigWatcher P D :=
  let newConfigHashes := newConfigHashes.getD [(newConfigFile, none)]
  { configFile := some newConfigFile
    configHashes := if newConfigHashes.isEmpty then watcher.configHashes else some newConfigHashes }

/-- The host after files have been created, removed or edited. -/
def Host.edit (host : Host P D K V) (isFile : P → Bool) (read : P → Option String) : Host P D K V :=
  { host with isFile := isFile, read := read }

/-! ## Clean walks -/

/-- The file is loaded and so is all that it includes, but for the optional includes that are not
files; with the marks after it. -/
inductive Host.Clean (host : Host P D K V) (names : List String) : Walk P → Marks P → Prop
  | file {marks path entries content after} : host.openConfig names path = .loads entries content →
      host.validSections names entries = true →
      Clean host names (.includes marks path (Function.update marks path (some true))
        (includeValues entries)) after →
      Clean host names (.file marks path) after
  | done {before file marks} : Clean host names (.includes before file marks []) marks
  | load {before file marks required value rest path after final} :
      host.dpConfigPath value file = some path → before path = none →
      Clean host names (.file marks path) after →
      Clean host names (.includes before file after rest) final →
      Clean host names (.includes before file marks (some (required, value) :: rest)) final
  | missing {before file marks value rest path final} :
      host.dpConfigPath value file = some path → before path = none → host.isFile path = false →
      Clean host names
        (.includes before file (Function.update marks path (some false)) rest) final →
      Clean host names (.includes before file marks (some (false, value) :: rest)) final

namespace Host

variable {host : Host P D K V} {names : List String} {walk : Walk P} {marks final : Marks P}
  {acc new after : Accumulators P D K V} {path : P} {isFile : P → Bool} {read : P → Option String}
  {hashes : List (P × Option D)}

/-! ## What is compared -/

/-- A recorded file is as it was. -/
def Unchanged (host : Host P D K V) (path : P) : Option D → Prop
  | none => host.isFile path = false
  | some digest => host.isFile path = true ∧ host.configFileHash path = some digest

omit [DecidableEq P] [DecidableEq K] in
theorem filesChanged_eq_false_iff :
    host.filesChanged hashes = some false ↔ ∀ entry ∈ hashes, host.Unchanged entry.1 entry.2 := by
  induction hashes with
  | nil => simp [filesChanged]
  | cons entry rest ih =>
      obtain ⟨configFile, configHash⟩ := entry
      rw [List.forall_mem_cons, ← ih, filesChanged]
      cases configHash with
      | none => cases exists_ : host.isFile configFile <;> simp [Unchanged, exists_]
      | some digest =>
          cases exists_ : host.isFile configFile with
          | false => simp [Unchanged, exists_]
          | true =>
              cases hashed : host.configFileHash configFile with
              | none => simp [Unchanged, exists_, hashed]
              | some newConfigHash =>
                  by_cases same : newConfigHash = digest
                  · simp [Unchanged, exists_, hashed, same]
                  · simp [Unchanged, exists_, hashed, same]

/-- The comparison comes to a file that exists and cannot be read: those before it are as
they were. -/
inductive Unreadable (host : Host P D K V) : List (P × Option D) → Prop
  | here {path digest rest} : host.isFile path = true → host.read path = none →
      Unreadable host ((path, some digest) :: rest)
  | later {path hash rest} : host.Unchanged path hash → Unreadable host rest →
      Unreadable host ((path, hash) :: rest)

omit [DecidableEq P] [DecidableEq D] [DecidableEq K] in
theorem unreadable_iff_of_unchanged {hash : Option D} (same : host.Unchanged path hash) :
    host.Unreadable ((path, hash) :: hashes) ↔ host.Unreadable hashes := by
  refine ⟨fun unreadable => ?_, .later same⟩
  cases unreadable with
  | here exists_ isNone =>
      have hashed := same.2
      rw [configFileHash, isNone] at hashed
      cases hashed
  | later _ unreadable => exact unreadable

omit [DecidableEq P] [DecidableEq D] [DecidableEq K] in
/-- The comparison ends at a file that has changed, unless that cannot be told. -/
theorem not_unreadable_of_changed {hash : Option D} (changed : ¬ host.Unchanged path hash)
    (readable : host.isFile path = true → hash.isSome = true → (host.read path).isSome = true) :
    ¬ host.Unreadable ((path, hash) :: hashes) := by
  intro unreadable
  cases unreadable with
  | here exists_ isNone =>
      have isRead := readable exists_ rfl
      rw [isNone] at isRead
      cases isRead
  | later same _ => exact changed same

omit [DecidableEq P] [DecidableEq K] in
/-- The watcher raises at such a file alone. -/
theorem filesChanged_eq_none_iff : host.filesChanged hashes = none ↔ host.Unreadable hashes := by
  induction hashes with
  | nil =>
      constructor
      · nofun
      · nofun
  | cons entry rest ih =>
      obtain ⟨configFile, configHash⟩ := entry
      rw [filesChanged]
      cases configHash with
      | none =>
          cases exists_ : host.isFile configFile with
          | false =>
              have unchanged : host.Unchanged configFile none := exists_
              simpa using ih.trans (unreadable_iff_of_unchanged unchanged).symm
          | true =>
              simpa using not_unreadable_of_changed (by simp [Unchanged, exists_])
                fun _ hashed => by cases hashed
      | some digest =>
          cases exists_ : host.isFile configFile with
          | false =>
              simpa using not_unreadable_of_changed (by simp [Unchanged, exists_])
                fun isFile => by cases exists_.symm.trans isFile
          | true =>
              cases isRead : host.read configFile with
              | none => simpa [configFileHash, isRead] using Unreadable.here exists_ isRead
              | some text =>
                  by_cases same : host.configHashContent text = digest
                  · have unchanged : host.Unchanged configFile (some digest) :=
                      ⟨exists_, by simp [configFileHash, isRead, same]⟩
                    simpa [configFileHash, isRead, same] using
                      ih.trans (unreadable_iff_of_unchanged unchanged).symm
                  · simpa [configFileHash, isRead, same] using not_unreadable_of_changed
                      (by simp [Unchanged, exists_, configFileHash, isRead, same])
                      fun _ _ => by simp [isRead]

/-! ## Following a clean walk -/

theorem known_update {marks : Marks P} {mark : Bool} {other : P}
    (recorded : (marks other).isSome) : (Function.update marks path (some mark) other).isSome := by
  rw [Function.update_apply]
  split
  · rfl
  · exact recorded

omit [DecidableEq D] [DecidableEq K] in
theorem Clean.known (clean : host.Clean names walk final) (path : P)
    (recorded : (walk.marks path).isSome) : (final path).isSome := by
  induction clean with
  | file _ _ _ ih => exact ih (known_update recorded)
  | done => exact recorded
  | load _ _ _ _ ihFile ihRest => exact ihRest (ihFile recorded)
  | missing _ _ _ _ ih => exact ih (known_update recorded)

omit [DecidableEq D] [DecidableEq K] in
theorem Clean.self (clean : host.Clean names (.file marks path) final) : (final path).isSome := by
  cases clean with
  | file _ _ included => exact included.known path (by simp [Walk.marks])

/-- On the recorded paths the files are as they were. -/
def Agrees (host : Host P D K V) (isFile : P → Bool) (read : P → Option String) (marks : Marks P) :
    Prop :=
  ∀ path, (marks path).isSome → isFile path = host.isFile path ∧
    (host.isFile path = true → read path = host.read path)

omit [DecidableEq P] [DecidableEq D] [DecidableEq K] in
theorem openConfig_edit (same : isFile path = host.isFile path)
    (sameText : host.isFile path = true → read path = host.read path) :
    (host.edit isFile read).openConfig names path = host.openConfig names path := by
  rw [openConfig, openConfig]
  cases exists_ : host.isFile path with
  | false => simp [edit, same, exists_]
  | true => simp [edit, readConfig, same, sameText exists_, exists_]

/-- The hashes are those of the files. -/
def Digests (host : Host P D K V) (acc : Accumulators P D K V) : Prop :=
  ∀ path digest, acc.hashes.lookup path = some (some digest) → host.Unchanged path (some digest)

/-- A clean walk is what `dp_include` does, here and where the files agree. -/
def Follows (host : Host P D K V) (isFile : P → Bool) (read : P → Option String)
    (names : List String) : Walk P → Marks P → Prop
  | .file marks path, final => ∀ acc, acc.WellFormed → Marked names marks acc →
      ∃ depth after, host.dpInclude depth acc path = some (.returns true after) ∧
        (host.edit isFile read).dpInclude depth acc path = some (.returns true after) ∧
        Marked names final after ∧ (host.Digests acc → host.Digests after)
  | .includes before file marks steps, final => ∀ configHashes acc, acc.WellFormed →
      (∀ path, (configHashes.lookup path).map Option.isSome = before path) → Marked names marks acc →
      ∃ depth after, host.includeFiles (host.dpInclude depth) configHashes file acc steps =
          some (.returns true after) ∧
        (host.edit isFile read).includeFiles ((host.edit isFile read).dpInclude depth) configHashes
          file acc steps = some (.returns true after) ∧
        after.WellFormed ∧ Marked names final after ∧ (host.Digests acc → host.Digests after)

omit [DecidableEq D] in
theorem Clean.follows (clean : host.Clean names walk final)
    (agrees : host.Agrees isFile read final) : host.Follows isFile read names walk final := by
  induction clean with
  | @file marks path entries content final opened valid clean ih =>
      intro acc wellFormed marked
      have sameNames : acc.topConfs.map Prod.fst = names := marked.names
      have isValid := valid
      rw [← sameNames, ← isSome_newTopConfs] at isValid
      obtain ⟨newTopConfs, isSome⟩ := Option.isSome_iff_exists.mp isValid
      have started : Marked names (Function.update marks path (some true))
          (host.start acc path content newTopConfs) :=
        marked.set (some _) rfl (names_newTopConfs isSome)
      obtain ⟨depth, new, runs, runs', wellFormedNew, markedNew, digests⟩ := ih agrees acc.hashes
        (host.start acc path content newTopConfs)
        ⟨nodup_set wellFormed.hashes, wellFormed.contents⟩ marked.marks started
      have self : (final path).isSome := (Clean.file opened valid clean).self
      have known : ∀ path, acc.Known path → new.Known path := by
        intro path before
        rw [markedNew.known_iff]
        exact clean.known path (known_update (marked.known_iff.mp before))
      have opened' : (host.edit isFile read).openConfig names path = .loads entries content := by
        rw [openConfig_edit (agrees path self).1 (agrees path self).2, opened]
      refine ⟨depth + 1, finish acc path content new, ?_, ?_, ⟨fun other => ?_, ?_⟩, ?_⟩
      · simp only [dpInclude, marked.names, opened, isSome, runs]
      · have isSome' : (host.edit isFile read).newTopConfs entries acc.topConfs = some newTopConfs :=
          isSome
        have runs'' : (host.edit isFile read).includeFiles ((host.edit isFile read).dpInclude depth)
            acc.hashes path ((host.edit isFile read).start acc path content newTopConfs)
            (includeValues entries) = some (.returns true new) := runs'
        simp only [dpInclude, marked.names, opened', isSome', runs'']
      · rw [finish, lookup_updated wellFormedNew known, markedNew.marks]
      · have keptNames : new.topConfs.map Prod.fst = acc.topConfs.map Prod.fst :=
          markedNew.names.trans marked.names.symm
        have listed : ∀ name ∈ new.topConfs.map Prod.fst, name ∈ acc.topConfs.map Prod.fst := by
          intro name member
          rwa [keptNames] at member
        exact (names_updateTopConfs listed).trans marked.names
      · intro digestsBefore other digest found
        rw [finish, lookup_updated wellFormedNew known] at found
        refine digests ?_ other digest found
        intro other digest found
        rw [start, lookup_set] at found
        split at found
        next same =>
          cases found
          subst same
          refine ⟨isFile_of_loads opened, ?_⟩
          rw [configFileHash, read_of_loads opened]
          rfl
        next => exact digestsBefore other digest found
  | done =>
      intro configHashes acc wellFormed _ marked
      exact ⟨0, acc, rfl, rfl, wellFormed, marked, id⟩
  | @load before file marks required value rest path _ _ found unknown _ cleanRest ihFile ihRest =>
      intro configHashes acc wellFormed same marked
      have found' : (host.edit isFile read).dpConfigPath value file = some path := found
      have agreesFile : host.Agrees isFile read _ :=
        fun path recorded => agrees path (cleanRest.known path recorded)
      obtain ⟨depth, after, called, called', markedAfter, digests⟩ :=
        ihFile agreesFile acc wellFormed marked
      obtain ⟨depth', last, runs, runs', wellFormedLast, markedLast, digests'⟩ :=
        ihRest agrees configHashes after (dpInclude_grows wellFormed called).wellFormed same markedAfter
      have unrecorded := Option.map_eq_none_iff.mp ((same _).trans unknown)
      refine ⟨max depth depth', last, ?_, ?_, wellFormedLast, markedLast, digests' ∘ digests⟩
      · rw [includeFiles_load found unrecorded (dpInclude_le (le_max_left _ _) called)]
        exact includeFiles_le (le_max_right _ _) runs
      · rw [includeFiles_load found' unrecorded (dpInclude_le (le_max_left _ _) called')]
        exact includeFiles_le (le_max_right _ _) runs'
  | @missing before file marks value rest path final found unknown noFile cleanRest ih =>
      intro configHashes acc wellFormed same marked
      obtain ⟨depth, last, runs, runs', wellFormedLast, markedLast, digests⟩ := ih agrees configHashes
        { acc with hashes := set acc.hashes path none }
        ⟨nodup_set wellFormed.hashes, wellFormed.contents⟩ same (marked.set none rfl rfl)
      have unrecorded := Option.map_eq_none_iff.mp ((same _).trans unknown)
      have found' : (host.edit isFile read).dpConfigPath value file = some path := found
      have self : (final path).isSome := cleanRest.known path (by simp [Walk.marks])
      have noFile' : isFile path = false := (agrees path self).1.trans noFile
      have fails : ∀ host : Host P D K V, host.isFile path = false →
          host.dpInclude (depth + 1) acc path = some (.returns false acc) := by
        intro host noFile
        rw [dpInclude, openConfig_of_not_isFile noFile]
      refine ⟨depth + 1, last, ?_, ?_, wellFormedLast, markedLast, fun before => digests ?_⟩
      · rw [includeFiles_skip found unrecorded (fails host noFile)]
        exact includeFiles_le (Nat.le_succ _) runs
      · rw [includeFiles_skip found' unrecorded (fails (host.edit isFile read) noFile')]
        exact includeFiles_le (Nat.le_succ _) runs'
      · intro other digest isHash
        rw [lookup_set] at isHash
        split at isHash
        next => cases isHash
        next => exact before other digest isHash

omit [DecidableEq D] [DecidableEq K] in
/-- What a clean walk leaves out is missing. -/
theorem Clean.missing_of_mark (clean : host.Clean names walk final)
    (before : ∀ path, walk.marks path = some false → host.isFile path = false) :
    ∀ path, final path = some false → host.isFile path = false := by
  induction clean with
  | file _ _ _ ih =>
      refine ih fun path unloaded => ?_
      rw [Walk.marks, Function.update_apply] at unloaded
      split at unloaded
      · cases unloaded
      · exact before path unloaded
  | done => exact before
  | load _ _ _ _ ihFile ihRest => exact ihRest (ihFile before)
  | missing _ _ noFile _ ih =>
      refine ih fun path unloaded => ?_
      rw [Walk.marks, Function.update_apply] at unloaded
      split at unloaded
      next same => rw [same, noFile]
      next => exact before path unloaded

/-! ## Loads that are not clean -/

/-- The walk with less recorded. -/
inductive Below : Walk P → Walk P → Prop
  | file {marks marks' path} : (∀ path, (marks path).isSome → (marks' path).isSome) →
      Below (.file marks path) (.file marks' path)
  | includes {before before' file marks marks' steps} :
      (∀ path, (before path).isSome → (before' path).isSome) →
      (∀ path, (marks path).isSome → (marks' path).isSome) →
      Below (.includes before file marks steps) (.includes before' file marks' steps)

theorem isSome_update {marks marks' : Marks P} {mark : Bool}
    (less : ∀ path, (marks path).isSome → (marks' path).isSome) (other : P)
    (recorded : (Function.update marks path (some mark) other).isSome) :
    (Function.update marks' path (some mark) other).isSome := by
  rw [Function.update_apply] at recorded ⊢
  split
  · rfl
  next different =>
    rw [if_neg different] at recorded
    exact less other recorded

omit [DecidableEq P] in
theorem unknown_of_less {before before' : Marks P}
    (less : ∀ path, (before path).isSome → (before' path).isSome) (unknown : before' path = none) :
    before path = none := by
  rw [← Option.not_isSome_iff_eq_none] at unknown ⊢
  exact mt (less path) unknown

omit [DecidableEq D] [DecidableEq K] in
/-- A clean walk is clean with less recorded. -/
theorem Clean.of_less (clean : host.Clean names walk final) {walk' : Walk P} (below : Below walk' walk) :
    ∃ final', host.Clean names walk' final' ∧ ∀ path, (final' path).isSome → (final path).isSome := by
  induction clean generalizing walk' with
  | file opened valid _ ih =>
      cases below with
      | file less =>
          obtain ⟨final', clean, lessAfter⟩ := ih (.includes less (isSome_update less))
          exact ⟨final', .file opened valid clean, lessAfter⟩
  | done =>
      cases below with
      | includes _ less => exact ⟨_, .done, less⟩
  | load found unknown _ _ ihFile ihRest =>
      cases below with
      | includes lessBefore less =>
          obtain ⟨after', cleanFile, lessAfter⟩ := ihFile (.file less)
          obtain ⟨final', cleanRest, lessFinal⟩ := ihRest (.includes lessBefore lessAfter)
          exact ⟨final', .load found (unknown_of_less lessBefore unknown) cleanFile cleanRest, lessFinal⟩
  | missing found unknown noFile _ ih =>
      cases below with
      | includes lessBefore less =>
          obtain ⟨final', clean, lessFinal⟩ := ih (.includes lessBefore (isSome_update less))
          exact ⟨final', .missing found (unknown_of_less lessBefore unknown) noFile clean, lessFinal⟩

/-- The file has been left out, and no load of it is clean that comes later. -/
structure LeftOut (host : Host P D K V) (names : List String) (marks : Marks P) (path : P) : Prop where
  exists_ : host.isFile path = true
  mark : marks path = some false
  never : ∀ marks' final, (∀ path, (marks path).isSome → (marks' path).isSome) →
    ¬ host.Clean names (.file marks' path) final

omit [DecidableEq D] [DecidableEq K] in
/-- A file that is left out stays so in a clean walk. -/
theorem Clean.leftOut (clean : host.Clean names walk final)
    (leftOut : host.LeftOut names walk.marks path) : host.LeftOut names final path := by
  have stays : final path = some false := by
    obtain ⟨isFile, mark, never⟩ := leftOut
    induction clean with
    | @file marks path' _ _ _ opened valid clean ih =>
        have different : path ≠ path' := by
          rintro rfl
          exact never marks _ (fun _ => id) (.file opened valid clean)
        refine ih ?_ fun marks' final less => never marks' final fun other recorded => ?_
        · rw [Walk.marks, Function.update_of_ne different]
          exact mark
        · exact less other (known_update recorded)
    | done => exact mark
    | load _ _ cleanFile _ ihFile ihRest =>
        have kept := ihFile mark never
        refine ihRest kept fun marks' final less => never marks' final fun other recorded => ?_
        exact less other (cleanFile.known other recorded)
    | @missing _ _ marks _ _ path' _ _ _ noFile _ ih =>
        have different : path ≠ path' := by
          rintro rfl
          rw [isFile] at noFile
          cases noFile
        refine ih ?_ fun marks' final less => never marks' final fun other recorded => ?_
        · rw [Walk.marks, Function.update_of_ne different]
          exact mark
        · exact less other (known_update recorded)
  exact ⟨leftOut.exists_, stays, fun marks' final less =>
    leftOut.never marks' final fun other recorded => less other (clean.known other recorded)⟩

omit [DecidableEq D] in
theorem names_of_returns {depth : ℕ} {loaded : Bool}
    (runs : host.dpInclude depth acc path = some (.returns loaded after)) :
    after.names = acc.names := by
  induction depth generalizing acc path loaded after with
  | zero => cases runs
  | succ depth ih =>
      rw [dpInclude] at runs
      split at runs
      next =>
        cases runs
        rfl
      next => cases runs
      next entries content _ =>
        split at runs
        next =>
          cases runs
          rfl
        next newTopConfs isNew =>
          have loop : ∀ {result}, host.includeFiles (host.dpInclude depth) acc.hashes path
              (host.start acc path content newTopConfs) (includeValues entries) = some result →
                ∀ loaded new, result = .returns loaded new → new.names = acc.names := by
            intro result runs
            refine includeFiles_rule (fun new => new.names = acc.names)
              (fun result => ∀ loaded new, result = .returns loaded new → new.names = acc.names)
              ?_ (by simp) (fun new path after same _ called => (ih called).trans same) ?_
              (names_newTopConfs isNew) runs
            · intro new loaded same _ _ eq
              cases eq
              exact same
            · intro new path after same _ called
              refine ⟨?_, (ih called).trans same⟩
              intro _ _ eq
              cases eq
              exact (ih called).trans same
          split at runs
          next new looped =>
            cases runs
            have sameNames : new.topConfs.map Prod.fst = acc.topConfs.map Prod.fst :=
              loop looped true new rfl
            refine names_updateTopConfs fun name member => ?_
            rwa [sameNames] at member
          next =>
            cases runs
            rfl
          next stopped notLoaded notFailed =>
            cases loaded with
            | true => exact absurd runs (notLoaded after)
            | false => exact absurd runs (notFailed after)

omit [DecidableEq P] [DecidableEq D] [DecidableEq K] in
theorem agrees_self (marks : Marks P) : host.Agrees host.isFile host.read marks :=
  fun _ _ => ⟨rfl, fun _ => rfl⟩

omit [DecidableEq D] in
/-- A file that exists and does not load has no clean load later. -/
theorem leftOut_of_fails {depth : ℕ} (wellFormed : acc.WellFormed) (isFile : host.isFile path = true)
    (fails : host.dpInclude depth acc path = some (.returns false after)) :
    host.LeftOut acc.names (Function.update after.marks path (some false)) path := by
  refine ⟨isFile, Function.update_self _ _ _, fun marks' final less clean => ?_⟩
  have kept : after = { acc with contents := after.contents } :=
    (dpInclude_grows wellFormed fails).failed rfl
  have sameMarks : after.marks = acc.marks := by rw [kept]; rfl
  have below : Below (.file acc.marks path) (.file marks' path) :=
    .file fun other recorded => less other (known_update (sameMarks ▸ recorded))
  obtain ⟨final', cleanBefore, _⟩ := clean.of_less below
  obtain ⟨depth', loaded, runs, _⟩ :=
    cleanBefore.follows (agrees_self final') acc wellFormed ⟨fun _ => rfl, rfl⟩
  cases dpInclude_unique fails runs

omit [DecidableEq D] [DecidableEq K] in
theorem marks_set (acc new : Accumulators P D K V) (hash : Option D)
    (isSet : new.hashes = set acc.hashes path hash) :
    new.marks = Function.update acc.marks path (some hash.isSome) := by
  funext other
  rw [Accumulators.marks, isSet, lookup_set, Function.update_apply]
  split <;> rfl

omit [DecidableEq D] in
/-- The includes that load are clean, or leave a file out. -/
theorem includes_clean_or_leftOut {depth : ℕ} {configFile : P} {steps : List (Option (Bool × Yaml))}
    (calls : ∀ new path after, new.WellFormed → new.names = names →
      host.dpInclude depth new path = some (.returns true after) →
        host.Clean names (.file new.marks path) after.marks ∨
          ∃ path, host.LeftOut names after.marks path)
    (wellFormed : new.WellFormed) (sameNames : new.names = names)
    (runs : host.includeFiles (host.dpInclude depth) hashes configFile new steps =
      some (.returns true after)) :
    host.Clean names (.includes (fun path => (hashes.lookup path).map Option.isSome) configFile
        new.marks steps) after.marks ∨ ∃ path, host.LeftOut names after.marks path := by
  induction steps generalizing new with
  | nil =>
      cases runs
      exact .inl .done
  | cons step rest ih =>
      cases step with
      | none => cases runs
      | some directive =>
          obtain ⟨fileRequired, value⟩ := directive
          rw [includeFiles] at runs
          split at runs
          next => cases runs
          next path found =>
            split at runs
            next => cases runs
            next known =>
              have unknown : (hashes.lookup path).map Option.isSome = none := by
                rw [Option.not_isSome_iff_eq_none.mp known]
                rfl
              split at runs
              next middle called =>
                have grows := dpInclude_grows wellFormed called
                have names' := (names_of_returns called).trans sameNames
                rcases ih grows.wellFormed names' runs with cleanRest | leftOut
                · rcases calls new path middle wellFormed sameNames called with cleanFile | ⟨other, leftOut⟩
                  · exact .inl (.load found unknown cleanFile cleanRest)
                  · exact .inr ⟨other, cleanRest.leftOut leftOut⟩
                · exact .inr leftOut
              next middle called =>
                have grows := dpInclude_grows wellFormed called
                have names' := (names_of_returns called).trans sameNames
                have sameMarks : middle.marks = new.marks := by rw [grows.failed rfl]; rfl
                split at runs
                next => cases runs
                next optional =>
                  rw [Bool.not_eq_true] at optional
                  subst optional
                  have skipped : ({ middle with hashes := set middle.hashes path none } :
                      Accumulators P D K V).marks = Function.update middle.marks path (some false) :=
                    marks_set middle _ none rfl
                  have kept : ({ middle with hashes := set middle.hashes path none } :
                      Accumulators P D K V).WellFormed :=
                    ⟨nodup_set grows.wellFormed.hashes, grows.wellFormed.contents⟩
                  rcases ih kept names' runs with cleanRest | leftOut
                  · rw [skipped] at cleanRest
                    cases isFile : host.isFile path with
                    | false => exact .inl (.missing found unknown isFile (sameMarks ▸ cleanRest))
                    | true =>
                        have leftOut := leftOut_of_fails wellFormed isFile called
                        rw [sameNames] at leftOut
                        exact .inr ⟨path, cleanRest.leftOut leftOut⟩
                  · exact .inr leftOut
              next stopped notLoaded _ => exact absurd runs (notLoaded after)

omit [DecidableEq D] in
/-- A load that succeeds is clean, or leaves a file out. -/
theorem clean_or_leftOut {depth : ℕ} (wellFormed : acc.WellFormed)
    (runs : host.dpInclude depth acc path = some (.returns true after)) :
    host.Clean acc.names (.file acc.marks path) after.marks ∨
      ∃ path, host.LeftOut acc.names after.marks path := by
  induction depth generalizing acc path after with
  | zero => cases runs
  | succ depth ih =>
      rw [dpInclude] at runs
      split at runs
      next => cases runs
      next => cases runs
      next entries content opened =>
        split at runs
        next => cases runs
        next newTopConfs isNew =>
          split at runs
          next new looped =>
            cases runs
            have wellFormedStart : (host.start acc path content newTopConfs).WellFormed :=
              ⟨nodup_set wellFormed.hashes, wellFormed.contents⟩
            have valid : host.validSections acc.names entries = true := by
              rw [Accumulators.names, ← isSome_newTopConfs, isNew]
              rfl
            obtain ⟨wellFormedNew, known⟩ :=
              includeFiles_grows (fun _ _ _ _ => dpInclude_grows) wellFormedStart looped
            have sameMarks : (finish acc path content new).marks = new.marks := by
              funext other
              rw [Accumulators.marks, Accumulators.marks, finish, lookup_updated wellFormedNew]
              exact fun path before => known path (known_set.mpr (.inr before))
            have started : (host.start acc path content newTopConfs).marks =
                Function.update acc.marks path (some true) :=
              marks_set acc _ (some (host.configHashContent content)) rfl
            rw [sameMarks]
            have calls : ∀ (new : Accumulators P D K V) path after, new.WellFormed →
                new.names = acc.names → host.dpInclude depth new path = some (.returns true after) →
                host.Clean acc.names (.file new.marks path) after.marks ∨
                  ∃ path, host.LeftOut acc.names after.marks path := by
              intro new path after wellFormed sameNames runs
              rw [← sameNames]
              exact ih wellFormed runs
            rcases includes_clean_or_leftOut calls wellFormedStart (names_newTopConfs isNew) looped
              with clean | leftOut
            · rw [started] at clean
              exact .inl (.file opened valid clean)
            · exact .inr leftOut
          next => cases runs
          next stopped notLoaded _ => exact absurd runs (notLoaded after)

/-! ## What the watcher detects -/

omit [DecidableEq K] in
theorem contentChanged_update (watcher : ConfigWatcher P D) (configFile : P)
    (nonempty : hashes ≠ []) :
    (watcher.update configFile (some hashes)).contentChanged host configFile =
      host.filesChanged hashes := by
  have notEmpty : hashes.isEmpty = false := by simpa using nonempty
  simp [ConfigWatcher.update, ConfigWatcher.contentChanged, configChanged, notEmpty]

omit [DecidableEq P] [DecidableEq D] [DecidableEq K] in
/-- A file that is as it was recorded has the text that it had. -/
theorem agrees_of_unchanged {hash : Option D} (injective : Function.Injective host.configHashContent)
    (before : host.Unchanged path hash) (now : (host.edit isFile read).Unchanged path hash) :
    isFile path = host.isFile path ∧ (host.isFile path = true → read path = host.read path) := by
  cases hash with
  | none =>
      have noFile : host.isFile path = false := before
      refine ⟨now.trans noFile.symm, fun exists_ => ?_⟩
      rw [noFile] at exists_
      cases exists_
  | some digest =>
      refine ⟨now.1.trans before.1.symm, fun _ => ?_⟩
      exact Option.map_injective injective (now.2.trans before.2.symm)

omit [DecidableEq D] in
/-- After a clean load no recorded file has changed. -/
theorem filesChanged_of_clean {depth : ℕ} {topConfs : List (String × List (K × V))}
    (clean : host.Clean (topConfs.map Prod.fst) (.file (fun _ => none) path) final)
    (loaded : host.dpInclude depth (.initial topConfs) path = some (.returns true after)) :
    after.WellFormed ∧ Marked (topConfs.map Prod.fst) final after ∧
      ∀ entry ∈ after.hashes, host.Unchanged entry.1 entry.2 := by
  have wellFormed : (Accumulators.initial topConfs : Accumulators P D K V).WellFormed :=
    wellFormed_initial topConfs
  obtain ⟨depth', after', runs, _, marked, digests⟩ :=
    clean.follows (agrees_self final) (.initial topConfs) wellFormed ⟨fun _ => rfl, rfl⟩
  cases dpInclude_unique loaded runs
  have kept := (dpInclude_grows wellFormed loaded).wellFormed
  refine ⟨kept, marked, ?_⟩
  rintro ⟨other, hash⟩ member
  have found := (mem_iff_lookup kept.hashes).mp member
  cases hash with
  | none =>
      refine clean.missing_of_mark nofun other ?_
      rw [← marked.marks, found]
      rfl
  | some digest => exact digests nofun other digest found

/-- **What is detected**: nothing while the files stay, and every edit that changes what is loaded
and lets the recorded files be compared, if and only if each optional include that is left out is
missing. -/
theorem contentChanged_iff {depth : ℕ} (watcher : ConfigWatcher P D) (configFile : P)
    (topConfs : List (String × List (K × V))) (injective : Function.Injective host.configHashContent)
    (loaded : host.dpInclude depth (.initial topConfs) path = some (.returns true after)) :
    ((watcher.update configFile (some after.hashes)).contentChanged host configFile = some false ∧
      ∀ isFile read, ¬ (host.edit isFile read).Unreadable after.hashes →
        (∀ depth, (host.edit isFile read).dpInclude depth (.initial topConfs) path ≠
          some (.returns true after)) →
        (watcher.update configFile (some after.hashes)).contentChanged (host.edit isFile read)
          configFile = some true) ↔
      ∃ final, host.Clean (topConfs.map Prod.fst) (.file (fun _ => none) path) final := by
  have wellFormed : (Accumulators.initial topConfs : Accumulators P D K V).WellFormed :=
    wellFormed_initial topConfs
  constructor
  · rintro ⟨unchanged, _⟩
    rcases clean_or_leftOut wellFormed loaded with clean | ⟨other, exists_, mark, _⟩
    · exact ⟨_, clean⟩
    · have found : after.hashes.lookup other = some none := by
        rw [Accumulators.marks, Option.map_eq_some_iff] at mark
        obtain ⟨hash, found, isNone⟩ := mark
        rw [Option.isSome_eq_false_iff, Option.isNone_iff_eq_none] at isNone
        rw [found, isNone]
      have member := mem_of_lookup found
      rw [contentChanged_update watcher configFile (List.ne_nil_of_mem member),
        filesChanged_eq_false_iff] at unchanged
      have noFile : host.isFile other = false := unchanged _ member
      rw [exists_] at noFile
      cases noFile
  · rintro ⟨final, clean⟩
    obtain ⟨kept, marked, unchanged⟩ := filesChanged_of_clean clean loaded
    have recorded : ∀ path, (final path).isSome → ∃ hash, (path, hash) ∈ after.hashes := by
      intro path known
      rw [← marked.marks, Option.isSome_map] at known
      obtain ⟨hash, found⟩ := Option.isSome_iff_exists.mp known
      exact ⟨hash, mem_of_lookup found⟩
    obtain ⟨_, top⟩ := recorded path clean.self
    have nonempty : after.hashes ≠ [] := List.ne_nil_of_mem top
    rw [contentChanged_update watcher configFile nonempty]
    refine ⟨filesChanged_eq_false_iff.mpr unchanged, fun isFile read comparable differs => ?_⟩
    rw [contentChanged_update watcher configFile nonempty]
    cases changed : (host.edit isFile read).filesChanged after.hashes with
    | none => exact absurd (filesChanged_eq_none_iff.mp changed) comparable
    | some value =>
        cases value with
        | true => rfl
        | false =>
            have same := filesChanged_eq_false_iff.mp changed
            have agrees : host.Agrees isFile read final := by
              intro other known
              obtain ⟨hash, member⟩ := recorded other known
              exact agrees_of_unchanged injective (unchanged _ member) (same _ member)
            obtain ⟨depth', after', runs, runs', _⟩ :=
              clean.follows agrees (.initial topConfs) wellFormed ⟨fun _ => rfl, rfl⟩
            cases dpInclude_unique loaded runs
            exact absurd runs' (differs depth')

end Host

end Model

/-! ## An optional include that cannot be loaded -/

/-- File `1` is optional, and its section is not valid. -/
def rejected : Host ℕ String Unit Unit :=
  { twoFiles [("include-optional", .list [.scalar true "1"])] with items := fun _ => none }

/-- It counts as a change although no file has been touched. -/
theorem contentChanged_rejected : ∃ after,
    rejected.dpInclude 2 noneLoaded 0 = some (.returns true after) ∧
      ((ConfigWatcher.mk none none).update 0 (some after.hashes)).contentChanged rejected 0 =
        some true := ⟨_, rfl, rfl⟩

/-- What is recorded where file `2` is missing. -/
def oneLoaded : Accumulators ℕ String Unit Unit where
  hashes := [(0, some "top"), (1, some "included"), (2, none)]
  contents := [(1, "included"), (0, "top")]
  topConfs := [("dps", [])]
  merged := [0, 1]

/-- Nothing is detected until file `2` is added. -/
theorem contentChanged_oneOptional :
    (((ConfigWatcher.mk none none).update 0 (some oneLoaded.hashes)).contentChanged
        (twoFiles oneOptional) 0 = some false) ∧
      ((ConfigWatcher.mk none none).update 0 (some oneLoaded.hashes)).contentChanged
        ((twoFiles oneOptional).edit (fun _ => true)
          fun path => some (if path = 0 then "top" else "included")) 0 = some true := by
  have included : (twoFiles oneOptional).Clean ["dps"]
      (.file (Function.update (fun _ => none) 0 (some true)) 1) _ := .file rfl rfl .done
  have clean : (twoFiles oneOptional).Clean ["dps"] (.file (fun _ => none) 0) _ :=
    .file rfl rfl (.load rfl rfl included (.missing rfl rfl rfl .done))
  have injective : Function.Injective (twoFiles oneOptional).configHashContent := fun _ _ => id
  have loaded : (twoFiles oneOptional).dpInclude 3 (.initial [("dps", [])]) 0 =
      some (.returns true oneLoaded) := rfl
  obtain ⟨unchanged, detects⟩ := (Host.contentChanged_iff ⟨none, none⟩ 0 [("dps", [])] injective
    loaded).mpr ⟨_, clean⟩
  have comparable : ¬ ((twoFiles oneOptional).edit (fun _ => true)
      fun path => some (if path = 0 then "top" else "included")).Unreadable oneLoaded.hashes := by
    rw [← Host.filesChanged_eq_none_iff]
    decide
  refine ⟨unchanged, detects _ _ comparable fun depth same => ?_⟩
  have other : ((twoFiles oneOptional).edit (fun _ => true)
      fun path => some (if path = 0 then "top" else "included")).dpInclude 3
        (.initial [("dps", [])]) 0 = some (.returns true
          { hashes := [(0, some "top"), (1, some "included"), (2, some "included")]
            contents := [(1, "included"), (2, "included"), (0, "top")]
            topConfs := [("dps", [])]
            merged := [0, 1, 2] }) := rfl
  cases Host.dpInclude_unique same other

end Faucet.Config
