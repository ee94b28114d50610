import Faucet.Config.Include

/-!
# What including a file records

The walk over the files and their includes depends on what is recorded of each path only:
nothing, a hash, or that it has not been loaded. A walk is `Regular` when nothing raises,
no file fails after one of its includes has been loaded, and no file is loaded again, or
given up, that has a hash.

Then a load that fails leaves the accumulators alone, and one that succeeds records the
hash and the contents of each file that it merges (`dpInclude_meets`).
-/

set_option autoImplicit false

namespace Faucet.Config

open OrderedDict

section Model

variable {P D K V : Type} [DecidableEq P] [DecidableEq K]

/-! ## What is meant -/

/-- The files with a hash are those with contents and the pending ones, whose includes are being
loaded; a hash is that of the file, and what is merged has one and is merged once. -/
structure Recorded (host : Host P D K V) (pending : List P) (acc : Accumulators P D K V) : Prop where
  wellFormed : acc.WellFormed
  hashed_iff : ∀ path, acc.Hashed path ↔ path ∈ pending ∨ (acc.contents.lookup path).isSome
  digests : ∀ path digest, acc.hashes.lookup path = some (some digest) →
    ∃ text, host.read path = some text ∧ digest = host.configHashContent text
  texts : ∀ path text, acc.contents.lookup path = some text → host.read path = some text
  merged : ∀ path ∈ acc.merged, acc.Hashed path
  once : acc.merged.Nodup

/-- A call returns; when it fails the accumulators are as before, and when it succeeds
they record what has been loaded. -/
def Meets (host : Host P D K V) (pending : List P) (acc : Accumulators P D K V)
    (result : Result P D K V) : Prop :=
  ∃ loaded after, result = .returns loaded after ∧ (loaded = false → after = acc) ∧
    (loaded = true → Recorded host pending after)

/-! ## Regular walks -/

/-- What is recorded of the paths: `some true` is a hash, `some false` that it was not loaded. -/
abbrev Marks (P : Type) := P → Option Bool

/-- What is recorded of a path: that it was loaded, or that it was not. -/
def Accumulators.marks (acc : Accumulators P D K V) : Marks P := fun path =>
  (acc.hashes.lookup path).map Option.isSome

/-- A file to load, or the includes of a file, which are looked up in the marks from before it. -/
inductive Walk (P : Type) where
  | file (marks : Marks P) (path : P)
  | includes (before : Marks P) (file : P) (marks : Marks P) (steps : List (Option (Bool × Yaml)))

namespace Host

variable (host : Host P D K V)

/-- The sections of a file can be merged. -/
def validSections (names : List String) (entries : List (String × Yaml)) : Bool :=
  names.all fun name => match entries.lookup name with
    | none => true
    | some value => (host.items value).isSome

/-- A walk that loads the files, with the marks after it, or `none` when it fails. -/
inductive Regular (names : List String) : Walk P → Option (Marks P) → Prop
  | notOpened {marks path} : host.openConfig names path = .fails →
      Regular names (.file marks path) none
  | notValid {marks path entries content} : host.openConfig names path = .loads entries content →
      host.validSections names entries = false → Regular names (.file marks path) none
  | file {marks path entries content after} : host.openConfig names path = .loads entries content →
      host.validSections names entries = true →
      Regular names (.includes marks path (Function.update marks path (some true))
        (includeValues entries)) after →
      Regular names (.file marks path) after
  | done {before file marks} : Regular names (.includes before file marks []) (some marks)
  | load {before file marks required value rest path after final} :
      host.dpConfigPath value file = some path → before path = none → marks path ≠ some true →
      Regular names (.file marks path) (some after) →
      Regular names (.includes before file after rest) (some final) →
      Regular names (.includes before file marks (some (required, value) :: rest)) (some final)
  | skip {before file marks value rest path after} :
      host.dpConfigPath value file = some path → before path = none →
      (after.isSome → marks path ≠ some true) → Regular names (.file marks path) none →
      Regular names (.includes before file (Function.update marks path (some false)) rest) after →
      Regular names (.includes before file marks (some (false, value) :: rest)) after
  | required {before file marks value rest path} :
      host.dpConfigPath value file = some path → before path = none →
      Regular names (.file marks path) none →
      Regular names (.includes before file marks (some (true, value) :: rest)) none
  | loop {before file marks required value rest path} :
      host.dpConfigPath value file = some path → (before path).isSome →
      Regular names (.includes before file marks (some (required, value) :: rest)) none
  | directive {before file marks rest} : Regular names (.includes before file marks (none :: rest)) none

variable {host} {names : List String} {entries : List (String × Yaml)} {content : String}
  {configFile : P} {acc new : Accumulators P D K V} {topConfs newConfs : List (String × List (K × V))}

/-! ## Sections -/

omit [DecidableEq P] in
theorem isSome_newTopConfs :
    (host.newTopConfs entries topConfs).isSome =
      host.validSections (topConfs.map Prod.fst) entries := by
  have isSome_newTopConf : ∀ conf, (host.newTopConf entries conf).isSome =
      match entries.lookup conf.1 with
      | none => true
      | some value => (host.items value).isSome := by
    intro conf
    rw [newTopConf]
    cases entries.lookup conf.1 with
    | none => rfl
    | some value => exact Option.isSome_map
  induction topConfs with
  | nil => rfl
  | cons conf rest ih =>
      rw [newTopConfs, List.mapM_cons, List.map_cons, validSections, List.all_cons,
        ← isSome_newTopConf]
      rw [newTopConfs, validSections] at ih
      rw [← ih]
      cases host.newTopConf entries conf with
      | none => rfl
      | some first => cases rest.mapM (host.newTopConf entries) <;> rfl

omit [DecidableEq P] in
theorem names_newTopConfs (valid : host.newTopConfs entries topConfs = some newConfs) :
    newConfs.map Prod.fst = topConfs.map Prod.fst := by
  induction topConfs generalizing newConfs with
  | nil =>
      cases valid
      rfl
  | cons conf rest ih =>
      rw [newTopConfs, List.mapM_cons] at valid
      obtain ⟨first, isFirst, valid⟩ := Option.bind_eq_some_iff.mp valid
      obtain ⟨others, areOthers, same⟩ := Option.bind_eq_some_iff.mp valid
      cases same
      have sameName : first.1 = conf.1 := by
        rw [newTopConf] at isFirst
        split at isFirst
        next =>
          cases isFirst
          rfl
        next =>
          obtain ⟨items, _, rfl⟩ := Option.map_eq_some_iff.mp isFirst
          rfl
      rw [List.map_cons, List.map_cons, ih areOthers, sameName]

theorem names_updateTopConfs (listed : ∀ name ∈ newConfs.map Prod.fst, name ∈ topConfs.map Prod.fst) :
    (updateTopConfs topConfs newConfs).map Prod.fst = topConfs.map Prod.fst := by
  induction newConfs generalizing topConfs with
  | nil => rfl
  | cons conf rest ih =>
      have kept : (set topConfs conf.1
          (updateDict ((topConfs.lookup conf.1).getD []) conf.2)).map Prod.fst =
            topConfs.map Prod.fst := by
        rw [map_fst_set, if_pos (listed conf.1 List.mem_cons_self)]
      rw [updateTopConfs, List.foldl_cons]
      refine (ih ?_).trans kept
      intro name member
      rw [kept]
      exact listed name (List.mem_cons_of_mem _ member)

/-! ## Marks -/

/-- The accumulators have these marks and sections. -/
structure Marked (names : List String) (marks : Marks P) (acc : Accumulators P D K V) : Prop where
  marks : ∀ path, (acc.hashes.lookup path).map Option.isSome = marks path
  names : acc.names = names

variable {marks : Marks P} {path : P} {walk : Walk P}

omit [DecidableEq K] in
theorem Marked.hashed_iff (marked : Marked names marks acc) :
    acc.Hashed path ↔ marks path = some true := by
  rw [← marked.marks, Option.map_eq_some_iff]
  constructor
  · rintro ⟨digest, found⟩
    exact ⟨some digest, found, rfl⟩
  · rintro ⟨hash, found, isSome⟩
    obtain ⟨digest, rfl⟩ := Option.isSome_iff_exists.mp isSome
    exact ⟨digest, found⟩

omit [DecidableEq K] in
theorem Marked.known_iff (marked : Marked names marks acc) :
    acc.Known path ↔ (marks path).isSome := by
  rw [← marked.marks, Option.isSome_map]
  rfl

omit [DecidableEq K] in
theorem Marked.set (marked : Marked names marks acc) (hash : Option D)
    (hashes : new.hashes = OrderedDict.set acc.hashes path hash) (sameNames : new.names = acc.names) :
    Marked names (Function.update marks path (some hash.isSome)) new := by
  refine ⟨fun other => ?_, sameNames.trans marked.names⟩
  rw [hashes, lookup_set]
  by_cases same : other = path
  · subst same
    rw [if_pos rfl, Function.update_self]
    rfl
  · rw [if_neg same, Function.update_of_ne same, marked.marks]

end Host

/-- The marks from where a walk goes on. -/
def Walk.marks : Walk P → Marks P
  | file marks _ => marks
  | includes _ _ marks _ => marks

/-- What is recorded stays so, and a hash stays. -/
structure Marks.Le (before after : Marks P) : Prop where
  known : ∀ path, (before path).isSome → (after path).isSome
  hashed : ∀ path, before path = some true → after path = some true

omit [DecidableEq P] in
theorem Marks.Le.trans {first second third : Marks P} (le : first.Le second)
    (le' : second.Le third) : first.Le third :=
  ⟨fun path known => le'.known path (le.known path known),
    fun path hashed => le'.hashed path (le.hashed path hashed)⟩

theorem Marks.le_update {marks : Marks P} {path : P} {mark : Bool}
    (keeps : marks path = some true → mark = true) :
    marks.Le (Function.update marks path (some mark)) := by
  constructor
  · intro other known
    by_cases same : other = path
    · subst same
      rw [Function.update_self]
      rfl
    · rwa [Function.update_of_ne same]
  · intro other hashed
    by_cases same : other = path
    · subst same
      rw [Function.update_self, keeps hashed]
    · rwa [Function.update_of_ne same]

namespace Host

variable {host : Host P D K V} {names : List String} {entries : List (String × Yaml)}
  {content : String} {configFile path : P} {acc new : Accumulators P D K V} {marks : Marks P}
  {walk : Walk P} {pending : List P}

omit [DecidableEq K] in
theorem Regular.le {outcome : Option (Marks P)} (regular : host.Regular names walk outcome) :
    ∀ final, outcome = some final → walk.marks.Le final := by
  induction regular with
  | notOpened => rintro _ ⟨⟩
  | notValid => rintro _ ⟨⟩
  | file _ _ _ ih =>
      intro final same
      exact (Marks.le_update fun _ => rfl).trans (ih final same)
  | done =>
      intro final same
      cases same
      exact ⟨fun _ => id, fun _ => id⟩
  | load _ _ _ _ _ ihFile ihRest =>
      intro final same
      exact (ihFile _ rfl).trans (ihRest final same)
  | skip _ _ unhashed _ _ _ ihRest =>
      intro final same
      refine (Marks.le_update fun hashed => ?_).trans (ihRest final same)
      exact absurd hashed (unhashed (same ▸ rfl))
  | required => rintro _ ⟨⟩
  | loop => rintro _ ⟨⟩
  | directive => rintro _ ⟨⟩

/-! ## What is recorded -/

omit [DecidableEq K] in
/-- A file without a hash is marked as not loaded. -/
theorem recorded_giveUp (recorded : Recorded host pending acc) (unhashed : ¬ acc.Hashed path) :
    Recorded host pending { acc with hashes := set acc.hashes path none } := by
  have hashed_iff : ∀ other,
      ({ acc with hashes := set acc.hashes path none } : Accumulators P D K V).Hashed other ↔
        acc.Hashed other := by
    intro other
    rw [Accumulators.Hashed, Accumulators.Hashed]
    by_cases same : other = path
    · subst same
      rw [lookup_set, if_pos rfl]
      simp only [Option.some.injEq, reduceCtorEq, exists_false, false_iff]
      exact unhashed
    · rw [lookup_set, if_neg same]
  refine ⟨⟨nodup_set recorded.wellFormed.hashes, recorded.wellFormed.contents⟩, fun other => ?_,
    fun other digest found => ?_, recorded.texts, fun other member => ?_, recorded.once⟩
  · rw [hashed_iff, recorded.hashed_iff]
  · rw [lookup_set] at found
    split at found
    next => cases found
    next => exact recorded.digests other digest found
  · exact (hashed_iff other).mpr (recorded.merged other member)

omit [DecidableEq K] in
/-- A file without a hash is recorded before its includes, and its contents are pending. -/
theorem recorded_start {newTopConfs : List (String × List (K × V))}
    (recorded : Recorded host pending acc) (unhashed : ¬ acc.Hashed configFile)
    (read : host.read configFile = some content) :
    Recorded host (configFile :: pending) (host.start acc configFile content newTopConfs) := by
  have hashed_iff : ∀ other, (host.start acc configFile content newTopConfs).Hashed other ↔
      other = configFile ∨ acc.Hashed other := by
    intro other
    rw [Accumulators.Hashed, Accumulators.Hashed, start, lookup_set]
    by_cases same : other = configFile
    · simp [same]
    · simp [same]
  refine ⟨⟨nodup_set recorded.wellFormed.hashes, recorded.wellFormed.contents⟩, fun other => ?_,
    fun other digest found => ?_, recorded.texts, fun other member => ?_, ?_⟩
  · rw [hashed_iff, recorded.hashed_iff, List.mem_cons, or_assoc]
    rfl
  · rw [start, lookup_set] at found
    split at found
    next same =>
      cases found
      exact ⟨content, same ▸ read, rfl⟩
    next => exact recorded.digests other digest found
  · rcases List.mem_append.mp member with old | own
    · exact (hashed_iff other).mpr (.inr (recorded.merged other old))
    · exact (hashed_iff other).mpr (.inl (List.mem_singleton.mp own))
  · rw [start, ← List.concat_eq_append]
    exact recorded.once.concat fun member => unhashed (recorded.merged configFile member)

omit [DecidableEq K] in
/-- The copy of the hashes has all that the hashes have. -/
theorem lookup_updated (wellFormed : new.WellFormed)
    (known : ∀ path, acc.Known path → new.Known path) :
    (updateDict acc.hashes new.hashes).lookup path = new.hashes.lookup path := by
  rw [lookup_updateDict wellFormed.hashes]
  cases found : new.hashes.lookup path with
  | some hash => rfl
  | none =>
      by_contra before
      have isKnown := known path (Option.ne_none_iff_isSome.mp before)
      rw [Accumulators.Known, found] at isKnown
      cases isKnown

/-- When its includes are loaded the contents of the file are no longer pending. -/
theorem recorded_finish (recorded : Recorded host pending acc)
    (included : Recorded host (configFile :: pending) new)
    (known : ∀ path, acc.Known path → new.Known path)
    (hashed : ∀ path, acc.Hashed path → new.Hashed path)
    (read : host.read configFile = some content) :
    Recorded host pending (finish acc configFile content new) := by
  have sameHash : ∀ path, (finish acc configFile content new).hashes.lookup path =
      new.hashes.lookup path := fun _ => lookup_updated included.wellFormed known
  have contents : ∀ path, (finish acc configFile content new).contents.lookup path =
        if path = configFile then some content
        else (acc.contents.lookup path).or (new.contents.lookup path) := by
    intro path
    rw [finish, lookup_updateDict (nodup_set recorded.wellFormed.contents), lookup_set]
    split <;> rfl
  refine ⟨⟨nodup_updateDict recorded.wellFormed.hashes, nodup_updateDict included.wellFormed.contents⟩,
    fun path => ?_, fun path digest found => ?_, fun path text found => ?_, fun path member => ?_,
    included.once⟩
  · rw [Accumulators.Hashed, sameHash, contents]
    refine (included.hashed_iff path).trans ?_
    rw [List.mem_cons]
    split
    next same => simp [same]
    next different =>
      have before : (acc.contents.lookup path).isSome →
          path ∈ pending ∨ (new.contents.lookup path).isSome := by
        intro isSome
        have isHashed := hashed path ((recorded.hashed_iff path).mpr (.inr isSome))
        rcases (included.hashed_iff path).mp isHashed with isPending | isSome
        · exact .inl ((List.mem_cons.mp isPending).resolve_left different)
        · exact .inr isSome
      rw [Option.isSome_or, Bool.or_eq_true]
      constructor
      · rintro ((same | isPending) | isSome)
        · exact absurd same different
        · exact .inl isPending
        · exact .inr (.inr isSome)
      · rintro (isPending | isSome | isSome)
        · exact .inl (.inr isPending)
        · exact (before isSome).imp .inr id
        · exact .inr isSome
  · rw [sameHash] at found
    exact included.digests path digest found
  · rw [contents] at found
    split at found
    next same =>
      cases found
      rw [same, read]
    next =>
      rcases Option.or_eq_some_iff.mp found with old | ⟨_, later⟩
      · exact recorded.texts path text old
      · exact included.texts path text later
  · rw [Accumulators.Hashed, sameHash]
    exact included.merged path member

/-! ## Following a walk -/

/-- What a walk says of the code: where it fails the accumulators are as before, but for the copies
that are discarded, and where it loads they have its marks and record what has been loaded. -/
def Fulfils (host : Host P D K V) (names : List String) : Walk P → Option (Marks P) → Prop
  | .file marks path, none => ∀ acc, Marked names marks acc →
      ∃ depth, host.dpInclude depth acc path = some (.returns false acc)
  | .file marks path, some final => ∀ acc pending, Marked names marks acc →
      Recorded host pending acc → marks path ≠ some true →
      ∃ depth after, host.dpInclude depth acc path = some (.returns true after) ∧
        Marked names final after ∧ Recorded host pending after
  | .includes before file marks steps, none => ∀ configHashes acc,
      (∀ path, (configHashes.lookup path).map Option.isSome = before path) → Marked names marks acc →
      ∃ depth after, host.includeFiles (host.dpInclude depth) configHashes file acc steps =
        some (.returns false after) ∧ after.contents = acc.contents
  | .includes before file marks steps, some final => ∀ configHashes acc pending,
      (∀ path, (configHashes.lookup path).map Option.isSome = before path) → Marked names marks acc →
      Recorded host pending acc →
      ∃ depth after, host.includeFiles (host.dpInclude depth) configHashes file acc steps =
        some (.returns true after) ∧ Marked names final after ∧ Recorded host pending after

theorem Regular.fulfils {outcome : Option (Marks P)}
    (regular : host.Regular names walk outcome) : host.Fulfils names walk outcome := by
  induction regular with
  | notOpened fails =>
      intro acc marked
      refine ⟨1, ?_⟩
      rw [dpInclude, marked.names, fails]
  | @notValid marks path entries content opened invalid =>
      intro acc marked
      have isNone : host.newTopConfs entries acc.topConfs = none := by
        rw [← Option.not_isSome_iff_eq_none, isSome_newTopConfs]
        have sameNames : acc.topConfs.map Prod.fst = names := marked.names
        rw [sameNames, invalid]
        exact Bool.false_ne_true
      refine ⟨1, ?_⟩
      simp only [dpInclude, marked.names, opened, isNone]
  | @file marks path entries content after opened valid regular ih =>
      have started : ∀ acc : Accumulators P D K V, Marked names marks acc → ∃ newTopConfs,
          host.newTopConfs entries acc.topConfs = some newTopConfs ∧
            Marked names (Function.update marks path (some true))
              (host.start acc path content newTopConfs) := by
        intro acc marked
        have sameNames : acc.topConfs.map Prod.fst = names := marked.names
        rw [← sameNames, ← isSome_newTopConfs] at valid
        obtain ⟨newTopConfs, isSome⟩ := Option.isSome_iff_exists.mp valid
        exact ⟨newTopConfs, isSome, marked.set (some _) rfl (names_newTopConfs isSome)⟩
      cases after with
      | none =>
          intro acc marked
          obtain ⟨newTopConfs, isSome, markedStart⟩ := started acc marked
          obtain ⟨depth, new, runs, kept⟩ := ih acc.hashes _ marked.marks markedStart
          refine ⟨depth + 1, ?_⟩
          simp only [dpInclude, marked.names, opened, isSome, runs, kept]
          rfl
      | some final =>
          intro acc pending marked recorded unhashed
          have notHashed : ¬ acc.Hashed path := mt marked.hashed_iff.mp unhashed
          have read := read_of_loads opened
          obtain ⟨newTopConfs, isSome, markedStart⟩ := started acc marked
          obtain ⟨depth, new, runs, markedNew, included⟩ := ih acc.hashes _ (path :: pending)
            marked.marks markedStart (recorded_start recorded notHashed read)
          have le : marks.Le final := (Marks.le_update fun _ => rfl).trans (regular.le final rfl)
          have known : ∀ path, acc.Known path → new.Known path := by
            intro path before
            rw [markedNew.known_iff]
            exact le.known path (marked.known_iff.mp before)
          have hashed : ∀ path, acc.Hashed path → new.Hashed path := by
            intro path before
            rw [markedNew.hashed_iff]
            exact le.hashed path (marked.hashed_iff.mp before)
          refine ⟨depth + 1, finish acc path content new, ?_, ⟨fun other => ?_, ?_⟩,
            recorded_finish recorded included known hashed read⟩
          · simp only [dpInclude, marked.names, opened, isSome, runs]
          · rw [finish, lookup_updated included.wellFormed known, markedNew.marks]
          · have sameNames : new.topConfs.map Prod.fst = acc.topConfs.map Prod.fst :=
              markedNew.names.trans marked.names.symm
            have listed : ∀ name ∈ new.topConfs.map Prod.fst, name ∈ acc.topConfs.map Prod.fst := by
              intro name member
              rwa [sameNames] at member
            exact (names_updateTopConfs listed).trans marked.names
  | done =>
      intro configHashes acc pending _ marked recorded
      exact ⟨0, acc, rfl, marked, recorded⟩
  | load found unknown unhashed _ _ ihFile ihRest =>
      intro configHashes acc pending same marked recorded
      obtain ⟨depth, after, called, markedAfter, recordedAfter⟩ :=
        ihFile acc pending marked recorded unhashed
      obtain ⟨depth', last, runs, atEnd⟩ :=
        ihRest configHashes after pending same markedAfter recordedAfter
      refine ⟨max depth depth', last, ?_, atEnd⟩
      rw [includeFiles_load found (Option.map_eq_none_iff.mp ((same _).trans unknown))
        (dpInclude_le (le_max_left _ _) called)]
      exact includeFiles_le (le_max_right _ _) runs
  | @skip before file marks value rest path after found unknown unhashed _ _ ihFile ihRest =>
      cases after with
      | none =>
          intro configHashes acc same marked
          obtain ⟨depth, called⟩ := ihFile acc marked
          obtain ⟨depth', last, runs, atEnd⟩ := ihRest configHashes
            { acc with hashes := set acc.hashes path none } same (marked.set none rfl rfl)
          refine ⟨max depth depth', last, ?_, atEnd⟩
          rw [includeFiles_skip found (Option.map_eq_none_iff.mp ((same _).trans unknown))
            (dpInclude_le (le_max_left _ _) called)]
          exact includeFiles_le (le_max_right _ _) runs
      | some final =>
          intro configHashes acc pending same marked recorded
          obtain ⟨depth, called⟩ := ihFile acc marked
          have notHashed : ¬ acc.Hashed path := mt marked.hashed_iff.mp (unhashed rfl)
          obtain ⟨depth', last, runs, atEnd⟩ := ihRest configHashes
            { acc with hashes := set acc.hashes path none } pending same (marked.set none rfl rfl)
            (recorded_giveUp recorded notHashed)
          refine ⟨max depth depth', last, ?_, atEnd⟩
          rw [includeFiles_skip found (Option.map_eq_none_iff.mp ((same _).trans unknown))
            (dpInclude_le (le_max_left _ _) called)]
          exact includeFiles_le (le_max_right _ _) runs
  | required found unknown _ ihFile =>
      intro configHashes acc same marked
      obtain ⟨depth, called⟩ := ihFile acc marked
      refine ⟨depth, acc, ?_, rfl⟩
      rw [includeFiles_required found (Option.map_eq_none_iff.mp ((same _).trans unknown)) called]
  | loop found known =>
      intro configHashes acc same marked
      refine ⟨0, acc, includeFiles_loop found ?_, rfl⟩
      rw [← Option.isSome_map, same]
      exact known
  | directive =>
      intro configHashes acc _ _
      exact ⟨0, acc, rfl, rfl⟩

omit [DecidableEq K] in
/-- Nothing is recorded in the accumulators of the parser. -/
theorem recorded_initial (topConfs : List (String × List (K × V))) :
    Recorded host [] (.initial topConfs) := by
  refine ⟨⟨List.nodup_nil, List.nodup_nil⟩, fun path => ?_, nofun, nofun, nofun, List.nodup_nil⟩
  simp [Accumulators.Hashed, Accumulators.initial]

/-- **It is atomic and records what it merges**, where the walk is regular; and it always
terminates. -/
theorem dpInclude_meets {files : Finset P}
    (finite : ∀ path, host.isFile path = true → path ∈ files) (recorded : Recorded host pending acc)
    (unhashed : ¬ acc.Hashed configFile) {depth : ℕ} (enough : load files acc configFile < depth) :
    ∃ result, host.dpInclude depth acc configFile = some result ∧
      ((∃ outcome, host.Regular acc.names (.file acc.marks configFile) outcome) →
        Meets host pending acc result) := by
  obtain ⟨result, runs⟩ := Option.ne_none_iff_exists'.mp
    (dpInclude_ne_none finite recorded.wellFormed enough)
  refine ⟨result, runs, ?_⟩
  have marked : Marked acc.names acc.marks acc := ⟨fun _ => rfl, rfl⟩
  rintro ⟨outcome, regular⟩
  have fulfils := regular.fulfils
  cases outcome with
  | none =>
      obtain ⟨depth', runs'⟩ := fulfils acc marked
      exact ⟨false, acc, dpInclude_unique runs runs', fun _ => rfl, by simp⟩
  | some final =>
      obtain ⟨depth', after, runs', _, recordedAfter⟩ :=
        fulfils acc pending marked recorded (mt marked.hashed_iff.mpr unhashed)
      exact ⟨true, after, dpInclude_unique runs runs', by simp, fun _ => recordedAfter⟩

end Host

end Model

/-! ## A directory with two files -/

/-- File `0` says what it includes; there is a file `1`, and no file `2`. -/
def twoFiles (includes : List (String × Yaml)) : Host ℕ String Unit Unit where
  isFile path := path < 2
  read path := if path < 2 then some (if path = 0 then "top" else "included") else none
  yamlLoad text := .loads (.mapping (if text = "top" then includes else [("dps", .mapping [])]))
  configHashContent text := text
  dpConfigPath value _ := match value with
    | .scalar _ text => if text = "1" then some 1 else some 2
    | _ => none
  items value := match value with
    | .mapping _ => some []
    | _ => none

/-- Nothing has been loaded. -/
def noneLoaded : Accumulators ℕ String Unit Unit := .initial [("dps", [])]

/-- A file that exists is included, and one that does not is optional. -/
def oneOptional : List (String × Yaml) :=
  [("include", .list [.scalar true "1"]), ("include-optional", .list [.scalar true "2"])]

/-- Both are required. -/
def oneMissing : List (String × Yaml) :=
  [("include", .list [.scalar true "1", .scalar true "2"])]

theorem regular_oneOptional :
    ∃ outcome, (twoFiles oneOptional).Regular ["dps"] (.file noneLoaded.marks 0) outcome := by
  have included : (twoFiles oneOptional).Regular ["dps"]
      (.file (Function.update noneLoaded.marks 0 (some true)) 1) _ := .file rfl rfl .done
  have missing : ∀ marks, (twoFiles oneOptional).Regular ["dps"] (.file marks 2) none :=
    fun _ => .notOpened rfl
  exact ⟨_, .file rfl rfl (.load rfl rfl (by decide) included
    (.skip rfl rfl (fun _ => by decide) (missing _) .done))⟩

theorem dpInclude_meets_oneOptional : ∃ result,
    (twoFiles oneOptional).dpInclude 6 noneLoaded 0 = some result ∧
      Meets (twoFiles oneOptional) [] noneLoaded result := by
  have finite : ∀ path, (twoFiles oneOptional).isFile path = true → path ∈ ({0, 1} : Finset ℕ) := by
    intro path isFile
    have less : path < 2 := of_decide_eq_true isFile
    simp only [Finset.mem_insert, Finset.mem_singleton]
    omega
  have unhashed : ¬ noneLoaded.Hashed 0 := by
    rintro ⟨_, found⟩
    cases found
  obtain ⟨result, runs, meets⟩ :=
    Host.dpInclude_meets finite (Host.recorded_initial [("dps", [])]) unhashed
      (by decide : Host.load {0, 1} noneLoaded 0 < 6)
  exact ⟨result, runs, meets regular_oneOptional⟩

/-- The contents of the included file stay when the other one is missing. -/
theorem not_meets_oneMissing : ¬ ∃ depth result,
    (twoFiles oneMissing).dpInclude depth noneLoaded 0 = some result ∧
      Meets (twoFiles oneMissing) [] noneLoaded result := by
  rintro ⟨depth, result, runs, loaded, after, rfl, unchanged, _⟩
  have fails : (twoFiles oneMissing).dpInclude 2 noneLoaded 0 =
      some (.returns false { noneLoaded with contents := [(1, "included")] }) := rfl
  cases Host.dpInclude_unique runs fails
  exact absurd (congrArg Accumulators.contents (unchanged rfl)) (List.cons_ne_nil _ _)

end Faucet.Config
