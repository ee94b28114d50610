import Faucet.Config.Watcher

/-!
# Every walk over the includes

`Walks` is what `dp_include` does to what is recorded of the paths, with no condition on the
walk: a load that returns is a walk (`walks_of_returns`), and a walk is what is loaded
(`Walks.mirrors`). A walk that loads leaves out the optional includes that do not load
(`LeavesOut`).
-/

set_option autoImplicit false

namespace Faucet.Config

open OrderedDict

section Model

variable {P D K V : Type} [DecidableEq P] [DecidableEq K]

namespace Host

/-- What a file, or the rest of its includes, leads to: the marks after it, or `none` when it does
not load. -/
inductive Walks (host : Host P D K V) (names : List String) : Walk P → Option (Marks P) → Prop
  | notOpened {marks path} : host.openConfig names path = .fails →
      Walks host names (.file marks path) none
  | notValid {marks path entries content} : host.openConfig names path = .loads entries content →
      host.validSections names entries = false → Walks host names (.file marks path) none
  | file {marks path entries content outcome} :
      host.openConfig names path = .loads entries content →
      host.validSections names entries = true →
      Walks host names (.includes marks path (Function.update marks path (some true))
        (includeValues entries)) outcome →
      Walks host names (.file marks path) outcome
  | done {before file marks} : Walks host names (.includes before file marks []) (some marks)
  | load {before file marks required value rest path after outcome} :
      host.dpConfigPath value file = some path → before path = none →
      Walks host names (.file marks path) (some after) →
      Walks host names (.includes before file after rest) outcome →
      Walks host names (.includes before file marks (some (required, value) :: rest)) outcome
  | skip {before file marks value rest path outcome} :
      host.dpConfigPath value file = some path → before path = none →
      Walks host names (.file marks path) none →
      Walks host names
        (.includes before file (Function.update marks path (some false)) rest) outcome →
      Walks host names (.includes before file marks (some (false, value) :: rest)) outcome
  | required {before file marks value rest path} :
      host.dpConfigPath value file = some path → before path = none →
      Walks host names (.file marks path) none →
      Walks host names (.includes before file marks (some (true, value) :: rest)) none
  | loop {before file marks required value rest path} :
      host.dpConfigPath value file = some path → (before path).isSome →
      Walks host names (.includes before file marks (some (required, value) :: rest)) none
  | directive {before file marks rest} :
      Walks host names (.includes before file marks (none :: rest)) none

/-- A walk that loads leaves out an optional include, with the marks that it has then. -/
inductive LeavesOut (host : Host P D K V) (names : List String) : Walk P → Marks P → P → Prop
  | file {marks path entries content marks' path'} :
      host.openConfig names path = .loads entries content →
      LeavesOut host names (.includes marks path (Function.update marks path (some true))
        (includeValues entries)) marks' path' →
      LeavesOut host names (.file marks path) marks' path'
  | inside {before file marks required value rest path after marks' path'} :
      host.dpConfigPath value file = some path →
      Walks host names (.file marks path) (some after) →
      LeavesOut host names (.file marks path) marks' path' →
      LeavesOut host names (.includes before file marks (some (required, value) :: rest)) marks' path'
  | afterLoad {before file marks required value rest path after marks' path'} :
      host.dpConfigPath value file = some path →
      Walks host names (.file marks path) (some after) →
      LeavesOut host names (.includes before file after rest) marks' path' →
      LeavesOut host names (.includes before file marks (some (required, value) :: rest)) marks' path'
  | here {before file marks value rest path} :
      host.dpConfigPath value file = some path → Walks host names (.file marks path) none →
      LeavesOut host names (.includes before file marks (some (false, value) :: rest)) marks path
  | afterSkip {before file marks value rest path marks' path'} :
      host.dpConfigPath value file = some path → Walks host names (.file marks path) none →
      LeavesOut host names (.includes before file (Function.update marks path (some false)) rest)
        marks' path' →
      LeavesOut host names (.includes before file marks (some (false, value) :: rest)) marks' path'

variable {host : Host P D K V} {names : List String} {walk : Walk P} {outcome : Option (Marks P)}
  {marks : Marks P} {acc new after : Accumulators P D K V} {path : P}
  {hashes : List (P × Option D)} {loaded : Bool}

/-! ## A walk is what is loaded -/

/-- What `dp_include` returns for a walk. -/
def Mirrors (host : Host P D K V) (names : List String) : Walk P → Option (Marks P) → Prop
  | .file marks path, outcome => ∀ acc, acc.WellFormed → Marked names marks acc →
      ∃ depth after, host.dpInclude depth acc path = some (.returns outcome.isSome after) ∧
        ∀ final, outcome = some final → Marked names final after
  | .includes before file marks steps, outcome => ∀ configHashes acc, acc.WellFormed →
      (∀ path, (configHashes.lookup path).map Option.isSome = before path) → Marked names marks acc →
      ∃ depth after, host.includeFiles (host.dpInclude depth) configHashes file acc steps =
          some (.returns outcome.isSome after) ∧
        ∀ final, outcome = some final → Marked names final after

/-- A file that has been loaded has the marks and the sections of what it includes. -/
theorem marked_finish {content : String} (marked : Marked names marks new)
    (sameNames : acc.names = names) (wellFormed : new.WellFormed)
    (known : ∀ path, acc.Known path → new.Known path) :
    Marked names marks (finish acc path content new) := by
  refine ⟨fun other => ?_, ?_⟩
  · rw [finish, lookup_updated wellFormed known, marked.marks]
  · have keptNames : new.topConfs.map Prod.fst = acc.topConfs.map Prod.fst :=
      marked.names.trans sameNames.symm
    have listed : ∀ name ∈ new.topConfs.map Prod.fst, name ∈ acc.topConfs.map Prod.fst := by
      intro name member
      rwa [keptNames] at member
    exact (names_updateTopConfs listed).trans sameNames

theorem marked_start {entries : List (String × Yaml)} (path : P) (content : String)
    (valid : host.validSections names entries = true) (marked : Marked names marks acc) :
    ∃ newTopConfs, host.newTopConfs entries acc.topConfs = some newTopConfs ∧
      Marked names (Function.update marks path (some true))
        (host.start acc path content newTopConfs) := by
  have sameNames : acc.topConfs.map Prod.fst = names := marked.names
  rw [← sameNames, ← isSome_newTopConfs] at valid
  obtain ⟨newTopConfs, isSome⟩ := Option.isSome_iff_exists.mp valid
  exact ⟨newTopConfs, isSome, marked.set (some _) rfl (names_newTopConfs isSome)⟩

theorem Walks.mirrors (walks : host.Walks names walk outcome) : host.Mirrors names walk outcome := by
  induction walks with
  | notOpened fails =>
      intro acc _ marked
      refine ⟨1, acc, ?_, by simp⟩
      rw [dpInclude, marked.names, fails]
      rfl
  | @notValid marks path entries content opened invalid =>
      intro acc _ marked
      have isNone : host.newTopConfs entries acc.topConfs = none := by
        rw [← Option.not_isSome_iff_eq_none, isSome_newTopConfs]
        have sameNames : acc.topConfs.map Prod.fst = names := marked.names
        rw [sameNames, invalid]
        exact Bool.false_ne_true
      refine ⟨1, acc, ?_, by simp⟩
      simp only [dpInclude, marked.names, opened, isNone, Option.isSome_none]
  | @file marks path entries content outcome opened valid _ ih =>
      intro acc wellFormed marked
      obtain ⟨newTopConfs, isSome, started⟩ := marked_start path content valid marked
      have wellFormedStart : (host.start acc path content newTopConfs).WellFormed :=
        ⟨nodup_set wellFormed.hashes, wellFormed.contents⟩
      obtain ⟨depth, new, runs, markedNew⟩ := ih acc.hashes _ wellFormedStart marked.marks started
      obtain ⟨wellFormedNew, known⟩ :=
        includeFiles_grows (fun _ _ _ _ => dpInclude_grows) wellFormedStart runs
      cases outcome with
      | none =>
          refine ⟨depth + 1, { acc with contents := new.contents }, ?_, by simp⟩
          rw [Option.isSome_none] at runs
          simp only [dpInclude, marked.names, opened, isSome, runs, Option.isSome_none]
      | some final =>
          refine ⟨depth + 1, finish acc path content new, ?_, fun _ same => ?_⟩
          · rw [Option.isSome_some] at runs
            simp only [dpInclude, marked.names, opened, isSome, runs, Option.isSome_some]
          · cases same
            exact marked_finish (markedNew final rfl) marked.names wellFormedNew
              fun path before => known path (known_set.mpr (.inr before))
  | done =>
      intro _ acc _ _ marked
      refine ⟨0, acc, rfl, fun _ same => ?_⟩
      cases same
      exact marked
  | load found unknown _ _ ihFile ihRest =>
      intro configHashes acc wellFormed same marked
      obtain ⟨depth, after, called, markedAfter⟩ := ihFile acc wellFormed marked
      obtain ⟨depth', last, runs, atEnd⟩ := ihRest configHashes after
        (dpInclude_grows wellFormed called).wellFormed same (markedAfter _ rfl)
      refine ⟨max depth depth', last, ?_, atEnd⟩
      rw [includeFiles_load found (Option.map_eq_none_iff.mp ((same _).trans unknown))
        (dpInclude_le (le_max_left _ _) called)]
      exact includeFiles_le (le_max_right _ _) runs
  | @skip before file marks value rest path outcome found unknown _ _ ihFile ihRest =>
      intro configHashes acc wellFormed same marked
      obtain ⟨depth, after, called, _⟩ := ihFile acc wellFormed marked
      have grows := dpInclude_grows wellFormed called
      have skipped : Marked names (Function.update marks path (some false))
          { after with hashes := set after.hashes path none } := by
        refine marked.set none ?_ ?_
        · rw [grows.failed rfl]
        · rw [grows.failed rfl]
          rfl
      obtain ⟨depth', last, runs, atEnd⟩ := ihRest configHashes
        { after with hashes := set after.hashes path none }
        ⟨nodup_set grows.wellFormed.hashes, grows.wellFormed.contents⟩ same skipped
      refine ⟨max depth depth', last, ?_, atEnd⟩
      rw [includeFiles_skip found (Option.map_eq_none_iff.mp ((same _).trans unknown))
        (dpInclude_le (le_max_left _ _) called)]
      exact includeFiles_le (le_max_right _ _) runs
  | required found unknown _ ihFile =>
      intro configHashes acc wellFormed same marked
      obtain ⟨depth, after, called, _⟩ := ihFile acc wellFormed marked
      refine ⟨depth, after, ?_, by simp⟩
      rw [includeFiles_required found (Option.map_eq_none_iff.mp ((same _).trans unknown)) called]
      rfl
  | loop found known =>
      intro configHashes acc _ same _
      refine ⟨0, acc, includeFiles_loop found ?_, by simp⟩
      rw [← Option.isSome_map, same]
      exact known
  | directive =>
      intro configHashes acc _ _ _
      exact ⟨0, acc, rfl, by simp⟩

/-! ## What is loaded is a walk -/

/-- The marks of what has been loaded. -/
def outcomeOf (loaded : Bool) (after : Accumulators P D K V) : Option (Marks P) :=
  if loaded then some after.marks else none

/-- The includes are walked when the calls are. -/
theorem includes_walk {depth : ℕ} {configFile : P} {steps : List (Option (Bool × Yaml))}
    (calls : ∀ new path loaded after, new.WellFormed → new.names = names →
      host.dpInclude depth new path = some (.returns loaded after) →
        host.Walks names (.file new.marks path) (outcomeOf loaded after))
    (wellFormed : new.WellFormed) (sameNames : new.names = names)
    (runs : host.includeFiles (host.dpInclude depth) hashes configFile new steps =
      some (.returns loaded after)) :
    host.Walks names (.includes (fun path => (hashes.lookup path).map Option.isSome) configFile
      new.marks steps) (outcomeOf loaded after) := by
  induction steps generalizing new with
  | nil =>
      cases runs
      exact .done
  | cons step rest ih =>
      cases step with
      | none =>
          cases runs
          exact .directive
      | some directive =>
          obtain ⟨fileRequired, value⟩ := directive
          rw [includeFiles] at runs
          split at runs
          next => cases runs
          next path found =>
            split at runs
            next known =>
              cases runs
              refine .loop found ?_
              rw [Option.isSome_map]
              exact known
            next known =>
              have unknown : (hashes.lookup path).map Option.isSome = none := by
                rw [Option.not_isSome_iff_eq_none.mp known]
                rfl
              split at runs
              next middle called =>
                have grows := dpInclude_grows wellFormed called
                have names' := (names_of_returns called).trans sameNames
                exact .load found unknown (calls new path true middle wellFormed sameNames called)
                  (ih grows.wellFormed names' runs)
              next middle called =>
                have fails := calls new path false middle wellFormed sameNames called
                have grows := dpInclude_grows wellFormed called
                have names' := (names_of_returns called).trans sameNames
                have sameMarks : middle.marks = new.marks := by rw [grows.failed rfl]; rfl
                split at runs
                next isRequired =>
                  cases runs
                  rw [isRequired]
                  exact .required found unknown fails
                next optional =>
                  rw [Bool.not_eq_true] at optional
                  subst optional
                  have skipped : ({ middle with hashes := set middle.hashes path none } :
                      Accumulators P D K V).marks = Function.update new.marks path (some false) := by
                    rw [← sameMarks]
                    exact marks_set middle _ none rfl
                  have kept : ({ middle with hashes := set middle.hashes path none } :
                      Accumulators P D K V).WellFormed :=
                    ⟨nodup_set grows.wellFormed.hashes, grows.wellFormed.contents⟩
                  have rest := ih kept names' runs
                  rw [skipped] at rest
                  exact .skip found unknown fails rest
              next stopped notLoaded notFailed =>
                cases loaded with
                | true => exact absurd runs (notLoaded after)
                | false => exact absurd runs (notFailed after)

/-- Every load that returns is a walk. -/
theorem walks_of_returns {depth : ℕ} (wellFormed : acc.WellFormed)
    (runs : host.dpInclude depth acc path = some (.returns loaded after)) :
    host.Walks acc.names (.file acc.marks path) (outcomeOf loaded after) := by
  induction depth generalizing acc path loaded after with
  | zero => cases runs
  | succ depth ih =>
      rw [dpInclude] at runs
      split at runs
      next fails =>
        cases runs
        exact .notOpened fails
      next => cases runs
      next entries content opened =>
        have isSome := (isSome_newTopConfs :
          (host.newTopConfs entries acc.topConfs).isSome = _)
        split at runs
        next isNone =>
          cases runs
          refine .notValid opened ?_
          rw [Accumulators.names, ← isSome, isNone]
          rfl
        next newTopConfs isNew =>
          have wellFormedStart : (host.start acc path content newTopConfs).WellFormed :=
            ⟨nodup_set wellFormed.hashes, wellFormed.contents⟩
          have valid : host.validSections acc.names entries = true := by
            rw [Accumulators.names, ← isSome, isNew]
            rfl
          have started : (host.start acc path content newTopConfs).marks =
              Function.update acc.marks path (some true) :=
            marks_set acc _ (some (host.configHashContent content)) rfl
          have calls : ∀ (new : Accumulators P D K V) path loaded after, new.WellFormed →
              new.names = acc.names → host.dpInclude depth new path = some (.returns loaded after) →
              host.Walks acc.names (.file new.marks path) (outcomeOf loaded after) := by
            intro new path loaded after wellFormed sameNames runs
            rw [← sameNames]
            exact ih wellFormed runs
          split at runs
          next new looped =>
            cases runs
            obtain ⟨wellFormedNew, known⟩ :=
              includeFiles_grows (fun _ _ _ _ => dpInclude_grows) wellFormedStart looped
            have sameMarks : (finish acc path content new).marks = new.marks := by
              funext other
              rw [Accumulators.marks, Accumulators.marks, finish, lookup_updated wellFormedNew]
              exact fun path before => known path (known_set.mpr (.inr before))
            have includes := includes_walk calls wellFormedStart (names_newTopConfs isNew) looped
            rw [started] at includes
            rw [outcomeOf, sameMarks]
            exact .file opened valid includes
          next new looped =>
            cases runs
            have includes := includes_walk calls wellFormedStart (names_newTopConfs isNew) looped
            rw [started] at includes
            exact .file opened valid includes
          next stopped notLoaded notFailed =>
            cases loaded with
            | true => exact absurd runs (notLoaded after)
            | false => exact absurd runs (notFailed after)

end Host

end Model

end Faucet.Config
