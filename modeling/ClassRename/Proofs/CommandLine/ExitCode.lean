import ClassRename.Proofs.Loading
import ClassRename.Proofs.Matching.Renaming
import ClassRename.Proofs.RenameMap.Saved
import ClassRename.Proofs.SourceRun

/-! # What an exit code tells

A run loads what it needs and makes its matcher before it writes anything; after that only trouble with
files can end the run. So the exit code tells a run that did not begin, and left all files as they were,
from one that was cut short by a source file. Files that are skipped make no difference. All this holds
whatever the measure of patterns is.
-/

namespace ClassRename

variable {σ δ : Type}

/-! ## Running on a state -/

namespace CommandLine

/-- A program goes on with what another gave, on the state that it left. -/
theorem run_bind_apply {ε α β : Type} (program : ExceptT ε (StateM σ) α)
    (next : Except ε α → StateM σ β) (state : σ) : (program.run >>= next) state =
      next (execOn state program).1 (execOn state program).2 :=
  rfl

/-- Whenever the program fails, the exit code is one. -/
def FailsWithOne {α : Type} (program : ExceptT RunError (StateM σ) α) : Prop :=
  ∀ state error, (execOn state program).1 = .error error → error.code = 1

namespace FailsWithOne

variable {α β ε : Type}

theorem pure (a : α) : FailsWithOne (Pure.pure a : ExceptT RunError (StateM σ) α) := nofun

theorem bind {program : ExceptT RunError (StateM σ) α} {next : α → ExceptT RunError (StateM σ) β}
    (first : FailsWithOne program) (then_ : ∀ a, FailsWithOne (next a)) :
    FailsWithOne (program >>= next) := by
  intro state error failed
  rcases execOn_bind_eq_error_iff.1 failed with failed | ⟨a, between, -, failed⟩
  · exact first state error failed
  · exact then_ a between error failed

theorem adapt {tell : ε → RunError} (one : ∀ error, (tell error).code = 1)
    (program : ExceptT ε (StateM σ) α) : FailsWithOne (ExceptT.adapt tell program) := by
  intro state error failed
  obtain ⟨cause, -, rfl⟩ := execOn_adapt_eq_error_iff.1 failed
  exact one cause

end FailsWithOne

end CommandLine

variable [FileAccess (StateM σ)]

/-! ## Source files that end a run -/

namespace Sources

variable {config : Config} {rewriting : Rewriting} {root path : String} {state : σ}

/-- A file cannot be read, or its new text cannot be written. -/
inductive FileFails (rewriting : Rewriting) (path : String) (state : σ) : FileFailure → Prop where
  | read {cause : FileError} :
    (execOn state (FileAccess.read path)).1 = .error cause →
    FileFails rewriting path state ⟨.read, path, cause⟩
  | write {content : Text.Utf8.Bytes} {between : σ} {text : String} {outcome : Outcome}
    {cause : FileError} :
    execOn state (FileAccess.read path) = (.ok content, between) →
    rewriteContentBy rewriting path content = (some text, outcome) →
    (execOn between (FileAccess.writeText path text)).1 = .error cause →
    FileFails rewriting path state ⟨.write, path, cause⟩

/-- Source files cannot be collected, or one of them cannot be read or written after those before it
are done. -/
inductive Fail (config : Config) (rewriting : Rewriting) (root : String) (state : σ) :
    FileFailure → Prop where
  | collect {failure : FileFailure} :
    (execOn state (collect config root)).1 = .error failure →
    Fail config rewriting root state failure
  | file {done later : List String} {path : String} {results : List (String × Outcome)}
    {collected between : σ} {failure : FileFailure} :
    execOn state (collect config root) = (.ok (done ++ path :: later), collected) →
    execOn collected (rewriteFilesBy rewriting done) = (.ok results, between) →
    FileFails rewriting path between failure →
    Fail config rewriting root state failure

/-- Rewriting one file fails where an access to it fails, and for no other reason. -/
theorem rewriteFileBy_eq_error_iff {failure : FileFailure} :
    (execOn state (rewriteFileBy rewriting path)).1 = .error failure ↔
      FileFails rewriting path state failure := by
  rw [rewriteFileBy, execOn_bind_eq_error_iff, trying, execOn_adapt_eq_error_iff]
  constructor
  · rintro (⟨cause, unread, rfl⟩ | ⟨content, between, read, failed⟩)
    · exact .read unread
    · rw [execOn_adapt_eq_ok] at read
      split at failed
      · cases failed
      · next text outcome made =>
        rcases execOn_bind_eq_error_iff.1 failed with unwritten | ⟨_, _, _, failed⟩
        · rw [trying, execOn_adapt_eq_error_iff] at unwritten
          obtain ⟨cause, unwritten, rfl⟩ := unwritten
          exact .write read made unwritten
        · cases failed
  · rintro (unread | ⟨read, made, unwritten⟩)
    · exact .inl ⟨_, unread, rfl⟩
    · refine .inr ⟨_, _, execOn_adapt_eq_ok.2 read, ?_⟩
      simp only [made]
      exact execOn_bind_eq_error_iff.2 (.inl (execOn_adapt_eq_error_iff.2 ⟨_, unwritten, rfl⟩))

/-- Rewriting files fails at one of them, when those before it are done. -/
theorem rewriteFilesBy_eq_error_iff {paths : List String} {failure : FileFailure} :
    (execOn state (rewriteFilesBy rewriting paths)).1 = .error failure ↔
      ∃ done path later results between, paths = done ++ path :: later ∧
        execOn state (rewriteFilesBy rewriting done) = (.ok results, between) ∧
        FileFails rewriting path between failure := by
  constructor
  · intro failed
    induction paths generalizing state with
    | nil => cases failed
    | cons path later ih =>
      rw [rewriteFilesBy_cons] at failed
      rcases execOn_bind_eq_error_iff.1 failed with failed | ⟨outcome, between, ran, failed⟩
      · exact ⟨[], path, later, [], state, rfl, rfl, rewriteFileBy_eq_error_iff.1 failed⟩
      · rcases execOn_bind_eq_error_iff.1 failed with failed | ⟨_, _, _, failed⟩
        · obtain ⟨done, last, rest, results, reached, rfl, went, fails⟩ := ih failed
          refine ⟨path :: done, last, rest, (path, outcome) :: results, reached, rfl, ?_, fails⟩
          rw [rewriteFilesBy_cons]
          exact execOn_bind_eq_ok.2 ⟨_, _, ran, execOn_bind_eq_ok.2 ⟨_, _, went, rfl⟩⟩
        · cases failed
  · rintro ⟨done, path, later, results, between, rfl, went, fails⟩
    have whole : rewriteFilesBy (m := StateM σ) rewriting (done ++ path :: later) =
        rewriteFilesBy rewriting done >>= fun results =>
          rewriteFilesBy rewriting (path :: later) >>= fun list => pure (results ++ list) :=
      List.mapM_append
    rw [whole, rewriteFilesBy_cons]
    refine execOn_bind_eq_error_iff.2 (.inr ⟨results, between, went, ?_⟩)
    refine execOn_bind_eq_error_iff.2 (.inl (execOn_bind_eq_error_iff.2 (.inl ?_)))
    exact rewriteFileBy_eq_error_iff.2 fails

/-- Rewriting source files fails where they cannot be collected, read or written. -/
theorem rewriteAllBy_eq_error_iff {failure : FileFailure} :
    (execOn state (rewriteAllBy config rewriting root)).1 = .error failure ↔
      Fail config rewriting root state failure := by
  rw [rewriteAllBy, execOn_bind_eq_error_iff]
  constructor
  · rintro (failed | ⟨paths, collected, ran, failed⟩)
    · exact .collect failed
    · obtain ⟨done, path, later, results, between, rfl, went, fails⟩ :=
        rewriteFilesBy_eq_error_iff.1 failed
      exact .file ran went fails
  · rintro (failed | ⟨ran, went, fails⟩)
    · exact .inl failed
    · exact .inr ⟨_, _, ran, rewriteFilesBy_eq_error_iff.2 ⟨_, _, _, _, _, rfl, went, fails⟩⟩

end Sources

/-! ## What a run does -/

namespace CommandLine

variable {state : σ} {words : List String} {verbose : Bool} {choice : ConfigChoice} {root : String}
  {asked : Option String} {patternSize : PatternSize}

/-- Run a command line with a measure of patterns, which gives a result and the state after it. -/
def ranOn (patternSize : PatternSize) (state : σ) (words : List String) : RunResult × σ :=
  (runWith patternSize words : StateM σ RunResult) state

namespace FailsWithOne

theorem loadConfig (choice : ConfigChoice) : FailsWithOne (loadConfig (m := StateM σ) choice) := by
  cases choice with
  | ignore => exact .pure _
  | file path => exact .bind (.adapt (fun _ => rfl) _) fun _ => .pure _
  | search =>
    refine .bind (.adapt (fun _ => rfl) _) fun folder => .bind (.adapt (fun _ => rfl) _) fun found => ?_
    split <;> exact .pure _

theorem runMap (config : Config) (legacy current outDir : String) (prefixes : List String) :
    FailsWithOne (runMap (m := StateM σ) config legacy current outDir prefixes) :=
  .bind (.adapt (fun _ => rfl) _) fun _ => .bind (.adapt (fun _ => rfl) _) fun _ =>
    .bind (.adapt (fun _ => rfl) _) fun _ => .bind (.adapt (fun _ => rfl) _) fun _ =>
      .bind (.adapt (fun _ => rfl) _) fun _ => .pure _

end FailsWithOne

/-! ### To rewrite source files -/

/-- The configuration and the rename map of a run are loaded; the state is then `after`. -/
def Loads (choice : ConfigChoice) (asked : Option String) (state : σ) (config : Config)
    (map : RenameMap) (after : σ) : Prop :=
  ∃ configPath between, execOn state (loadConfig choice) = (.ok (config, configPath), between) ∧
    execOn between (RenameMap.load (mapPath asked config configPath)) = (.ok map, after)

/-- The configuration of a run cannot be loaded, or its rename map. -/
inductive LoadFails (choice : ConfigChoice) (asked : Option String) (state : σ) : Prop where
  | config {error : RunError} :
    (execOn state (loadConfig choice)).1 = .error error → LoadFails choice asked state
  | map {config : Config} {configPath : Option String} {between : σ} {error : RenameMapError} :
    execOn state (loadConfig choice) = (.ok (config, configPath), between) →
    (execOn between (RenameMap.load (mapPath asked config configPath))).1 = .error error →
    LoadFails choice asked state

/-- All that a run needs is loaded, but the old names of its rename map make too large a pattern. -/
def PatternFails (patternSize : PatternSize) (choice : ConfigChoice) (asked : Option String) (state : σ) :
    Prop :=
  ∃ config map loaded, Loads choice asked state config map loaded ∧ Matcher.TooLarge patternSize map

/-- Source files cannot be collected, read or written, after all that a run needs is loaded and its
matcher is made. -/
def SourcesFail (patternSize : PatternSize) (choice : ConfigChoice) (asked : Option String)
    (root : String) (state : σ) : Prop :=
  ∃ config map loaded failure, Loads choice asked state config map loaded ∧
    ¬Matcher.TooLarge patternSize map ∧
    Sources.Fail config (rewrite config.attributes (.ofMap map)) root loaded failure

theorem Loads.unique {config config' : Config} {map map' : RenameMap} {after after' : σ}
    (loads : Loads choice asked state config map after)
    (loads' : Loads choice asked state config' map' after') :
    config = config' ∧ map = map' ∧ after = after' := by
  obtain ⟨configPath, between, configured, mapped⟩ := loads
  obtain ⟨configPath', between', configured', mapped'⟩ := loads'
  cases configured.symm.trans configured'
  cases mapped.symm.trans mapped'
  exact ⟨rfl, rfl, rfl⟩

theorem LoadFails.not_loads {config : Config} {map : RenameMap} {after : σ}
    (fails : LoadFails choice asked state) : ¬Loads choice asked state config map after := by
  rintro ⟨configPath, between, configured, mapped⟩
  cases fails with
  | config failed =>
    rw [configured] at failed
    cases failed
  | map configured' failed =>
    cases configured.symm.trans configured'
    rw [mapped] at failed
    cases failed

theorem LoadFails.not_sourcesFail (fails : LoadFails choice asked state) :
    ¬SourcesFail patternSize choice asked root state := by
  rintro ⟨config, map, loaded, failure, loads, -⟩
  exact fails.not_loads loads

theorem PatternFails.not_sourcesFail (fails : PatternFails patternSize choice asked state) :
    ¬SourcesFail patternSize choice asked root state := by
  obtain ⟨config, map, loaded, loads, tooLarge⟩ := fails
  rintro ⟨config', map', loaded', failure, loads', fits, -⟩
  obtain ⟨rfl, rfl, rfl⟩ := loads.unique loads'
  exact fits tooLarge

/-- Without its rename map a run does nothing. -/
theorem runRewrite_of_load_error {config : Config} {path : String} {after : σ} {error : RenameMapError}
    (failed : execOn state (RenameMap.load path) = (.error error, after)) :
    (runRewrite patternSize verbose config path root : StateM σ RunResult) state =
      (.failed "" (.renameMap error), after) := by
  rw [runRewrite, run_bind_apply, failed]
  rfl

/-- Without its matcher a run does nothing. -/
theorem runRewrite_of_tooLarge {config : Config} {path : String} {map : RenameMap} {loaded : σ}
    (mapped : execOn state (RenameMap.load path) = (.ok map, loaded))
    (tooLarge : Matcher.TooLarge patternSize map) :
    (runRewrite patternSize verbose config path root : StateM σ RunResult) state =
      (.failed "" (.matcher path (.tooLarge Matcher.patternLimit)), loaded) := by
  rw [runRewrite, run_bind_apply, mapped]
  simp only [Matcher.build, if_pos tooLarge]
  rfl

/-- With its rename map and its matcher a run ends as the rewriting of its source files does. -/
theorem code_runRewrite_of_load_ok {config : Config} {path : String} {map : RenameMap} {loaded : σ}
    (mapped : execOn state (RenameMap.load path) = (.ok map, loaded))
    (fits : ¬Matcher.TooLarge patternSize map) :
    ((runRewrite patternSize verbose config path root : StateM σ RunResult) state).1.code =
      match (execOn loaded (Sources.rewriteAll config (.ofMap map) root)).1 with
      | .error _ => 12
      | .ok _ => 0 := by
  rw [runRewrite, run_bind_apply, mapped]
  simp only [Matcher.build, if_neg fits]
  rw [run_bind_apply]
  cases (execOn loaded (Sources.rewriteAll config (.ofMap map) root)).1 <;> rfl

/-- How a command line that rewrites ends, and the exit code that tells it; a run that did not begin leaves
all `unchanged`. -/
inductive Ending (patternSize : PatternSize) (choice : ConfigChoice) (asked : Option String)
    (root : String) (state : σ) (unchanged : Prop) : (code : Nat) → Prop where
  | unloaded : LoadFails choice asked state → unchanged →
    Ending patternSize choice asked root state unchanged 1
  | noMatcher : PatternFails patternSize choice asked state → unchanged →
    Ending patternSize choice asked root state unchanged 1
  | cutShort : SourcesFail patternSize choice asked root state →
    Ending patternSize choice asked root state unchanged 12
  | whole : ¬LoadFails choice asked state → ¬PatternFails patternSize choice asked state →
    ¬SourcesFail patternSize choice asked root state →
    Ending patternSize choice asked root state unchanged 0

/-- A command line that rewrites ends in one of these ways. -/
theorem ending_ranOn (reads : ReadsKeep disk) (patternSize : PatternSize)
    (isRewrite : Invocation.ofWords words = .ok ⟨verbose, choice, .rewrite root asked⟩) (state : σ) :
    Ending patternSize choice asked root state
      (disk (ranOn patternSize state words).2 = disk state) (ranOn patternSize state words).1.code := by
  have kept := reads.loadConfig choice state
  rw [ranOn, runWith, isRewrite]
  dsimp only [Invocation.run]
  rw [run_bind_apply]
  cases configured : execOn state (loadConfig choice) with
  | mk result between =>
  rw [configured] at kept
  cases result with
  | error error =>
    have failed := congrArg Prod.fst configured
    have code : error.code = 1 := FailsWithOne.loadConfig choice _ _ failed
    show Ending patternSize choice asked root state _ error.code
    rw [code]
    exact .unloaded (.config failed) kept
  | ok found =>
    obtain ⟨config, configPath⟩ := found
    have kept' := reads.loadMap (mapPath asked config configPath) between
    dsimp only
    cases mapped : execOn between (RenameMap.load (mapPath asked config configPath)) with
    | mk result loaded =>
    rw [mapped] at kept'
    cases result with
    | error error =>
      rw [runRewrite_of_load_error mapped]
      exact .unloaded (.map configured (congrArg Prod.fst mapped)) (kept'.trans kept)
    | ok map =>
      have loads : Loads choice asked state config map loaded :=
        ⟨configPath, between, configured, mapped⟩
      by_cases tooLarge : Matcher.TooLarge patternSize map
      · rw [runRewrite_of_tooLarge mapped tooLarge]
        exact .noMatcher ⟨config, map, loaded, loads, tooLarge⟩ (kept'.trans kept)
      rw [code_runRewrite_of_load_ok mapped tooLarge, Sources.rewriteAll]
      cases ran : (execOn loaded (Sources.rewriteAllBy config (rewrite config.attributes (.ofMap map))
        root)).1 with
      | error failure =>
        have fails := Sources.rewriteAllBy_eq_error_iff.1 ran
        exact .cutShort ⟨config, map, loaded, failure, loads, tooLarge, fails⟩
      | ok results =>
        refine .whole (fun unloaded => unloaded.not_loads loads) ?_ ?_
        · rintro ⟨config', map', loaded', loads', tooLarge'⟩
          obtain ⟨rfl, rfl, rfl⟩ := loads.unique loads'
          exact tooLarge tooLarge'
        · rintro ⟨config', map', loaded', failure, loads', -, fails⟩
          obtain ⟨rfl, rfl, rfl⟩ := loads.unique loads'
          cases ran.symm.trans (Sources.rewriteAllBy_eq_error_iff.2 fails)

/-! ### To make rename maps -/

/-- The configuration of a run cannot be loaded, or one of its token files. -/
inductive TokensFail (choice : ConfigChoice) (legacy current : String) (state : σ) : Prop where
  | config {error : RunError} :
    (execOn state (loadConfig choice)).1 = .error error → TokensFail choice legacy current state
  | legacy {loaded : Config × Option String} {between : σ} {error : ColorTokenError} :
    execOn state (loadConfig choice) = (.ok loaded, between) →
    (execOn between (ColorToken.load legacy)).1 = .error error →
    TokensFail choice legacy current state
  | current {loaded : Config × Option String} {tokens : ColorToken} {between between' : σ}
    {error : ColorTokenError} :
    execOn state (loadConfig choice) = (.ok loaded, between) →
    execOn between (ColorToken.load legacy) = (.ok tokens, between') →
    (execOn between' (ColorToken.load current)).1 = .error error →
    TokensFail choice legacy current state

/-- Without its legacy tokens a run makes nothing. -/
theorem runMap_of_legacy_error {config : Config} {legacy current outDir : String}
    {prefixes : List String} {error : ColorTokenError}
    (failed : (execOn state (ColorToken.load legacy)).1 = .error error) :
    execOn state (runMap config legacy current outDir prefixes) =
      (.error (.colorToken error), (execOn state (ColorToken.load legacy)).2) := by
  rw [runMap]
  exact execOn_bind_of_error (execOn_adapt_eq_error_iff.2 ⟨error, failed, rfl⟩) _

/-- Without its current tokens a run makes nothing. -/
theorem runMap_of_current_error {config : Config} {legacy current outDir : String}
    {prefixes : List String} {tokens : ColorToken} {between : σ} {error : ColorTokenError}
    (read : execOn state (ColorToken.load legacy) = (.ok tokens, between))
    (failed : (execOn between (ColorToken.load current)).1 = .error error) :
    execOn state (runMap config legacy current outDir prefixes) =
      (.error (.colorToken error), (execOn between (ColorToken.load current)).2) := by
  rw [runMap, execOn_bind, execOn_adapt_eq_ok.2 read]
  exact execOn_bind_of_error (execOn_adapt_eq_error_iff.2 ⟨error, failed, rfl⟩) _

/-- A command line that makes rename maps never ends over a source file, and one that lacks its
configuration or its tokens makes nothing. -/
theorem ranOn_map (reads : ReadsKeep disk) {legacy current outDir : String} {prefixes : List String}
    (isMap : Invocation.ofWords words = .ok ⟨verbose, choice, .map legacy current outDir prefixes⟩)
    (state : σ) :
    (ranOn patternSize state words).1.code ≠ 12 ∧ (TokensFail choice legacy current state →
      (ranOn patternSize state words).1.code = 1 ∧
        disk (ranOn patternSize state words).2 = disk state) := by
  have kept := reads.loadConfig choice state
  rw [ranOn, runWith, isMap]
  dsimp only [Invocation.run]
  rw [run_bind_apply]
  cases configured : execOn state (loadConfig choice) with
  | mk result between =>
  rw [configured] at kept
  cases result with
  | error error =>
    have code : error.code = 1 := FailsWithOne.loadConfig choice _ _ (congrArg Prod.fst configured)
    refine ⟨fun same => ?_, fun _ => ⟨code, kept⟩⟩
    cases code.symm.trans same
  | ok found =>
    obtain ⟨config, configPath⟩ := found
    dsimp only
    rw [run_bind_apply]
    constructor
    · cases ran : (execOn between (runMap config legacy current outDir prefixes)).1 with
      | error error =>
        have code : error.code = 1 := FailsWithOne.runMap config legacy current outDir prefixes _ _ ran
        intro same
        cases code.symm.trans same
      | ok output => exact Nat.zero_ne_add_one 11
    · intro fails
      have kept' := reads.loadTokens legacy between
      cases fails with
      | config failed =>
        rw [configured] at failed
        cases failed
      | legacy configured' failed =>
        cases configured.symm.trans configured'
        rw [runMap_of_legacy_error failed]
        exact ⟨rfl, kept'.trans kept⟩
      | @current _ _ _ between' _ configured' read failed =>
        cases configured.symm.trans configured'
        rw [read] at kept'
        rw [runMap_of_current_error read failed]
        exact ⟨rfl, (reads.loadTokens current between').trans (kept'.trans kept)⟩

/-! ### Both -/

/-- Whatever the files and their accesses do, and however large patterns are: a command that rewrites exits
with 12 when source files cannot be collected, read or written; with 1 when its configuration or its rename
map cannot be loaded, or the old names of the map make too large a pattern, which leaves all files as they
are; and else with 0. A command that makes rename maps never exits with 12, and with 1 when its
configuration or a token file cannot be loaded, which again leaves all as it is. -/
theorem exitCode_tells (reads : ReadsKeep disk) (patternSize : PatternSize) (state : σ)
    (words : List String) :
    (∀ verbose choice root asked,
      Invocation.ofWords words = .ok ⟨verbose, choice, .rewrite root asked⟩ →
      ((ranOn patternSize state words).1.code = 12 ↔
        SourcesFail patternSize choice asked root state) ∧
      ((ranOn patternSize state words).1.code = 1 ↔
        LoadFails choice asked state ∨ PatternFails patternSize choice asked state) ∧
      ((ranOn patternSize state words).1.code = 1 →
        disk (ranOn patternSize state words).2 = disk state) ∧
      ((ranOn patternSize state words).1.code = 0 ↔
        ¬SourcesFail patternSize choice asked root state ∧ ¬LoadFails choice asked state ∧
          ¬PatternFails patternSize choice asked state)) ∧
    ∀ verbose choice legacy current outDir prefixes,
      Invocation.ofWords words = .ok ⟨verbose, choice, .map legacy current outDir prefixes⟩ →
      (ranOn patternSize state words).1.code ≠ 12 ∧
      (TokensFail choice legacy current state →
        (ranOn patternSize state words).1.code = 1 ∧
          disk (ranOn patternSize state words).2 = disk state) := by
  refine ⟨fun verbose choice root asked isRewrite => ?_, fun _ _ _ _ _ _ isMap =>
    ranOn_map reads isMap state⟩
  have ending := ending_ranOn reads patternSize isRewrite state
  generalize (ranOn patternSize state words).1.code = code at ending ⊢
  cases ending with
  | unloaded fails kept => simp [fails, fails.not_sourcesFail, kept]
  | noMatcher fails kept => simp [fails, fails.not_sourcesFail, kept]
  | cutShort fails =>
    have loaded : ¬LoadFails choice asked state := fun unloaded => unloaded.not_sourcesFail fails
    have made : ¬PatternFails patternSize choice asked state := fun unmade => unmade.not_sourcesFail fails
    simp [fails, loaded, made]
  | whole loaded made read => simp [loaded, made, read]

/-- A command line that rewrites one file. -/
def rewriteWords : List String := ["--no-config", "rewrite", "--folder", "a.tsx", "--map", "map.json"]

theorem ofWords_rewriteWords :
    Invocation.ofWords rewriteWords = .ok ⟨false, .ignore, .rewrite "a.tsx" (some "map.json")⟩ := by
  decide +kernel

/-- A command line that makes rename maps. -/
def mapWords : List String := ["--no-config", "map", "--legacy", "old.json", "--current", "new.json"]

/-- A source file with one class, and a map that renames it. -/
def oneFile : FileSystem where
  nodes := [(["a.tsx"], .file (Text.Utf8.encode Sources.oneClassText)),
    (["map.json"], .file (Text.Utf8.encode "\x7b\"p-1\": \"m-1\"\x7d"))]
  current := []

/-- A source file that is no text, and a map. -/
def skippedFile : FileSystem := oneFile.put ["a.tsx"] (.file [0xFF])

/-- The file can be read, and cannot be written. -/
def lockedFile : FaultyFileSystem :=
  ⟨oneFile, [none, none, none, some (.other "Read-only file system (os error 30)")]⟩

/-- The map cannot be read. -/
def lockedMap : FaultyFileSystem := ⟨oneFile, [some (.other "Permission denied (os error 13)")]⟩

/-- A file that is skipped ends no run, one that cannot be written does; and without a map or without
tokens nothing is done. -/
theorem exitCode_tells_oneFile :
    (¬SourcesFail Matcher.roughSize .ignore (some "map.json") "a.tsx" skippedFile ∧
      ¬LoadFails .ignore (some "map.json") skippedFile) ∧
    SourcesFail Matcher.roughSize .ignore (some "map.json") "a.tsx" lockedFile ∧
    (LoadFails .ignore (some "map.json") lockedMap ∧
      (ranOn Matcher.roughSize lockedMap rewriteWords).2.files = oneFile) ∧
    (ranOn Matcher.roughSize oneFile mapWords).1.code = 1 ∧
      (ranOn Matcher.roughSize oneFile mapWords).2 = oneFile := by
  have understood' : Invocation.ofWords mapWords =
      .ok ⟨false, .ignore, .map "old.json" "new.json" "." []⟩ := by
    decide +kernel
  refine ⟨?skipped, ?lockedFile, ?lockedMap, ?noTokens⟩
  case skipped =>
    have told := (exitCode_tells readsKeep_fileSystem Matcher.roughSize skippedFile rewriteWords).1
      _ _ _ _ ofWords_rewriteWords
    obtain ⟨noSources, loaded, -⟩ := told.2.2.2.1 (by decide +kernel)
    exact ⟨noSources, loaded⟩
  case lockedFile =>
    have told := (exitCode_tells readsKeep_faultyFileSystem Matcher.roughSize lockedFile rewriteWords).1
      _ _ _ _ ofWords_rewriteWords
    exact told.1.1 (by decide +kernel)
  case lockedMap =>
    have told := (exitCode_tells readsKeep_faultyFileSystem Matcher.roughSize lockedMap rewriteWords).1
      _ _ _ _ ofWords_rewriteWords
    have failed : (execOn lockedMap (RenameMap.load "map.json")).1 =
        .error (.unreadable "map.json" (.other "Permission denied (os error 13)")) := by
      decide +kernel
    have fails : LoadFails .ignore (some "map.json") lockedMap := .map rfl failed
    exact ⟨fails, told.2.2.1 (told.2.1.2 (.inl fails))⟩
  case noTokens =>
    have told := (exitCode_tells readsKeep_fileSystem Matcher.roughSize oneFile mapWords).2
      _ _ _ _ _ _ understood'
    have missing : (execOn oneFile (ColorToken.load "old.json")).1 =
        .error (.unreadable "old.json" .missing) := by
      rw [ColorToken.load, execOn_bind, execOn_adapt]
      rfl
    exact told.2 (.legacy rfl missing)

/-- One old name that is very long. -/
def longName : List Char := List.replicate (4 * 1024 * 1024) 'a'

/-- A map with that name. -/
def longRename : RenameMap := .ofList [(String.ofList longName, "b")]

/-- A source file, and a file with that map. -/
def longMap : FileSystem := oneFile.put ["map.json"] (.file (Text.Utf8.encode longRename.toJson))

/-- Nothing is there. -/
def noFiles : FileSystem := ⟨[], []⟩

/-- A name that takes too many bytes by itself makes too large a pattern. -/
theorem tooLarge_of_mem_keys {map : RenameMap} {old : List Char} (isKey : String.ofList old ∈ map.keys)
    (long : Matcher.patternLimit < 68 * byteLength old) : Matcher.TooLarge Matcher.roughSize map := by
  have filled : String.ofList old ≠ "" := by
    rintro empty
    obtain rfl : old = [] := by simpa using congrArg String.toList empty
    simp [byteLength] at long
  have isOld := (Matcher.mem_olds_ofMap map old).2 ⟨filled, isKey⟩
  obtain ⟨before, after, split⟩ := List.append_of_mem isOld
  refine ⟨List.ne_nil_of_mem isOld, ?_⟩
  rw [Matcher.roughSize, split]
  simp only [List.flatten_append, List.flatten_cons, byteLength_append]
  omega

theorem byteLength_replicate (n : Nat) (c : Char) :
    byteLength (List.replicate n c) = n * c.utf8Size := by
  induction n with
  | zero => simp
  | succ n ih => rw [List.replicate_succ, byteLength_cons, ih, Nat.succ_mul, Nat.add_comm]

/-- A run fails although its configuration and its map are loaded, where the map has too long a name; and
where the version is asked for first, it does not matter that the map is not there. -/
theorem exitCode_not_loadFails :
    (Invocation.ofWords rewriteWords = .ok ⟨false, .ignore, .rewrite "a.tsx" (some "map.json")⟩ ∧
      ¬LoadFails .ignore (some "map.json") longMap ∧
      (ranOn Matcher.roughSize longMap rewriteWords).1.code = 1) ∧
    LoadFails .ignore (some "map.json") noFiles ∧
      (ranOn Matcher.roughSize noFiles ("--version" :: rewriteWords)).1.code = 0 := by
  have readable : longMap.read "map.json" = .ok (Text.Utf8.encode longRename.toJson) :=
    FileSystem.read_put (by decide +kernel) rfl _
  have loads : Loads .ignore (some "map.json") longMap {} longRename longMap :=
    ⟨none, longMap, rfl, RenameMap.execOn_load readable⟩
  have isKey : String.ofList longName ∈ longRename.keys :=
    RenameMap.mem_keys_ofList_iff.2 List.mem_cons_self
  have tooLarge : Matcher.TooLarge Matcher.roughSize longRename := by
    refine tooLarge_of_mem_keys isKey ?_
    rw [longName, byteLength_replicate]
    decide
  have ending := ending_ranOn readsKeep_fileSystem Matcher.roughSize ofWords_rewriteWords longMap
  refine ⟨⟨ofWords_rewriteWords, fun fails => fails.not_loads loads, ?_⟩, ?_, ?_⟩
  · generalize (ranOn Matcher.roughSize longMap rewriteWords).1.code = code at ending ⊢
    have fails : PatternFails Matcher.roughSize .ignore (some "map.json") longMap :=
      ⟨_, _, _, loads, tooLarge⟩
    cases ending with
    | unloaded => rfl
    | noMatcher => rfl
    | cutShort cut => exact absurd cut fails.not_sourcesFail
    | whole _ made => exact absurd fails made
  · have failed : (execOn noFiles (RenameMap.load "map.json")).1 =
        .error (.unreadable "map.json" .missing) := by
      decide +kernel
    exact .map rfl failed
  · decide +kernel

end CommandLine

end ClassRename
