import ClassRename.SourceRun
import ClassRename.Proofs.Sources
import Mathlib.Data.List.Pairwise
import Mathlib.Data.List.Perm.Subperm

/-! # A run touches its own files only

When the paths of a run lead to different places, what becomes of a file is settled by its own bytes.
Neither the order in which files are taken up nor a failure at another file makes a difference, a file
that is not rewritten keeps its bytes, and so does all that no path of the run leads to.
-/

namespace ClassRename

open Text (Utf8.Bytes)

/-- The paths do not lead to one place. -/
def FileSystem.Apart (files : FileSystem) (path path' : String) : Prop :=
  ∀ location, files.find path = .ok location → files.find path' ≠ .ok location

/-- New bytes in files bring no paths together. -/
theorem FileSystem.SameShape.apart {files files' : FileSystem} {path path' : String}
    (same : files.SameShape files') (apart : files.Apart path path') : files'.Apart path path' := by
  intro location found leads
  rw [← same.find_eq] at found leads
  exact apart location found leads

theorem FileSystem.Apart.symm {files : FileSystem} {path path' : String}
    (apart : files.Apart path path') : files.Apart path' path :=
  fun location found leads => apart location leads found

instance (files : FileSystem) : Std.Symm files.Apart := ⟨fun _ _ => FileSystem.Apart.symm⟩

namespace Sources

/-! ## One file -/

/-- What comes of the file at a path by its own bytes: the outcome, and the bytes that it has then. -/
inductive Processed (rewriting : Rewriting) (path : String) (content : Utf8.Bytes) :
    Outcome → Utf8.Bytes → Prop where
  | notText {fault : Text.Utf8.Fault} :
    Text.Utf8.decode content = .error fault →
    Processed rewriting path content (.notText fault) content
  | notProgram {source : String} {error : Script.SyntaxError} :
    Text.Utf8.decode content = .ok source →
    rewriting (Script.Dialect.ofPath path) source = .error (.unreadable error) →
    Processed rewriting path content (.notProgram error) content
  | notEditable {source : String} {error : EditError} :
    Text.Utf8.decode content = .ok source →
    rewriting (Script.Dialect.ofPath path) source = .error (.uneditable error) →
    Processed rewriting path content (.notEditable error) content
  | unchanged {source : String} {edits : List Edit} :
    Text.Utf8.decode content = .ok source →
    rewriting (Script.Dialect.ofPath path) source = .ok ⟨edits, none⟩ →
    Processed rewriting path content .unchanged content
  | rewritten {source text : String} {edits : List Edit} :
    Text.Utf8.decode content = .ok source →
    rewriting (Script.Dialect.ofPath path) source = .ok ⟨edits, some text⟩ →
    Processed rewriting path content (.rewritten (edits.map (EditNote.ofEdit source)))
      (Text.Utf8.encode text)

/-- Rewriting the file at a path: the result, the file system after it, and the plan left. -/
inductive Step (rewriting : Rewriting) (path : String) (state : FaultyFileSystem) :
    Except FileFailure Outcome × FaultyFileSystem → Prop where
  /-- A failure changes nothing. It is planned, or the path leads to no file. -/
  | failed {activity : FileActivity} {cause : FileError} {plan : List (Option FileError)} :
    some cause ∈ state.plan ∨ state.files.read path = .error cause → plan <:+ state.plan →
    Step rewriting path state (.error ⟨activity, path, cause⟩, ⟨state.files, plan⟩)
  | kept {content : Utf8.Bytes} {outcome : Outcome} {plan : List (Option FileError)} :
    state.files.read path = .ok content → Processed rewriting path content outcome content →
    plan <:+ state.plan → Step rewriting path state (.ok outcome, ⟨state.files, plan⟩)
  | written {location : Location} {content bytes : Utf8.Bytes} {outcome : Outcome}
    {plan : List (Option FileError)} :
    state.files.find path = .ok location → state.files.node? location = some (.file content) →
    Processed rewriting path content outcome bytes → plan <:+ state.plan →
    Step rewriting path state (.ok outcome, ⟨state.files.put location (.file bytes), plan⟩)

variable {rewriting : Rewriting} {path : String} {content bytes : Utf8.Bytes}
  {outcome : Outcome} {state : FaultyFileSystem}

theorem Processed.unique {outcome' : Outcome} {bytes' : Utf8.Bytes}
    (processed : Processed rewriting path content outcome bytes)
    (processed' : Processed rewriting path content outcome' bytes') :
    outcome = outcome' ∧ bytes = bytes' := by
  cases processed <;> cases processed' <;> simp_all

/-- What is made of a file's content is what comes of it. -/
theorem processed_rewriteContentBy (rewriting : Rewriting) (path : String)
    (content : Utf8.Bytes) : ∃ outcome,
    (rewriteContentBy rewriting path content = (none, outcome) ∧
      Processed rewriting path content outcome content) ∨
    ∃ text, rewriteContentBy rewriting path content = (some text, outcome) ∧
      Processed rewriting path content outcome (Text.Utf8.encode text) := by
  unfold rewriteContentBy
  cases decoded : Text.Utf8.decode content with
  | error fault => exact ⟨_, .inl ⟨rfl, .notText decoded⟩⟩
  | ok source =>
    dsimp only
    cases result : rewriting (Script.Dialect.ofPath path) source with
    | error error =>
      cases error with
      | unreadable error => exact ⟨_, .inl ⟨rfl, .notProgram decoded result⟩⟩
      | uneditable error => exact ⟨_, .inl ⟨rfl, .notEditable decoded result⟩⟩
    | ok rewritten =>
      obtain ⟨edits, newSource⟩ := rewritten
      cases newSource with
      | none => exact ⟨_, .inl ⟨rfl, .unchanged decoded result⟩⟩
      | some text => exact ⟨_, .inr ⟨text, rfl, .rewritten decoded result⟩⟩

/-- All that rewriting one file can do. -/
theorem step_rewriteFileBy (rewriting : Rewriting) (path : String)
    (state : FaultyFileSystem) :
    Step rewriting path state (execOn state (rewriteFileBy rewriting path)) := by
  have suffix := List.tail_suffix state.plan
  rw [rewriteFileBy, execOn_bind, execOn_trying]
  rcases FaultyFileSystem.execOn_read state path with ⟨cause, reason, failed⟩ | ⟨content, readable, read⟩
  · rw [failed]
    exact .failed reason suffix
  · rw [read]
    obtain ⟨outcome, ⟨made, processed⟩ | ⟨text, made, processed⟩⟩ :=
      processed_rewriteContentBy rewriting path content
    · simp only [Except.mapError, made]
      exact .kept readable processed suffix
    · simp only [Except.mapError, made]
      rw [execOn_bind, execOn_trying, FileAccess.writeText]
      have suffix' := (List.tail_suffix state.plan.tail).trans suffix
      rcases FaultyFileSystem.execOn_write { state with plan := state.plan.tail } readable
          (Text.Utf8.encode text) with ⟨cause, planned, failed⟩ | ⟨location, found, held, written⟩
      · rw [failed]
        exact .failed (.inl (List.mem_of_mem_tail planned)) suffix'
      · rw [written]
        exact .written found held processed suffix'

section

variable {result : Except FileFailure Outcome} {after : FaultyFileSystem}

/-- A step leaves all ways and all that its path does not lead to. -/
theorem Step.frame (step : Step rewriting path state (result, after)) :
    state.files.SameShape after.files ∧
      (∀ location, state.files.find path ≠ .ok location →
        after.files.node? location = state.files.node? location) ∧
      after.plan <:+ state.plan := by
  cases step with
  | failed _ suffix => exact ⟨.refl _, fun _ _ => rfl, suffix⟩
  | kept _ _ suffix => exact ⟨.refl _, fun _ _ => rfl, suffix⟩
  | written found held _ suffix =>
    refine ⟨FileSystem.sameShape_put held _, fun location elsewhere => ?_, suffix⟩
    rw [FileSystem.node?_put (FileSystem.ne_nil_of_node?_file held), if_neg]
    rintro rfl
    exact elsewhere found

/-- A path that leads elsewhere reads as before. -/
theorem Step.read_eq (step : Step rewriting path state (result, after)) {other : String}
    (apart : state.files.Apart path other) : after.files.read other = state.files.read other := by
  obtain ⟨same, kept, -⟩ := step.frame
  exact same.read_eq fun location leads => kept location fun found => apart location found leads

/-- What a result tells of the file: one that is done has what its own bytes give, and one that failed
was to fail, by plan or because it cannot be read, and is as it was. -/
def Settled (rewriting : Rewriting) (path : String) (state : FaultyFileSystem)
    (after : FileSystem) : Except FileFailure Outcome → Prop
  | .ok outcome => ∃ content bytes, state.files.read path = .ok content ∧
      Processed rewriting path content outcome bytes ∧ after.read path = .ok bytes
  | .error failure => failure.path = path ∧ after.read path = state.files.read path ∧
      (some failure.cause ∈ state.plan ∨ state.files.read path = .error failure.cause)

theorem Step.settled (step : Step rewriting path state (result, after)) :
    Settled rewriting path state after.files result := by
  cases step with
  | failed reason => exact ⟨rfl, rfl, reason⟩
  | kept readable processed => exact ⟨_, _, readable, processed, readable⟩
  | written found held processed =>
    exact ⟨_, _, FileSystem.read_eq_ok_iff.2 ⟨_, found, held⟩, processed,
      FileSystem.read_put found held _⟩

/-- A result tells the same of a file that is there unchanged earlier and later. -/
theorem Settled.congr {state' : FaultyFileSystem} {files files' : FileSystem}
    (settled : Settled rewriting path state' files result)
    (before : state'.files.read path = state.files.read path) (plan : state'.plan <:+ state.plan)
    (now : files'.read path = files.read path) : Settled rewriting path state files' result := by
  cases result with
  | ok outcome =>
    obtain ⟨content, bytes, readable, processed, written⟩ := settled
    exact ⟨content, bytes, before ▸ readable, processed, now.trans written⟩
  | error failure =>
    obtain ⟨here, kept, reason⟩ := settled
    rw [before] at kept reason
    exact ⟨here, now.trans kept, reason.imp_left fun planned => plan.subset planned⟩

end

/-! ## Files in some order -/

/-- Rewrite files in the order given, whatever becomes of each. -/
def attemptFiles (rewriting : Rewriting) :
    List String → FaultyFileSystem → List (String × Except FileFailure Outcome) × FaultyFileSystem
  | [], state => ([], state)
  | path :: later, state =>
    let (result, between) := execOn state (rewriteFileBy rewriting path)
    let (results, after) := attemptFiles rewriting later between
    ((path, result) :: results, after)

/-- What a run over files leaves of a file system. -/
structure Rewrote (rewriting : Rewriting) (state : FaultyFileSystem)
    (order : List String) (results : List (String × Except FileFailure Outcome)) (after : FileSystem) :
    Prop where
  /-- Each file that was taken up has one result. -/
  taken : results.map (·.1) = order
  settled : ∀ path result, (path, result) ∈ results →
    Settled rewriting path state after result
  /-- Paths lead where they led. -/
  shape : state.files.SameShape after
  /-- What no path of the run leads to is as it was. -/
  elsewhere : ∀ location, (∀ path ∈ order, state.files.find path ≠ .ok location) →
    after.node? location = state.files.node? location

/-- A path that leads nowhere that the run goes reads as before. -/
theorem Rewrote.read_eq {order : List String}
    {results : List (String × Except FileFailure Outcome)} {after : FileSystem}
    (rewrote : Rewrote rewriting state order results after)
    (apart : ∀ taken ∈ order, state.files.Apart taken path) :
    after.read path = state.files.read path :=
  rewrote.shape.read_eq fun location leads =>
    rewrote.elsewhere location fun taken isTaken found => apart taken isTaken location found leads

/-- A file that is done in one run comes to the same in every run without planned failures. -/
theorem Rewrote.result_eq {files after after' : FileSystem} {plan : List (Option FileError)}
    {order order' : List String} {results results' : List (String × Except FileFailure Outcome)}
    {result : Except FileFailure Outcome}
    (rewrote : Rewrote rewriting ⟨files, plan⟩ order results after)
    (rewrote' : Rewrote rewriting ⟨files, []⟩ order' results' after')
    (done : (path, .ok outcome) ∈ results) (isResult : (path, result) ∈ results') :
    result = .ok outcome := by
  obtain ⟨content, bytes, readable, processed, -⟩ := rewrote.settled path (.ok outcome) done
  have settled := rewrote'.settled path result isResult
  cases result with
  | ok outcome' =>
    obtain ⟨content', bytes', readable', processed', -⟩ := settled
    cases readable.symm.trans readable'
    rw [(processed.unique processed').1]
  | error failure =>
    obtain ⟨-, -, planned | unreadable⟩ := settled
    · cases planned
    · cases readable.symm.trans unreadable

/-- What becomes of files that lie apart is settled by their own bytes, in whatever order they come. -/
theorem rewrote_attemptFiles (rewriting : Rewriting) (order : List String)
    (state : FaultyFileSystem) (apart : order.Pairwise state.files.Apart) :
    Rewrote rewriting state order (attemptFiles rewriting order state).1
      (attemptFiles rewriting order state).2.files := by
  induction order generalizing state with
  | nil => exact ⟨rfl, nofun, .refl _, fun _ _ => rfl⟩
  | cons path later ih =>
    obtain ⟨apartFirst, apartLater⟩ := List.pairwise_cons.1 apart
    have step := step_rewriteFileBy rewriting path state
    rw [attemptFiles]
    cases ran : execOn state (rewriteFileBy rewriting path) with
    | mk result between =>
    rw [ran] at step
    obtain ⟨same, kept, suffix⟩ := step.frame
    have rewrote := ih between (apartLater.imp fun apart => same.apart apart)
    refine ⟨congrArg (path :: ·) rewrote.taken, ?_, same.trans rewrote.shape, ?_⟩
    · intro path' result' isResult
      rcases List.mem_cons.1 isResult with first | isLater
      · cases first
        refine step.settled.congr rfl (List.suffix_refl _) (rewrote.read_eq fun taken isTaken => ?_)
        exact same.apart (apartFirst taken isTaken).symm
      · have isTaken : path' ∈ later := rewrote.taken ▸ List.mem_map_of_mem isLater
        exact (rewrote.settled path' result' isLater).congr (step.read_eq (apartFirst path' isTaken))
          suffix rfl
    · intro location elsewhere
      rw [← kept location (elsewhere path List.mem_cons_self)]
      refine rewrote.elsewhere location fun taken isTaken => ?_
      rw [← same.find_eq]
      exact elsewhere taken (List.mem_cons_of_mem _ isTaken)

/-! ## The program -/

/-- The outcomes, or the first failure. -/
def outcomes : List (String × Except FileFailure Outcome) →
    Except FileFailure (List (String × Outcome))
  | [] => .ok []
  | (_, .error failure) :: _ => .error failure
  | (path, .ok outcome) :: later => (outcomes later).map ((path, outcome) :: ·)

theorem rewriteFilesBy_cons {m : Type → Type} [Monad m] [LawfulMonad m] [FileAccess m]
    (rewriting : Rewriting) (path : String) (later : List String) :
    rewriteFilesBy (m := m) rewriting (path :: later) =
      rewriteFileBy rewriting path >>= fun outcome =>
        rewriteFilesBy rewriting later >>= fun list => pure ((path, outcome) :: list) := by
  simp only [rewriteFilesBy, List.mapM_cons, bind_assoc, pure_bind]

/-- The program rewrites files in order up to the first failure. -/
theorem execOn_rewriteFilesBy (rewriting : Rewriting) (order : List String)
    (state : FaultyFileSystem) :
    (execOn state (rewriteFilesBy rewriting order)).1 =
        outcomes (attemptFiles rewriting order state).1 ∧
      ∃ begun, begun <+: order ∧
        (execOn state (rewriteFilesBy rewriting order)).2 =
          (attemptFiles rewriting begun state).2 ∧
        ∀ done, (execOn state (rewriteFilesBy rewriting order)).1 = .ok done → begun = order := by
  induction order generalizing state with
  | nil => exact ⟨rfl, [], List.prefix_refl _, rfl, fun _ _ => rfl⟩
  | cons path later ih =>
    rw [rewriteFilesBy_cons, execOn_bind, attemptFiles]
    cases ran : execOn state (rewriteFileBy rewriting path) with
    | mk result between =>
    cases result with
    | error failure =>
      refine ⟨rfl, [path], ⟨later, rfl⟩, ?_, nofun⟩
      rw [attemptFiles, ran]
      rfl
    | ok outcome =>
      obtain ⟨listed, begun, isPrefix, reached, whole⟩ := ih between
      have more : (attemptFiles rewriting (path :: begun) state).2 =
          (attemptFiles rewriting begun between).2 := by
        rw [attemptFiles, ran]
      have isPrefix' := (List.prefix_cons_inj path).2 isPrefix
      dsimp only
      rw [execOn_bind, outcomes, ← listed]
      cases ranLater : execOn between (rewriteFilesBy rewriting later) with
      | mk list after =>
      rw [ranLater] at reached whole
      cases list with
      | error failure => exact ⟨rfl, path :: begun, isPrefix', reached.trans more.symm, nofun⟩
      | ok list =>
        exact ⟨rfl, path :: begun, isPrefix', reached.trans more.symm, fun done _ =>
          congrArg (path :: ·) (whole list rfl)⟩

/-- A run over several paths that goes well does so over the first one and then over the others. -/
theorem execOn_rewriteFilesBy_cons {files after : FileSystem} {order : List String}
    {done : List (String × Outcome)} :
    execOn files (rewriteFilesBy rewriting (path :: order)) = (.ok done, after) ↔
      ∃ outcome between later, execOn files (rewriteFileBy rewriting path) = (.ok outcome, between) ∧
        execOn between (rewriteFilesBy rewriting order) = (.ok later, after) ∧
        done = (path, outcome) :: later := by
  rw [rewriteFilesBy_cons, execOn_bind_eq_ok]
  constructor
  · rintro ⟨outcome, between, first, went⟩
    obtain ⟨later, ended, wentLater, told⟩ := execOn_bind_eq_ok.1 went
    cases told
    exact ⟨outcome, between, later, first, wentLater, rfl⟩
  · rintro ⟨outcome, between, later, first, wentLater, rfl⟩
    exact ⟨outcome, between, first, execOn_bind_eq_ok.2 ⟨later, after, wentLater, rfl⟩⟩

/-- On a plain file system the program does what it does when no failure is planned. -/
theorem mirrors_rewriteFileBy (rewriting : Rewriting) (path : String) :
    Mirrors (rewriteFileBy rewriting path) (rewriteFileBy rewriting path) := by
  refine .bind ((Mirrors.faulty _).trying .read path) fun content => ?_
  split
  · exact .pure _
  · exact .bind ((Mirrors.faulty _).trying .write path) fun _ => .pure _

theorem mirrors_rewriteFilesBy (rewriting : Rewriting) (order : List String) :
    Mirrors (rewriteFilesBy rewriting order) (rewriteFilesBy rewriting order) :=
  .mapM (fun path => .bind (mirrors_rewriteFileBy rewriting path) fun outcome =>
    .pure (path, outcome)) order

/-! ## Outcomes in the order of the paths -/

/-- Outcomes without their order, put in the order of the paths. -/
def inOrder (paths : List String) (done : List (String × Outcome)) : List (String × Outcome) :=
  paths.filterMap fun path => (done.lookup path).map fun outcome => (path, outcome)

theorem outcomes_map_ok (list : List (String × Outcome)) :
    outcomes (list.map fun entry => (entry.1, .ok entry.2)) = .ok list := by
  induction list with
  | nil => rfl
  | cons entry later ih =>
    rw [List.map_cons, outcomes, ih]
    rfl

theorem eq_map_of_outcomes {results : List (String × Except FileFailure Outcome)}
    {list : List (String × Outcome)} (all : outcomes results = .ok list) :
    results = list.map fun entry => (entry.1, .ok entry.2) := by
  induction results generalizing list with
  | nil =>
    cases all
    rfl
  | cons first later ih =>
    obtain ⟨path, result⟩ := first
    cases result with
    | error failure => cases all
    | ok outcome =>
      rw [outcomes] at all
      cases rest : outcomes later with
      | error failure =>
        rw [rest] at all
        cases all
      | ok list' =>
        rw [rest] at all
        cases all
        rw [ih rest]
        rfl

/-- Lists with the same keys in the same order are one if they agree on each key. -/
theorem eq_of_map_fst_eq {α β : Type} {list list' : List (α × β)}
    (keys : list.map (·.1) = list'.map (·.1))
    (agree : ∀ key value value', (key, value) ∈ list → (key, value') ∈ list' → value = value') :
    list = list' := by
  induction list generalizing list' with
  | nil => exact (List.map_eq_nil_iff.1 keys.symm).symm
  | cons first later ih =>
    cases list' with
    | nil => cases keys
    | cons first' later' =>
      obtain ⟨key, value⟩ := first
      obtain ⟨key', value'⟩ := first'
      obtain ⟨rfl, laterKeys⟩ := List.cons.inj keys
      obtain rfl := agree _ value value' List.mem_cons_self List.mem_cons_self
      rw [ih laterKeys fun key value value' isLater isLater' =>
        agree key value value' (List.mem_cons_of_mem _ isLater) (List.mem_cons_of_mem _ isLater')]

theorem mem_of_lookup_eq_some {path : String} {done : List (String × Outcome)} {outcome : Outcome}
    (found : done.lookup path = some outcome) : (path, outcome) ∈ done := by
  obtain ⟨before, after, rfl, -⟩ := List.lookup_eq_some_iff.1 found
  exact List.mem_append_right _ List.mem_cons_self

theorem mem_inOrder {paths : List String} {done : List (String × Outcome)} {path : String}
    {outcome : Outcome} (isListed : (path, outcome) ∈ inOrder paths done) :
    path ∈ paths ∧ (path, outcome) ∈ done := by
  obtain ⟨path', isPath, found⟩ := List.mem_filterMap.1 isListed
  obtain ⟨outcome', found, same⟩ := Option.map_eq_some_iff.1 found
  cases same
  exact ⟨isPath, mem_of_lookup_eq_some found⟩

theorem map_fst_inOrder {paths : List String} {done : List (String × Outcome)}
    (all : ∀ path ∈ paths, path ∈ done.map (·.1)) : (inOrder paths done).map (·.1) = paths := by
  induction paths with
  | nil => rfl
  | cons path later ih =>
    obtain ⟨entry, isDone, here⟩ := List.mem_map.1 (all path List.mem_cons_self)
    have some : (done.lookup path).isSome = true :=
      List.lookup_isSome_iff.2 ⟨entry, isDone, by simp [here]⟩
    obtain ⟨outcome, found⟩ := Option.isSome_iff_exists.1 some
    have rest := ih fun path isLater => all path (List.mem_cons_of_mem _ isLater)
    rw [inOrder, List.filterMap_cons, found]
    exact congrArg (path :: ·) rest

/-! ## The whole run -/

theorem pairwise_apart_of_subperm {files : FileSystem} {order paths : List String}
    (some : order.Subperm paths) (apart : paths.Pairwise files.Apart) :
    order.Pairwise files.Apart := by
  obtain ⟨chosen, same, chosenOf⟩ := some
  exact (apart.sublist chosenOf).perm same FileSystem.Apart.symm

/-- In whatever order the files are taken up, a run that goes well tells the same. -/
theorem rewriteFilesBy_inOrder {files : FileSystem} {order paths : List String}
    {plan : List (Option FileError)} {done : List (String × Outcome)} (same : order.Perm paths)
    (apart : paths.Pairwise files.Apart)
    (went : (execOn (FaultyFileSystem.mk files plan) (rewriteFilesBy rewriting order)).1 = .ok done) :
    (inOrder paths done).map (·.1) = paths ∧
      (execOn files (rewriteFilesBy rewriting paths)).1 = .ok (inOrder paths done) := by
  have rewrote := rewrote_attemptFiles rewriting order ⟨files, plan⟩
    (pairwise_apart_of_subperm same.subperm apart)
  have rewrote' := rewrote_attemptFiles rewriting paths ⟨files, []⟩ apart
  rw [(execOn_rewriteFilesBy rewriting order _).1] at went
  rw [eq_map_of_outcomes went] at rewrote
  have keys : done.map (·.1) = order := by
    have taken := rewrote.taken
    rwa [List.map_map] at taken
  have listed : (inOrder paths done).map (·.1) = paths :=
    map_fst_inOrder fun path isPath => keys ▸ same.mem_iff.2 isPath
  refine ⟨listed, ?_⟩
  have plain := mirrors_rewriteFilesBy rewriting paths files
  have faulty := (execOn_rewriteFilesBy rewriting paths ⟨files, []⟩).1
  rw [plain] at faulty
  have results : (attemptFiles rewriting paths ⟨files, []⟩).1 =
      (inOrder paths done).map fun entry => (entry.1, .ok entry.2) := by
    refine eq_of_map_fst_eq ?_ ?_
    · rw [rewrote'.taken, List.map_map]
      exact listed.symm
    · intro path result result' isResult isResult'
      obtain ⟨⟨path, outcome⟩, isListed, same⟩ := List.mem_map.1 isResult'
      cases same
      exact rewrote.result_eq rewrote' (List.mem_map_of_mem (mem_inOrder isListed).2) isResult
  rw [faulty, results, outcomes_map_ok]

/-- The program collects, which changes nothing, and then rewrites. -/
theorem execOn_rewriteAllBy {config : Config} {root : String} {files : FileSystem}
    {paths : List String} (collected : (execOn files (collect config root)).1 = .ok paths) :
    execOn files (rewriteAllBy config rewriting root) =
      execOn files (rewriteFilesBy rewriting paths) := by
  have unchanged := looksOnly_collect config root files
  rw [rewriteAllBy, execOn_bind]
  cases ran : execOn files (collect config root) with
  | mk result after =>
  rw [ran] at collected unchanged
  cases collected
  cases unchanged
  rfl

/-- A run over files that lie apart: every file that is done has what its own bytes give, every other
file and every other place is as it was, and a run that goes well tells the same in whatever order the
files are taken up. The program makes such a run, up to the first failure. -/
theorem rewriteAllBy_settled {config : Config} (rewriting : Rewriting) {root : String}
    {files : FileSystem} {paths : List String}
    (collected : (execOn files (collect config root)).1 = .ok paths)
    (apart : paths.Pairwise files.Apart) :
    (paths.Pairwise fun a b => Path.upTo a b = true) ∧
    (∀ order plan results after, order.Subperm paths →
      attemptFiles rewriting order ⟨files, plan⟩ = (results, after) →
      Rewrote rewriting ⟨files, plan⟩ order results after.files ∧
      (∀ path, (∀ taken ∈ order, files.Apart taken path) →
        after.files.read path = files.read path) ∧
      ∀ path ∈ paths, path ∉ order → after.files.read path = files.read path) ∧
    (∀ order plan, ∃ begun, begun <+: order ∧
      (execOn (FaultyFileSystem.mk files plan) (rewriteFilesBy rewriting order)).2 =
        (attemptFiles rewriting begun ⟨files, plan⟩).2 ∧
      ∀ done, (execOn (FaultyFileSystem.mk files plan)
        (rewriteFilesBy rewriting order)).1 = .ok done → begun = order) ∧
    ∀ order plan done, order.Perm paths →
      (execOn (FaultyFileSystem.mk files plan) (rewriteFilesBy rewriting order)).1 = .ok done →
      (inOrder paths done).map (·.1) = paths ∧
      (execOn files (rewriteAllBy config rewriting root)).1 = .ok (inOrder paths done) := by
  refine ⟨pairwise_of_collect collected, ?_, ?_, ?_⟩
  · intro order plan results after some ran
    have rewrote := rewrote_attemptFiles rewriting order ⟨files, plan⟩
      (pairwise_apart_of_subperm some apart)
    rw [ran] at rewrote
    refine ⟨rewrote, fun path => rewrote.read_eq, fun path isPath notTaken => ?_⟩
    refine rewrote.read_eq fun taken isTaken => ?_
    refine apart.forall (some.subset isTaken) isPath ?_
    rintro rfl
    exact notTaken isTaken
  · intro order plan
    exact (execOn_rewriteFilesBy rewriting order ⟨files, plan⟩).2
  · intro order plan done same went
    obtain ⟨listed, plain⟩ := rewriteFilesBy_inOrder same apart went
    rw [execOn_rewriteAllBy collected]
    exact ⟨listed, plain⟩

/-! ## Small folders -/

/-- The text of a source file. -/
def oneClassText : String := "<a className=\"p-1\"/>"

/-- One class has a new name. -/
def oneRename : Matcher := .ofMap (.ofList [("p-1", "m-1")])

/-- Two source files. -/
def twoFiles : FileSystem where
  nodes := [(["a.tsx"], .file (Text.Utf8.encode oneClassText)),
    (["b.tsx"], .file (Text.Utf8.encode oneClassText))]
  current := []

/-- A run that ends because the second file cannot be written leaves the first one alone. -/
theorem rewriteAllBy_settled_twoFiles :
    (execOn twoFiles (collect {} ".")).1 = .ok ["./a.tsx", "./b.tsx"] ∧
    (attemptFiles (rewrite {} oneRename) ["./b.tsx"]
      ⟨twoFiles, [none, some .notFolder]⟩).2.files.read "./a.tsx" = twoFiles.read "./a.tsx" := by
  have sorted : ["./a.tsx", "./b.tsx"].Pairwise fun a b => Path.upTo a b = true := by decide +kernel
  have collected : (execOn twoFiles (collect {} ".")).1 = .ok ["./a.tsx", "./b.tsx"] := by
    rw [← List.mergeSort_of_pairwise sorted]
    exact collect_folder (by decide +kernel) (by decide +kernel)
  have first : twoFiles.find "./a.tsx" = .ok ["a.tsx"] := by decide +kernel
  have second : twoFiles.find "./b.tsx" = .ok ["b.tsx"] := by decide +kernel
  have apart : ["./a.tsx", "./b.tsx"].Pairwise twoFiles.Apart := by
    refine List.pairwise_pair.2 fun location found leads => ?_
    obtain rfl := Except.ok.inj (first.symm.trans found)
    exact absurd (Except.ok.inj (second.symm.trans leads)) (by decide)
  obtain ⟨-, settled, -⟩ :=
    rewriteAllBy_settled (rewrite {} oneRename) collected apart
  have isPart : ["./b.tsx"].Subperm ["./a.tsx", "./b.tsx"] :=
    (List.sublist_cons_self "./a.tsx" ["./b.tsx"]).subperm
  cases ran : attemptFiles (rewrite {} oneRename) ["./b.tsx"]
      ⟨twoFiles, [none, some .notFolder]⟩ with
  | mk results after =>
  have untaken := (settled ["./b.tsx"] [none, some .notFolder] results after isPart ran).2.2
  exact ⟨collected, untaken "./a.tsx" (by decide) (by decide)⟩

/-- A source file and a link to it that is no source file. -/
def linkedFile : FileSystem where
  nodes := [(["a.tsx"], .file (Text.Utf8.encode oneClassText)), (["b.css"], .link "a.tsx")]
  current := []

/-- A file whose names change is written where its path leads. -/
theorem execOn_rewriteFileBy {files : FileSystem} {location : Location} {text : String}
    (found : files.find path = .ok location) (held : files.node? location = some (.file content))
    (made : rewriteContentBy rewriting path content = (some text, outcome)) :
    execOn files (rewriteFileBy rewriting path) =
      (.ok outcome, files.put location (.file (Text.Utf8.encode text))) := by
  have read : execOn files (FileAccess.read path) = (.ok content, files) := by
    have readable := FileSystem.read_eq_ok_iff.2 ⟨location, found, held⟩
    simp only [execOn, FileAccess.read, FileSystem.looking, readable]
  have write : execOn files (FileAccess.writeText path text) =
      (.ok (), files.put location (.file (Text.Utf8.encode text))) := by
    have written := FileSystem.write_eq found held (Text.Utf8.encode text)
    simp only [execOn, FileAccess.writeText, FileAccess.write, FileSystem.changing, written]
  rw [rewriteFileBy, execOn_bind, execOn_trying, read]
  simp only [Except.mapError, made]
  rw [execOn_bind, execOn_trying, write]
  rfl

/-- A path that is not collected reads differently after a run if it leads to a file of the run. -/
theorem rewriteAll_changes_link :
    (execOn linkedFile (collect {} ".")).1 = .ok ["./a.tsx"] ∧
    ["./a.tsx"].Pairwise linkedFile.Apart ∧
    linkedFile.read "b.css" = .ok (Text.Utf8.encode oneClassText) ∧
    (execOn linkedFile (rewriteAll {} oneRename ".")).2.read "b.css" =
      .ok (Text.Utf8.encode "<a className='m-1'/>") := by
  have collected : (execOn linkedFile (collect {} ".")).1 = .ok ["./a.tsx"] := by decide +kernel
  have found : linkedFile.find "./a.tsx" = .ok ["a.tsx"] := by decide +kernel
  have linked : linkedFile.find "b.css" = .ok ["a.tsx"] := by decide +kernel
  have held : linkedFile.node? ["a.tsx"] = some (.file (Text.Utf8.encode oneClassText)) := by
    decide +kernel
  have made : rewriteContentBy (rewrite {} oneRename) "./a.tsx"
      (Text.Utf8.encode oneClassText) = (some "<a className='m-1'/>",
        .rewritten [⟨⟨1, 14⟩, "Rename class 'p-1' to 'm-1'"⟩]) := by
    decide +kernel
  refine ⟨collected, List.pairwise_singleton _ _, ?_, ?_⟩
  · exact FileSystem.read_eq_ok_iff.2 ⟨_, linked, held⟩
  · rw [rewriteAll, execOn_rewriteAllBy collected, rewriteFilesBy_cons, execOn_bind,
      execOn_rewriteFileBy found held made]
    refine FileSystem.read_eq_ok_iff.2 ⟨["a.tsx"], ?_, ?_⟩
    · exact ((FileSystem.sameShape_put held _).find_eq "b.css").symm.trans linked
    · exact (FileSystem.node?_put (by decide) _ _).trans (if_pos rfl)

end Sources

end ClassRename
