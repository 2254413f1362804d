import ClassRename.Proofs.SourceRun

/-! # Files with several paths

A link gives a file a further path. The paths of a run are different, the files that they lead to need
not be: a file is rewritten once for each path of the run that leads to it, each time from the bytes that
the time before left.
-/

namespace ClassRename.Sources

open Text (Utf8.Bytes)

variable {rewriting : Rewriting} {path : String} {order paths : List String}
  {files after between : FileSystem} {location : Location} {content bytes : Utf8.Bytes}
  {outcome : Outcome} {done : List (String × Outcome)}

/-! ## One path -/

/-- The bytes of a file after it was rewritten under a path. -/
def contentAfter (rewriting : Rewriting) (content : Utf8.Bytes) (path : String) : Utf8.Bytes :=
  match (rewriteContentBy rewriting path content).1 with
  | none => content
  | some text => Text.Utf8.encode text

/-- What comes of a file's bytes is settled by the path and the bytes. -/
theorem Processed.bytes_eq (processed : Processed rewriting path content outcome bytes) :
    bytes = contentAfter rewriting content path := by
  unfold contentAfter
  obtain ⟨outcome', ⟨made, processed'⟩ | ⟨text, made, processed'⟩⟩ :=
    processed_rewriteContentBy rewriting path content
  · rw [made]
    exact (processed.unique processed').2
  · rw [made]
    exact (processed.unique processed').2

/-- A path that was done leads to a file. That file has new bytes, and nothing else is changed. -/
theorem exists_rewritten_of_rewriteFileBy
    (went : execOn files (rewriteFileBy rewriting path) = (.ok outcome, after)) :
    files.SameShape after ∧ ∃ location content, files.find path = .ok location ∧
      files.node? location = some (.file content) ∧
      ∀ other, after.node? other =
        if other = location then some (.file (contentAfter rewriting content path))
        else files.node? other := by
  have step := step_rewriteFileBy rewriting path ⟨files, []⟩
  rw [mirrors_rewriteFileBy rewriting path files, went] at step
  refine ⟨step.frame.1, ?_⟩
  cases step with
  | kept readable processed =>
    obtain ⟨location, found, held⟩ := FileSystem.read_eq_ok_iff.1 readable
    refine ⟨location, _, found, held, fun other => ?_⟩
    split
    · next here => rw [here, held, ← processed.bytes_eq]
    · rfl
  | written found held processed =>
    refine ⟨_, _, found, held, fun other => ?_⟩
    rw [← processed.bytes_eq]
    exact FileSystem.node?_put (FileSystem.ne_nil_of_node?_file held) _ other

/-! ## A run -/

/-- The paths that lead to a place. -/
def leadingTo (files : FileSystem) (location : Location) (paths : List String) : List String :=
  paths.filter fun path => files.find path = .ok location

theorem mem_leadingTo_iff : path ∈ leadingTo files location paths ↔
    path ∈ paths ∧ files.find path = .ok location := by
  simp [leadingTo]

/-- New bytes in files bring no path elsewhere. -/
theorem leadingTo_congr (same : files.SameShape after) :
    leadingTo files location paths = leadingTo after location paths := by
  simp only [leadingTo, same.find_eq]

/-- A run leaves all ways. -/
theorem sameShape_of_rewriteFilesBy
    (went : execOn files (rewriteFilesBy rewriting order) = (.ok done, after)) :
    files.SameShape after := by
  induction order generalizing files done with
  | nil =>
    obtain rfl := (Prod.mk.inj went).2
    exact .refl _
  | cons path later ih =>
    obtain ⟨outcome, between, later, first, wentLater, -⟩ := execOn_rewriteFilesBy_cons.1 went
    exact (exists_rewritten_of_rewriteFileBy first).1.trans (ih wentLater)

/-- A run that went well has come to each path that it tells of, after those that it tells of before. -/
theorem exists_reached {before later : List (String × Outcome)}
    (went : execOn files (rewriteFilesBy rewriting order) = (.ok done, after))
    (listed : done = before ++ (path, outcome) :: later) :
    ∃ between next, execOn files (rewriteFilesBy rewriting (before.map (·.1))) = (.ok before, between) ∧
      execOn between (rewriteFileBy rewriting path) = (.ok outcome, next) := by
  induction before generalizing files order done with
  | nil =>
    subst listed
    cases order with
    | nil => cases went
    | cons first order =>
      obtain ⟨_, next, _, ran, -, told⟩ := execOn_rewriteFilesBy_cons.1 went
      cases told
      exact ⟨files, next, rfl, ran⟩
  | cons entry before ih =>
    subst listed
    cases order with
    | nil => cases went
    | cons first order =>
      obtain ⟨_, after', _, ran, wentLater, told⟩ := execOn_rewriteFilesBy_cons.1 went
      cases told
      obtain ⟨between, next, reached, here⟩ := ih wentLater rfl
      exact ⟨between, next, execOn_rewriteFilesBy_cons.2 ⟨_, _, _, ran, reached, rfl⟩, here⟩

/-- Places that no path of a run leads to are as they were. -/
theorem node?_eq_of_rewriteFilesBy
    (went : execOn files (rewriteFilesBy rewriting order) = (.ok done, after))
    (elsewhere : ∀ path ∈ order, files.find path ≠ .ok location) :
    after.node? location = files.node? location := by
  induction order generalizing files done with
  | nil =>
    cases went
    rfl
  | cons path order ih =>
    obtain ⟨_, between, _, ran, wentLater, -⟩ := execOn_rewriteFilesBy_cons.1 went
    obtain ⟨same, place, content, found, held, changed⟩ := exists_rewritten_of_rewriteFileBy ran
    obtain ⟨notHere, notLater⟩ := List.forall_mem_cons.1 elsewhere
    have other : location ≠ place := by
      rintro rfl
      exact notHere found
    rw [← (changed location).trans (if_neg other)]
    refine ih wentLater fun path isLater => ?_
    rw [← same.find_eq]
    exact notLater path isLater

/-- A path that leads to no file of a run reads as before. -/
theorem read_eq_of_rewriteFilesBy
    (went : execOn files (rewriteFilesBy rewriting order) = (.ok done, after))
    (apart : ∀ taken ∈ order, files.Apart taken path) : after.read path = files.read path :=
  (sameShape_of_rewriteFilesBy went).read_eq fun location leads =>
    node?_eq_of_rewriteFilesBy went fun taken isTaken found => apart taken isTaken location found leads

/-- A run over a root that went well is a run over some files. -/
theorem exists_rewriteFilesBy_of_rewriteAll {config : Config} {matcher : Matcher} {root : String}
    (went : execOn files (rewriteAll config matcher root) = (.ok done, after)) :
    ∃ paths, execOn files (rewriteFilesBy (rewrite config.attributes matcher) paths) =
      (.ok done, after) := by
  obtain ⟨paths, between, collected, wentLater⟩ := execOn_bind_eq_ok.1 went
  have unchanged := looksOnly_collect config root files
  rw [collected] at unchanged
  cases unchanged
  exact ⟨paths, wentLater⟩

/-- In a run a file is rewritten under each path that leads to it, one after the other. -/
theorem node?_of_rewriteFilesBy
    (went : execOn files (rewriteFilesBy rewriting order) = (.ok done, after))
    (held : files.node? location = some (.file content)) :
    after.node? location = some (.file
      ((leadingTo files location order).foldl (contentAfter rewriting) content)) := by
  induction order generalizing files content done with
  | nil =>
    obtain rfl := (Prod.mk.inj went).2
    exact held
  | cons path later ih =>
    obtain ⟨outcome, between, later, first, wentLater, -⟩ := execOn_rewriteFilesBy_cons.1 went
    obtain ⟨same, place, content', found, held', changed⟩ := exists_rewritten_of_rewriteFileBy first
    have now := changed location
    by_cases here : location = place
    · subst here
      obtain rfl : content = content' := by simpa [held] using held'
      rw [if_pos rfl] at now
      rw [ih wentLater now, leadingTo_congr same]
      simp [leadingTo, ← same.find_eq, found]
    · rw [if_neg here, held] at now
      rw [ih wentLater now, leadingTo_congr same]
      have elsewhere : ¬files.find path = .ok location := by
        rw [found]
        exact fun leads => here (Except.ok.inj leads).symm
      simp [leadingTo, ← same.find_eq, elsewhere]

/-- Where all that follows leaves what the first one made, one rewriting is all that shows. -/
theorem foldl_contentAfter_cons
    (settles : ∀ later ∈ paths, contentAfter rewriting (contentAfter rewriting content path) later =
      contentAfter rewriting content path) :
    (path :: paths).foldl (contentAfter rewriting) content = contentAfter rewriting content path := by
  induction paths with
  | nil => rfl
  | cons later paths ih =>
    rw [List.foldl_cons, List.foldl_cons, settles later List.mem_cons_self]
    exact ih fun later' isLater => settles later' (List.mem_cons_of_mem _ isLater)

/-- Under neither path is anything left to rewrite after the other. -/
def Settle (rewriting : Rewriting) (content : Utf8.Bytes) (path path' : String) : Prop :=
  contentAfter rewriting (contentAfter rewriting content path) path' =
      contentAfter rewriting content path ∧
    contentAfter rewriting (contentAfter rewriting content path') path =
      contentAfter rewriting content path'

theorem Settle.symm {path' : String} (settle : Settle rewriting content path path') :
    Settle rewriting content path' path :=
  ⟨settle.2, settle.1⟩

/-- A run in any order: ways are as they were, and a file is rewritten under each path of the run that
leads to it, one after the other. It ends with its own bytes or with what one rewriting makes of them when
a second rewriting would find nothing to do, and so when at most one path leads to it. The program makes
such a run. -/
theorem rewriteAllBy_shared {config : Config} (rewriting : Rewriting) {root : String}
    (collected : (execOn files (collect config root)).1 = .ok paths) (same : order.Perm paths)
    (went : execOn files (rewriteFilesBy rewriting order) = (.ok done, after)) :
    execOn files (rewriteAllBy config rewriting root) =
      execOn files (rewriteFilesBy rewriting paths) ∧
    files.SameShape after ∧
    ∀ location content, files.node? location = some (.file content) →
      (leadingTo files location order).Perm (leadingTo files location paths) ∧
      after.node? location = some (.file
        ((leadingTo files location order).foldl (contentAfter rewriting) content)) ∧
      ((leadingTo files location paths).Pairwise (Settle rewriting content) →
        after.node? location = some (.file content) ∨
        ∃ path ∈ paths, files.find path = .ok location ∧
          after.node? location = some (.file (contentAfter rewriting content path))) := by
  refine ⟨execOn_rewriteAllBy collected, sameShape_of_rewriteFilesBy went,
    fun location content held => ?_⟩
  have leading : (leadingTo files location order).Perm (leadingTo files location paths) :=
    same.filter _
  have ended := node?_of_rewriteFilesBy went held
  refine ⟨leading, ended, fun settle => ?_⟩
  have settle' := settle.perm leading.symm Settle.symm
  cases leads : leadingTo files location order with
  | nil =>
    rw [leads] at ended
    exact .inl ended
  | cons path later =>
    rw [leads] at ended settle'
    have first := mem_leadingTo_iff.1 (leads ▸ List.mem_cons_self : path ∈ leadingTo files location order)
    refine .inr ⟨path, same.mem_iff.1 first.1, first.2, ?_⟩
    rw [ended, foldl_contentAfter_cons fun later' isLater =>
      (List.rel_of_pairwise_cons settle' isLater).1]

/-! ## A link to a source file -/

/-- Two source files, and a link to the first of them. -/
def sharedFiles : FileSystem where
  nodes := [(["a.tsx"], .file (Text.Utf8.encode oneClassText)), (["b.tsx"], .link "a.tsx"),
    (["c.tsx"], .file (Text.Utf8.encode oneClassText))]
  current := []

/-- The new name of a class is the old name of another. -/
def chainedMap : RenameMap := .ofList [("p-1", "p-2"), ("p-2", "p-3")]

/-- The map made ready. -/
def chainedRenames : Matcher where
  map := chainedMap
  olds := ["p-1".toList, "p-2".toList]

theorem ofMap_chainedMap : Matcher.ofMap chainedMap = chainedRenames := by
  have sorted : ["p-1".toList, "p-2".toList].Pairwise fun a b => Matcher.longerFirst a b = true := by
    decide +kernel
  have olds : (chainedMap.keys.filter (!·.isEmpty)).map String.toList =
      ["p-1".toList, "p-2".toList] := by
    decide +kernel
  rw [Matcher.ofMap, olds, List.mergeSort_of_pairwise sorted, chainedRenames]

/-- In one run the file with two paths is rewritten twice, the other one once. -/
theorem rewriteAllBy_shared_twice :
    (execOn sharedFiles (collect {} ".")).1 = .ok ["./a.tsx", "./b.tsx", "./c.tsx"] ∧
    (∀ path ∈ ["./a.tsx", "./b.tsx", "./c.tsx"],
      contentAfter (rewrite {} (.ofMap chainedMap)) (Text.Utf8.encode oneClassText) path =
        Text.Utf8.encode "<a className='p-2'/>") ∧
    ∃ after, (execOn sharedFiles (rewriteAll {} (.ofMap chainedMap) ".")).2 = after ∧
      after.node? ["a.tsx"] = some (.file (Text.Utf8.encode "<a className='p-3'/>")) ∧
      after.node? ["c.tsx"] = some (.file (Text.Utf8.encode "<a className='p-2'/>")) := by
  rw [ofMap_chainedMap]
  have sorted : ["./a.tsx", "./b.tsx", "./c.tsx"].Pairwise fun a b => Path.upTo a b = true := by
    decide +kernel
  have collected : (execOn sharedFiles (collect {} ".")).1 =
      .ok ["./a.tsx", "./b.tsx", "./c.tsx"] := by
    rw [← List.mergeSort_of_pairwise sorted]
    exact collect_folder (by decide +kernel) (by decide +kernel)
  have once : ∀ path ∈ ["./a.tsx", "./b.tsx", "./c.tsx"],
      contentAfter (rewrite {} chainedRenames) (Text.Utf8.encode oneClassText) path =
        Text.Utf8.encode "<a className='p-2'/>" := by
    decide +kernel
  have goesWell : (execOn sharedFiles (rewriteFilesBy (rewrite {} chainedRenames)
      ["./a.tsx", "./b.tsx", "./c.tsx"])).1.isOk = true := by
    decide +kernel
  have twice : (leadingTo sharedFiles ["a.tsx"] ["./a.tsx", "./b.tsx", "./c.tsx"]).foldl
      (contentAfter (rewrite {} chainedRenames)) (Text.Utf8.encode oneClassText) =
        Text.Utf8.encode "<a className='p-3'/>" := by
    decide +kernel
  have alone : leadingTo sharedFiles ["c.tsx"] ["./a.tsx", "./b.tsx", "./c.tsx"] = ["./c.tsx"] := by
    decide +kernel
  cases ran : execOn sharedFiles (rewriteFilesBy (rewrite {} chainedRenames)
      ["./a.tsx", "./b.tsx", "./c.tsx"]) with
  | mk result after =>
  rw [ran] at goesWell
  cases result with
  | error failure => cases goesWell
  | ok done =>
    obtain ⟨program, -, ends⟩ :=
      rewriteAllBy_shared (rewrite {} chainedRenames) collected (List.Perm.refl _) ran
    have first := (ends ["a.tsx"] (Text.Utf8.encode oneClassText) (by decide +kernel)).2.1
    have last := (ends ["c.tsx"] (Text.Utf8.encode oneClassText) (by decide +kernel)).2.1
    rw [twice] at first
    rw [alone, List.foldl_cons, once _ (by decide)] at last
    refine ⟨collected, once, after, ?_, first, last⟩
    rw [rewriteAll, program, ran]

end ClassRename.Sources
