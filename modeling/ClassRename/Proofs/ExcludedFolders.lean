import ClassRename.Proofs.Config
import ClassRename.Proofs.Files.Outside
import ClassRename.Proofs.Sources

/-! # What lies in an excluded folder

A pattern with a slash at its end keeps all files below folders of a name as they are. The folders are
looked through all the same, so what lies in them can end a collection. It can do no more than that: where
no way leads into such a folder from outside, no file is collected or missed because of what is in it.
-/

namespace ClassRename.Sources

open FileSystem

variable {files files' : FileSystem} {name root folder path : String} {top place : Location}
  {config : Config} {α β : Type}

/-! ## Answers -/

/-- The collection fails at a path that the pattern for folders of the name excludes. -/
def FailsInside (name : String) (result : Except FileFailure α) : Prop :=
  ∃ failure, result = .error failure ∧ failure.activity = .list ∧
    folderExcludes (name ++ "/") failure.path = true

/-- The answers are the same unless one of them is a failure inside a folder of the name. -/
def Alike (name : String) (result result' : Except FileFailure α) : Prop :=
  result = result' ∨ FailsInside name result ∨ FailsInside name result'

/-- There is no file inside a folder of the name, though there may be a failure. -/
def Hidden (name : String) (result : Except FileFailure (List String)) : Prop :=
  result = .ok [] ∨ FailsInside name result

theorem FailsInside.bind {result : Except FileFailure α} (fails : FailsInside name result)
    (next : α → Except FileFailure β) : FailsInside name (result >>= next) := by
  obtain ⟨failure, rfl, inside⟩ := fails
  exact ⟨failure, rfl, inside⟩

theorem Alike.refl (result : Except FileFailure α) : Alike name result result := .inl rfl

theorem Alike.bind {result result' : Except FileFailure α} {next next' : α → Except FileFailure β}
    (first : Alike name result result')
    (then_ : ∀ a, result = .ok a → Alike name (next a) (next' a)) :
    Alike name (result >>= next) (result' >>= next') := by
  rcases first with same | fails | fails
  · rw [← same]
    cases result with
    | error failure => exact .refl _
    | ok a => exact then_ a rfl
  · exact .inr (.inl (fails.bind next))
  · exact .inr (.inr (fails.bind next'))

theorem Alike.mapM {f f' : α → Except FileFailure β} {as : List α}
    (each : ∀ a ∈ as, Alike name (f a) (f' a)) : Alike name (as.mapM f) (as.mapM f') := by
  induction as with
  | nil => exact .refl _
  | cons a as ih =>
    rw [List.mapM_cons, List.mapM_cons]
    refine (each a List.mem_cons_self).bind fun b _ => ?_
    exact (ih fun a' isLater => each a' (List.mem_cons_of_mem _ isLater)).bind fun bs _ => .refl _

theorem Hidden.alike {result result' : Except FileFailure (List String)} (hidden : Hidden name result)
    (hidden' : Hidden name result') : Alike name result result' := by
  rcases hidden with none | fails
  · rcases hidden' with none' | fails'
    · exact .inl (none.trans none'.symm)
    · exact .inr (.inr fails')
  · exact .inr (.inl fails)

/-- Where each of several lists is hidden, so are they together. -/
theorem Hidden.mapM {f : α → Except FileFailure (List String)} {as : List α}
    (each : ∀ a ∈ as, Hidden name (f a)) :
    Hidden name (as.mapM f >>= fun found => .ok found.flatten) := by
  induction as with
  | nil => exact .inl rfl
  | cons a as ih =>
    have later := ih fun a' isLater => each a' (List.mem_cons_of_mem _ isLater)
    rw [List.mapM_cons]
    rcases each a List.mem_cons_self with none | fails
    · rw [none]
      cases rest : as.mapM f with
      | error failure =>
        rw [rest] at later
        exact later
      | ok found =>
        rw [rest] at later
        exact later
    · exact .inr ((fails.bind _).bind _)

/-! ## The collection -/

/-- What fails when an entry is followed fails at the entry. -/
theorem path_of_followed_error {ancestors : List String} {kind : FileKind} {failure : FileFailure}
    (failed : answerOn files (followed ancestors path kind) = .error failure) :
    failure.activity = .list ∧ failure.path = path := by
  cases kind with
  | link =>
    rw [answerOn_followed_link] at failed
    cases looked : files.kindOf path with
    | error cause =>
      rw [looked] at failed
      cases failed
      exact ⟨rfl, rfl⟩
    | ok kind =>
      rw [looked] at failed
      simp only [Except.mapError, bind, Except.bind] at failed
      split at failed
      · cases named : files.canonical path with
        | error cause =>
          rw [named] at failed
          cases failed
          exact ⟨rfl, rfl⟩
        | ok folder =>
          rw [named] at failed
          dsimp only at failed
          split at failed
          · cases failed
            exact ⟨rfl, rfl⟩
          · cases failed
      · cases failed
  | _ => cases failed

/-- What fails at a path inside fails inside. -/
theorem Hidden.bind {look : Except FileError α} {next : α → Except FileFailure (List String)}
    (inside : folderExcludes (name ++ "/") path = true)
    (then_ : ∀ a, look = .ok a → Hidden name (next a)) :
    Hidden name (look.mapError (⟨.list, path, ·⟩) >>= next) := by
  cases look with
  | error cause => exact .inr ⟨_, rfl, rfl, inside⟩
  | ok a => exact then_ a rfl

/-- Where an entry inside is a folder with no files in it, there are none at the entry. -/
theorem hidden_entryBelow (pattern : name ++ "/" ∈ config.exclude)
    (inside : folderExcludes (name ++ "/") path = true) {depth : Nat} {ancestors : List String}
    (folder : Hidden name (answerOn files (below config depth ancestors path))) (kind : FileKind) :
    Hidden name (answerOn files (entryBelow config depth ancestors path kind)) := by
  rw [entryBelow, LooksOnly.answerOn_bind (looksOnly_followed _ _ _)]
  cases looked : answerOn files (followed ancestors path kind) with
  | error failure =>
    obtain ⟨listing, here⟩ := path_of_followed_error looked
    exact .inr ⟨failure, rfl, listing, here ▸ inside⟩
  | ok kind' =>
    cases kind' with
    | folder => exact folder
    | file =>
      have ineligible := Config.isEligible_eq_false pattern inside
      refine .inl ?_
      show Except.ok (if config.isEligible path then [path] else []) = _
      rw [ineligible]
      rfl
    | _ => exact .inl rfl

/-- Below a path through an excluded folder no file is collected. -/
theorem hidden_below (pattern : name ++ "/" ∈ config.exclude) (isName : isFileName name = true)
    (files : FileSystem) {depth : Nat} {ancestors : List String} (through : Path.Through name path) :
    Hidden name (answerOn files (below config depth ancestors path)) := by
  induction depth generalizing ancestors path with
  | zero => exact .inr ⟨_, rfl, rfl, through.folderExcludes isName⟩
  | succ depth ih =>
    have inside := through.folderExcludes isName
    rw [answerOn_below]
    refine Hidden.bind inside fun entries listed => Hidden.bind inside fun here _ => Hidden.mapM ?_
    rintro ⟨entry, kind⟩ member
    obtain ⟨place, found⟩ := exists_find_of_entriesOf listed
    obtain ⟨-, isEntry, -⟩ := of_mem_entriesOf found listed member
    have through' := through.join isEntry
    exact hidden_entryBelow pattern (through'.folderExcludes isName) (ih through') kind

/-- An excluded folder that can be listed has no file that is collected. -/
theorem hidden_below_of_find (pattern : name ++ "/" ∈ config.exclude) (isName : isFileName name = true)
    (filled : folder ≠ "") (found : files.find (Path.join folder name) = .ok place)
    (isFolder : files.node? place = some .folder) {depth : Nat} {ancestors : List String} :
    Hidden name (answerOn files (below config (depth + 1) ancestors (Path.join folder name))) := by
  obtain ⟨entries, listed⟩ := exists_entriesOf found isFolder
  have named : files.canonical (Path.join folder name) = .ok place.path := by
    rw [canonical, found]
    rfl
  rw [answerOn_below, listed, named]
  refine Hidden.mapM ?_
  rintro ⟨entry, kind⟩ member
  obtain ⟨-, isEntry, -⟩ := of_mem_entriesOf found listed member
  have through := Path.Through.join_join filled isName isEntry
  exact hidden_entryBelow pattern (through.folderExcludes isName)
    (hidden_below pattern isName files through) kind

/-- A folder of the name under a tracked folder: what differs in it makes no difference but for a
failure. -/
theorem alike_inside (pattern : name ++ "/" ∈ config.exclude)
    (differ : DifferBeneath name top files files') (tracked : Tracked files name top folder)
    (found : files.find folder = .ok place) (isName : isFileName name = true)
    (held : files.node? (name :: place) = some .folder) (depth : Nat) (ancestors : List String) :
    Alike name (answerOn files (below config depth ancestors (Path.join folder name)))
      (answerOn files' (below config depth ancestors (Path.join folder name))) := by
  cases depth with
  | zero => exact .refl _
  | succ depth =>
    have same := tracked.find_join_eq differ found isName held
    cases found' : files.find (Path.join folder name) with
    | error cause =>
      have failed : files.entriesOf (Path.join folder name) = .error cause := by
        rw [entriesOf, found']
        rfl
      have failed' : files'.entriesOf (Path.join folder name) = .error cause := by
        rw [entriesOf, ← same, found']
        rfl
      rw [answerOn_below, answerOn_below, failed, failed']
      exact .refl _
    | ok spot =>
      have here : spot = name :: place := by
        have noLink : FileNode.folder.kind ≠ .link := FileKind.noConfusion
        rcases leads_join_of_node found isName held noLink (leads_of_find found') with ⟨more, -⟩ | same
        · exact absurd rfl more
        · exact (Prod.mk.inj same).1
      subst here
      have held' : files'.node? (name :: place) = some .folder :=
        (differ.elsewhere (name :: place) (tracked.not_within found)).symm.trans held
      have filled := ne_empty_of_find found
      exact (hidden_below_of_find pattern isName filled found' held).alike
        (hidden_below_of_find pattern isName filled (same ▸ found') held')

/-- What a link leads to outside is the same. -/
theorem followed_eq_of_tracked (tracked : Tracked files name top path)
    (differ : DifferBeneath name top files files') (ancestors : List String) (kind : FileKind) :
    answerOn files (followed ancestors path kind) = answerOn files' (followed ancestors path kind) := by
  cases kind with
  | link =>
    rw [answerOn_followed_link, answerOn_followed_link, tracked.kindOf_eq differ,
      tracked.canonical_eq differ]
  | _ => rfl

/-- What is collected below a tracked folder is the same, unless there is a failure inside a folder of
the name. -/
theorem alike_below (pattern : name ++ "/" ∈ config.exclude)
    (differ : DifferBeneath name top files files') (stays : StaysOutside files name top root)
    (tracked : Tracked files name top folder) (depth : Nat) (ancestors : List String) :
    Alike name (answerOn files (below config depth ancestors folder))
      (answerOn files' (below config depth ancestors folder)) := by
  induction depth generalizing ancestors folder with
  | zero => exact .refl _
  | succ depth ih =>
    rw [answerOn_below, answerOn_below, ← tracked.entriesOf_eq differ, ← tracked.canonical_eq differ]
    refine Alike.bind (.refl _) fun entries listed => Alike.bind (.refl _) fun here _ =>
      Alike.bind (.mapM ?_) fun found _ => .refl _
    rintro ⟨entry, kind⟩ member
    have listed := mapError_eq_ok_iff.1 listed
    obtain ⟨place, found⟩ := exists_find_of_entriesOf listed
    obtain ⟨isFolder, isEntry, node, held, rfl⟩ := of_mem_entriesOf found listed member
    cases node with
    | file content => exact .refl _
    | folder =>
      by_cases within : Within name top (entry :: place)
      · obtain rfl := within.eq_name (tracked.not_within found)
        exact alike_inside pattern differ tracked found isEntry held depth _
      · exact ih (tracked.enter found isFolder isEntry held within) _
    | link target =>
      have tracked' := tracked.follow stays found isFolder isEntry held
      rw [entryBelow, LooksOnly.answerOn_bind (looksOnly_followed _ _ _),
        LooksOnly.answerOn_bind (looksOnly_followed _ _ _), followed_eq_of_tracked tracked' differ]
      refine Alike.bind (.refl _) fun kind _ => ?_
      cases kind with
      | folder => exact ih tracked' _
      | _ => exact .refl _

/-- Of two file systems that differ beneath folders of a name alone, where the pattern for such folders
excludes what is beneath them and no way of the collection leads into one of them from outside, the same
files are collected, unless the collection fails inside such a folder in one of them. -/
theorem collect_alike (pattern : name ++ "/" ∈ config.exclude) (found : files.find root = .ok top)
    (differ : DifferBeneath name top files files') (stays : StaysOutside files name top root) :
    Alike name (answerOn files (collect config root)) (answerOn files' (collect config root)) := by
  have tracked := stays.tracked_root found
  have looked (files : FileSystem) : answerOn files (trying .look root (FileAccess.kindOf root)) =
      (files.kindOf root).mapError (⟨.look, root, ·⟩) := rfl
  rw [collect, LooksOnly.answerOn_bind (.trying fun _ => rfl),
    LooksOnly.answerOn_bind (.trying fun _ => rfl), looked, looked, tracked.kindOf_eq differ]
  refine Alike.bind (.refl _) fun kind _ => ?_
  cases kind with
  | folder =>
    dsimp only
    rw [LooksOnly.answerOn_bind (looksOnly_below _ _ _ _), LooksOnly.answerOn_bind (looksOnly_below _ _ _ _)]
    exact (alike_below pattern differ stays tracked depthLimit []).bind fun paths _ => .refl _
  | _ => exact .refl _

/-! ## Small folders -/

/-- Files in folders of packages stay as they are. -/
def withoutModules : Config := { exclude := ["node_modules/"] }

/-- A source file, a link to it, and a folder of packages with nothing in it. -/
def emptyModules : FileSystem where
  nodes := [(["a.tsx"], .file []), (["b.tsx"], .link "a.tsx"), (["node_modules"], .folder)]
  current := []

/-- A source file and a link that leads nowhere. -/
def someModules : List (Location × FileNode) :=
  [(["c.tsx", "node_modules"], .file []), (["x", "node_modules"], .link "gone")]

theorem differBeneath_someModules :
    DifferBeneath "node_modules" [] emptyModules (adding emptyModules someModules) := by
  refine differBeneath_adding fun entry member => ?_
  simp only [someModules, List.mem_cons, List.not_mem_nil, or_false] at member
  rcases member with rfl | rfl
  · exact ⟨[], [], rfl⟩
  · exact ⟨[], [], rfl⟩

theorem staysOutside_emptyModules : StaysOutside emptyModules "node_modules" [] "." where
  root place rest leads := by
    have start : emptyModules.startOf "." = ([], [['.']]) := by decide +kernel
    rw [start] at leads
    rcases Relation.ReflTransGen.cases_head leads with same | ⟨next, step, later⟩
    · cases same
      exact not_within_top
    · cases step with
      | stay _ _ =>
        rcases Relation.ReflTransGen.cases_head later with same | ⟨next, step, -⟩
        · cases same
          exact not_within_top
        · exact absurd step not_onward_nil
      | enter _ names => exact absurd (.inr rfl) names.moves
      | follow _ names => exact absurd (.inr rfl) names.moves
  links folder entry target _ linked place rest leads := by
    have isLink : (entry :: folder, FileNode.link target) ∈ emptyModules.nodes := by
      obtain ⟨before, after, split, -⟩ := List.lookup_eq_some_iff.1 linked
      exact split ▸ List.mem_append_right _ List.mem_cons_self
    obtain ⟨⟨rfl, rfl⟩, rfl⟩ : (entry = "b.tsx" ∧ folder = []) ∧ target = "a.tsx" := by
      simpa [emptyModules] using isLink
    have stand : linkStand [] "a.tsx" = ([], ["a.tsx".toList]) := by decide +kernel
    rw [stand] at leads
    rcases leads_entry (by decide +kernel) leads with same | ⟨node, -, -, same⟩ | ⟨target, linked, -⟩
    · cases same
      exact not_within_top
    · cases same
      exact fun within => absurd (within.eq_name not_within_top) (by decide)
    · have isFile : emptyModules.node? ["a.tsx"] = some (.file []) := by decide +kernel
      cases isFile.symm.trans linked

/-- With a file and a broken link in an excluded folder a collection is alike. -/
theorem collect_alike_modules :
    DifferBeneath "node_modules" [] emptyModules (adding emptyModules someModules) ∧
    StaysOutside emptyModules "node_modules" [] "." ∧
    Alike "node_modules" (answerOn emptyModules (collect withoutModules "."))
      (answerOn (adding emptyModules someModules) (collect withoutModules ".")) :=
  ⟨differBeneath_someModules, staysOutside_emptyModules,
    collect_alike (by decide) (by decide +kernel) differBeneath_someModules staysOutside_emptyModules⟩

/-- A link into an excluded folder, in which there is a folder. -/
def linkedModules : FileSystem where
  nodes := [(["lib"], .link "node_modules/pkg"), (["pkg", "node_modules"], .folder),
    (["node_modules"], .folder)]
  current := []

/-- A source file in the folder. -/
def packageFile : List (Location × FileNode) :=
  [(["index.tsx", "pkg", "node_modules"], .file [])]

/-- What is in an excluded folder ends a collection by a broken link, and adds a file by way of a link
from outside. -/
theorem collect_not_same :
    (DifferBeneath "node_modules" [] emptyModules (adding emptyModules someModules) ∧
      answerOn emptyModules (collect withoutModules ".") = .ok ["./a.tsx", "./b.tsx"] ∧
      answerOn (adding emptyModules someModules) (collect withoutModules ".") =
        .error ⟨.list, "./node_modules/x", .missing⟩) ∧
    DifferBeneath "node_modules" [] linkedModules (adding linkedModules packageFile) ∧
      answerOn linkedModules (collect withoutModules ".") = .ok [] ∧
      answerOn (adding linkedModules packageFile) (collect withoutModules ".") =
        .ok ["./lib/index.tsx"] := by
  have sorted : ["./a.tsx", "./b.tsx"].Pairwise fun a b => Path.upTo a b = true := by decide +kernel
  have whole : answerOn emptyModules (collect withoutModules ".") = .ok ["./a.tsx", "./b.tsx"] := by
    rw [← List.mergeSort_of_pairwise sorted]
    exact collect_folder (by decide +kernel) (by decide +kernel)
  have beneath : DifferBeneath "node_modules" [] linkedModules (adding linkedModules packageFile) := by
    refine differBeneath_adding fun entry member => ?_
    obtain rfl := List.mem_singleton.1 member
    exact ⟨["pkg"], [], rfl⟩
  exact ⟨⟨differBeneath_someModules, whole, by decide +kernel⟩, beneath, by decide +kernel,
    by decide +kernel⟩

end ClassRename.Sources
