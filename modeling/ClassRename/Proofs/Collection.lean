import ClassRename.Proofs.Files.Entries
import ClassRename.Proofs.PathsAlong

/-! # What a collection takes

A folder is looked through to where files lie, links followed. What is collected from it are the files below
it that would be taken if each were the root itself, in the strict order of their paths.
-/

namespace ClassRename

namespace FileSystem

/-- Below the folder names lead, links followed, through folders to a file. -/
inductive HasFile (files : FileSystem) : (folder : String) → (names : List String) → Prop
  | file {folder name : String} : isFileName name = true →
    files.kindOf (Path.join folder name) = .ok .file → HasFile files folder [name]
  | inside {folder name : String} {names : List String} : isFileName name = true →
    files.kindOf (Path.join folder name) = .ok .folder →
    HasFile files (Path.join folder name) names → HasFile files folder (name :: names)

theorem HasFile.areNames {files : FileSystem} {folder : String} {names : List String}
    (has : files.HasFile folder names) : ∀ name ∈ names, isFileName name = true := by
  induction has with
  | file isName => exact List.forall_mem_singleton.2 isName
  | inside isName _ _ ih => exact List.forall_mem_cons.2 ⟨isName, ih⟩

theorem HasFile.ne_nil {files : FileSystem} {folder : String} {names : List String}
    (has : files.HasFile folder names) : names ≠ [] := by
  cases has with
  | file => exact List.cons_ne_nil _ _
  | inside => exact List.cons_ne_nil _ _

theorem HasFile.kindOf_under {files : FileSystem} {folder : String} {names : List String}
    (has : files.HasFile folder names) : files.kindOf (Path.under folder names) = .ok .file := by
  induction has with
  | file _ leads => exact leads
  | inside _ _ _ ih => exact ih

end FileSystem

namespace Sources

open FileSystem

variable {files : FileSystem} {config : Config} {depth : Nat} {ancestors : List String}
  {root folder path entry : String} {paths part names : List String} {place : Location} {node : FileNode}
  {kind : FileKind}

/-! ## One folder -/

/-- What is collected below a folder is what is collected at its entries, one after the other. -/
theorem below_eq_ok_iff : answerOn files (below config (depth + 1) ancestors folder) = .ok paths ↔
    ∃ (here : String) (pairs : List ((String × FileKind) × List String)),
      files.entriesOf folder = .ok (pairs.map Prod.fst) ∧ files.canonical folder = .ok here ∧
      (∀ pair ∈ pairs, answerOn files (entryBelow config depth (here :: ancestors)
        (Path.join folder pair.1.1) pair.1.2) = .ok pair.2) ∧
      pairs.flatMap Prod.snd = paths := by
  rw [answerOn_below]
  simp only [bind_eq_ok_iff, mapError_eq_ok_iff, mapM_eq_ok_iff, Except.ok.injEq, List.flatMap]
  constructor
  · rintro ⟨_, listed, here, named, _, ⟨pairs, rfl, rfl, each⟩, rfl⟩
    exact ⟨here, pairs, listed, named, each, rfl⟩
  · rintro ⟨here, pairs, listed, named, each, rfl⟩
    exact ⟨_, listed, here, named, _, ⟨pairs, rfl, rfl, each⟩, rfl⟩

/-- What is followed to its end is of the kind that its path leads to. -/
theorem kindOf_of_followed (found : files.find folder = .ok place)
    (isFolder : files.node? place = some .folder) (isName : isFileName entry = true)
    (held : files.node? (entry :: place) = some node)
    (ended : answerOn files (followed ancestors (Path.join folder entry) node.kind) = .ok kind) :
    files.kindOf (Path.join folder entry) = .ok kind := by
  by_cases link : node.kind = .link
  · rw [link, answerOn_followed_link, bind_eq_ok_iff] at ended
    obtain ⟨kind', looked, rest⟩ := ended
    have looked := mapError_eq_ok_iff.1 looked
    split at rest
    · obtain ⟨here, -, rest⟩ := bind_eq_ok_iff.1 rest
      split at rest
      · cases rest
      · exact Except.ok.inj rest ▸ looked
    · exact Except.ok.inj rest ▸ looked
  · have same : answerOn files (followed ancestors (Path.join folder entry) node.kind) = .ok node.kind := by
      cases shown : node.kind with
      | link => exact absurd shown link
      | _ => rfl
    obtain rfl := Except.ok.inj (same.symm.trans ended)
    exact kindOf_eq_ok_iff.2 ⟨_, _, find_join found isFolder isName held link, held, rfl⟩

/-- What is collected at an entry: the file, what is below the folder, or nothing. -/
inductive Part (files : FileSystem) (config : Config) (depth : Nat) (ancestors : List String)
    (path : String) : (part : List String) → Prop
  | file {part : List String} : files.kindOf path = .ok .file →
    part = (if config.isEligible path then [path] else []) →
    Part files config depth ancestors path part
  | folder {part : List String} : files.kindOf path = .ok .folder →
    answerOn files (below config depth ancestors path) = .ok part →
    Part files config depth ancestors path part
  | neither {part : List String} : files.kindOf path ≠ .ok .file → files.kindOf path ≠ .ok .folder →
    part = [] → Part files config depth ancestors path part

theorem part_of_entryBelow (found : files.find folder = .ok place)
    (isFolder : files.node? place = some .folder) (isName : isFileName entry = true)
    (held : files.node? (entry :: place) = some node)
    (collected : answerOn files
      (entryBelow config depth ancestors (Path.join folder entry) node.kind) = .ok part) :
    Part files config depth ancestors (Path.join folder entry) part := by
  rw [answerOn_entryBelow, bind_eq_ok_iff] at collected
  obtain ⟨kind, ended, rest⟩ := collected
  have leads := kindOf_of_followed found isFolder isName held ended
  cases kind with
  | folder => exact .folder leads rest
  | file => exact .file leads (Except.ok.inj rest).symm
  | link => exact .neither (by simp [leads]) (by simp [leads]) (Except.ok.inj rest).symm
  | other => exact .neither (by simp [leads]) (by simp [leads]) (Except.ok.inj rest).symm

/-- The parts that are collected at the entries of a folder. -/
structure Parts (files : FileSystem) (config : Config) (depth : Nat) (ancestors : List String)
    (folder : String) (parts : List (String × List String)) : Prop where
  distinct : parts.Pairwise fun a b => a.1 ≠ b.1
  areNames : ∀ part ∈ parts, isFileName part.1 = true
  collected : ∀ part ∈ parts, Part files config depth ancestors (Path.join folder part.1) part.2
  covers : ∀ entry kind, isFileName entry = true → files.kindOf (Path.join folder entry) = .ok kind →
    ∃ part, (entry, part) ∈ parts

/-- What is collected below a folder is the parts of all its entries. -/
theorem exists_parts (collected : answerOn files (below config (depth + 1) ancestors folder) = .ok paths) :
    ∃ here parts, Parts files config depth (here :: ancestors) folder parts ∧
      paths = parts.flatMap Prod.snd := by
  obtain ⟨here, pairs, listed, -, each, rfl⟩ := below_eq_ok_iff.1 collected
  obtain ⟨place, found⟩ := exists_find_of_entriesOf listed
  have ofPair {pair : (String × FileKind) × List String} (member : pair ∈ pairs) :=
    of_mem_entriesOf found listed (List.mem_map_of_mem member)
  refine ⟨here, pairs.map fun pair => (pair.1.1, pair.2), ⟨?distinct, ?areNames, ?collected, ?covers⟩, ?_⟩
  case distinct =>
    have distinct := pairwise_entriesOf listed
    rw [List.pairwise_map] at distinct ⊢
    exact distinct
  case areNames => exact List.forall_mem_map.2 fun pair member => (ofPair member).2.1
  case collected =>
    refine List.forall_mem_map.2 fun pair member => ?_
    obtain ⟨isFolder, isName, node, held, same⟩ := ofPair member
    have went := each pair member
    rw [same] at went
    exact part_of_entryBelow found isFolder isName held went
  case covers =>
    intro entry kind isName leads
    obtain ⟨spot, -, found', -, -⟩ := kindOf_eq_ok_iff.1 leads
    obtain ⟨node, held⟩ := exists_node_of_find_join found isName found'
    obtain ⟨pair, isPair, same⟩ := List.mem_map.1 (mem_entriesOf found listed isName held)
    exact ⟨pair.2, List.mem_map.2 ⟨pair, isPair, by rw [same]⟩⟩
  rw [List.flatMap_map]

/-! ## The files below -/

/-- What is collected below a folder are the files there that may be changed. -/
theorem mem_below_iff (collected : answerOn files (below config depth ancestors folder) = .ok paths) :
    path ∈ paths ↔ ∃ names, files.HasFile folder names ∧ Path.under folder names = path ∧
      config.isEligible path = true := by
  -- By how deep files may lie: the first name is that of an entry, the others lead on below it.
  induction depth generalizing ancestors folder paths with
  | zero => cases collected
  | succ depth ih =>
    obtain ⟨here, parts, made, rfl⟩ := exists_parts collected
    constructor
    · intro member
      obtain ⟨part, isPart, inPart⟩ := List.mem_flatMap.1 member
      have isName := made.areNames _ isPart
      cases made.collected _ isPart with
      | file leads itself =>
        obtain ⟨eligible, rfl⟩ : config.isEligible (Path.join folder part.1) = true ∧
            path = Path.join folder part.1 := by simpa [itself] using inPart
        exact ⟨[part.1], .file isName leads, rfl, eligible⟩
      | folder leads below =>
        obtain ⟨names, has, same, eligible⟩ := (ih below).1 inPart
        exact ⟨part.1 :: names, .inside isName leads has, same, eligible⟩
      | neither _ _ none => exact absurd inPart (none ▸ List.not_mem_nil)
    · rintro ⟨names, has, rfl, eligible⟩
      rw [List.mem_flatMap]
      cases has with
      | @file _ entry isName leads =>
        obtain ⟨part, isPart⟩ := made.covers entry .file isName leads
        refine ⟨_, isPart, ?_⟩
        cases made.collected _ isPart with
        | file _ itself => exact itself ▸ by simpa using eligible
        | folder leads' => cases leads.symm.trans leads'
        | neither notFile => exact absurd leads notFile
      | @inside _ entry names isName leads has =>
        obtain ⟨part, isPart⟩ := made.covers entry .folder isName leads
        refine ⟨_, isPart, ?_⟩
        cases made.collected _ isPart with
        | file leads' => cases leads.symm.trans leads'
        | folder _ below => exact (ih below).2 ⟨names, has, rfl, eligible⟩
        | neither _ notFolder => exact absurd leads notFolder

/-- Nothing that is collected at an entry is outside of it. -/
theorem exists_names_of_mem_part (collected : Part files config depth ancestors folder part)
    (member : path ∈ part) :
    ∃ names, (∀ name ∈ names, isFileName name = true) ∧ path = Path.under folder names := by
  cases collected with
  | file _ itself =>
    obtain ⟨-, rfl⟩ : config.isEligible folder = true ∧ path = folder := by simpa [itself] using member
    exact ⟨[], List.forall_mem_nil _, rfl⟩
  | folder _ below =>
    obtain ⟨names, has, rfl, -⟩ := (mem_below_iff below).1 member
    exact ⟨names, has.areNames, rfl⟩
  | neither _ _ none => exact absurd member (none ▸ List.not_mem_nil)

/-- No file is collected twice below a folder. -/
theorem pairwise_below (filled : folder ≠ "")
    (collected : answerOn files (below config depth ancestors folder) = .ok paths) :
    paths.Pairwise fun a b => Path.steps a ≠ Path.steps b := by
  induction depth generalizing ancestors folder paths with
  | zero => cases collected
  | succ depth ih =>
    obtain ⟨here, parts, made, rfl⟩ := exists_parts collected
    refine List.pairwise_flatMap.2 ⟨fun part isPart => ?_, ?_⟩
    · cases made.collected part isPart with
      | file _ itself =>
        rw [itself]
        split <;> simp
      | folder _ below => exact ih (Path.join_ne_empty filled (made.areNames part isPart)) below
      | neither _ _ none => simp [none]
    · refine made.distinct.imp_of_mem fun {part part'} isPart isPart' distinct a inPart b inPart' same => ?_
      -- The steps after those to the folder begin with the names of the entries.
      obtain ⟨names, areNames, rfl⟩ := exists_names_of_mem_part (made.collected part isPart) inPart
      obtain ⟨names', areNames', rfl⟩ := exists_names_of_mem_part (made.collected part' isPart') inPart'
      have isName := made.areNames part isPart
      have isName' := made.areNames part' isPart'
      rw [Path.steps_under (Path.join_ne_empty filled isName) areNames, Path.steps_join filled isName,
        Path.steps_under (Path.join_ne_empty filled isName') areNames', Path.steps_join filled isName',
        List.append_assoc, List.append_assoc, List.append_cancel_left_eq] at same
      exact distinct (PathStep.name.inj (List.cons.inj same).1)

/-! ## Collections -/

/-- What is collected from a folder are the files below it that may be changed. -/
theorem mem_collect_iff (folder : files.kindOf root = .ok .folder)
    (collected : answerOn files (collect config root) = .ok paths) :
    path ∈ paths ↔ ∃ names, files.HasFile root names ∧ Path.under root names = path ∧
      config.isEligible path = true := by
  rw [answerOn_collect_folder folder] at collected
  obtain ⟨found, below, rest⟩ := bind_eq_ok_iff.1 collected
  obtain rfl := Except.ok.inj rest
  rw [List.mem_mergeSort, mem_below_iff below]

/-- What is collected from a folder is in the strict order of paths. -/
theorem pairwise_collect (folder : files.kindOf root = .ok .folder)
    (collected : answerOn files (collect config root) = .ok paths) : paths.Pairwise Path.Before := by
  have ordered := pairwise_of_collect collected
  obtain ⟨place, -, leads, -⟩ := kindOf_eq_ok_iff.1 folder
  rw [answerOn_collect_folder folder] at collected
  obtain ⟨found, below, rest⟩ := bind_eq_ok_iff.1 collected
  obtain rfl := Except.ok.inj rest
  have distinct := pairwise_below (ne_empty_of_find leads) below
  have sorted := (List.mergeSort_perm found Path.upTo).symm.pairwise distinct Ne.symm
  exact ordered.and sorted

/-- What is collected from a folder, where nothing fails, is in the strict order of paths. It holds only paths
that lead from the folder through folders to files, and of these just the ones that are collected when they
are the root. -/
theorem collect_exactly (folder : files.kindOf root = .ok .folder)
    (collected : answerOn files (collect config root) = .ok paths) :
    paths.Pairwise Path.Before ∧
      (∀ names, files.HasFile root names → (Path.under root names ∈ paths ↔
        answerOn files (collect config (Path.under root names)) = .ok [Path.under root names])) ∧
      ∀ path ∈ paths, ∃ names, files.HasFile root names ∧ path = Path.under root names := by
  refine ⟨pairwise_collect folder collected, fun names has => ?_, fun path member => ?_⟩
  · have itself : Path.under root names ∈ paths ↔ config.isEligible (Path.under root names) = true := by
      rw [mem_collect_iff folder collected]
      constructor
      · rintro ⟨names', -, same, eligible⟩
        exact same ▸ eligible
      · exact fun eligible => ⟨names, has, rfl, eligible⟩
    rw [itself, answerOn_collect_file has.kindOf_under, Except.ok.injEq]
    simp
  · obtain ⟨names, has, rfl, -⟩ := (mem_collect_iff folder collected).1 member
    exact ⟨names, has, rfl⟩

/-- A folder with a source file and a text, and a link to the folder, which is listed after it. -/
def linkedPackage : FileSystem where
  nodes := [(["index.tsx", "pkg"], .file []), (["notes.md", "pkg"], .file []), (["pkg"], .folder),
    (["lib"], .link "pkg")]
  current := []

theorem collect_exactly_linked :
    linkedPackage.kindOf "." = .ok .folder ∧
      answerOn linkedPackage (collect {} ".") = .ok ["./lib/index.tsx", "./pkg/index.tsx"] ∧
      ["./lib/index.tsx", "./pkg/index.tsx"].Pairwise Path.Before ∧
      (∀ names, linkedPackage.HasFile "." names →
        (Path.under "." names ∈ ["./lib/index.tsx", "./pkg/index.tsx"] ↔
          answerOn linkedPackage (collect {} (Path.under "." names)) = .ok [Path.under "." names])) ∧
      ∀ path ∈ ["./lib/index.tsx", "./pkg/index.tsx"],
        ∃ names, linkedPackage.HasFile "." names ∧ path = Path.under "." names := by
  have folder : linkedPackage.kindOf "." = .ok .folder := by decide +kernel
  have walked : answerOn linkedPackage (below {} depthLimit [] ".") =
      .ok ["./pkg/index.tsx", "./lib/index.tsx"] := by
    decide +kernel
  have ordered : ["./lib/index.tsx", "./pkg/index.tsx"].Pairwise Path.Before := by
    simp only [List.pairwise_pair, Path.Before]
    decide +kernel
  have collected :
      answerOn linkedPackage (collect {} ".") = .ok ["./lib/index.tsx", "./pkg/index.tsx"] := by
    rw [← Path.mergeSort_eq_of_before (List.Perm.swap _ _ _) ordered]
    exact collect_folder folder walked
  exact ⟨folder, collected, collect_exactly folder collected⟩

end Sources

end ClassRename
