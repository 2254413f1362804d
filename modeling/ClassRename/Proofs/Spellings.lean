import ClassRename.Proofs.DottedPatterns
import ClassRename.Proofs.Subfolders

/-! # Spellings of a root

A root can be spelled in several ways, and it can be part of a larger one. The same files are found then; but
the patterns are compared with the paths as they are spelled, so they can exclude a file under one spelling
and not under another.
-/

namespace ClassRename

namespace Path

variable {folder : String} {names inner : List String}

theorem under_dotted (filled : folder ≠ "") (areNames : ∀ name ∈ names, isFileName name = true) :
    under ("./" ++ folder) names = "./" ++ under folder names := by
  induction names generalizing folder with
  | nil => rfl
  | cons name names ih =>
    obtain ⟨isName, later⟩ := List.forall_mem_cons.1 areNames
    rw [under_cons, under_cons, join_dotted filled isName, ih (join_ne_empty filled isName) later]

/-- A path along names from the current folder is what they are written as, after a dot. -/
theorem under_here_eq (areNames : ∀ name ∈ inner, isFileName name = true) (some : inner ≠ []) :
    under "." inner = "./" ++ written false inner := by
  rw [under_eq (by decide) (by decide) areNames some, written]
  rfl

theorem sameWay_dotted (filled : folder ≠ "") (relative : isAbsolute folder = false) :
    SameWay folder ("./" ++ folder) where
  filled := filled
  filled' := by simp
  absolute := by
    rw [relative]
    simp [isAbsolute]
  moves := by
    have split : segments ("./" ++ folder).toList = ['.'] :: segments folder.toList := by
      rw [String.toList_append]
      exact segments_append_slash ['.'] folder.toList
    have stays : ¬Moves ['.'] := by decide
    rw [moves, moves, split, List.filter_cons_of_neg (by simpa using stays)]

/-- A path whose segments are names, apart from those that lead nowhere else, goes along the names. -/
theorem sameWay_along (filled : folder ≠ "") (relative : isAbsolute folder = false)
    (areNames : ∀ name ∈ inner, isFileName name = true) (along : moves folder = inner.map String.toList) :
    SameWay folder (under "." inner) where
  filled := filled
  filled' := under_ne_empty (by decide) areNames
  absolute := by
    rw [relative, isAbsolute_under (by decide) areNames]
    rfl
  moves := by
    have here : Path.moves "." = [] := by decide +kernel
    rw [along, moves_under (by decide) areNames, here, List.nil_append]

end Path

/-- The extension of a file is that of the last name on the way, wherever it begins. -/
theorem Config.hasSourceExtension_under {config : Config} {root root' : String} {names : List String}
    (filled : root ≠ "") (filled' : root' ≠ "") (areNames : ∀ name ∈ names, isFileName name = true)
    (some : names ≠ []) : config.hasSourceExtension (Path.under root names) =
      config.hasSourceExtension (Path.under root' names) := by
  have named {root : String} (filled : root ≠ "") :
      Path.fileName? (Path.under root names) = names.getLast? := by
    rw [Path.fileName?, Path.steps_under filled areNames,
      List.getLast?_append_of_ne_nil _ (by simpa using some), List.getLast?_map]
    cases names.getLast? <;> rfl
  rw [hasSourceExtension, hasSourceExtension, Path.extension?, Path.extension?, named filled, named filled']

namespace Sources

open FileSystem

variable {files : FileSystem} {config : Config} {root root' folder : String} {names paths : List String}
  {sources : List (List String)}

/-! ## Sources under several spellings -/

/-- The source files below a folder, by the names that lead there, in their order. -/
structure SourcesBelow (files : FileSystem) (config : Config) (root : String)
    (sources : List (List String)) : Prop where
  mem_iff : ∀ names, names ∈ sources ↔
    files.HasFile root names ∧ config.hasSourceExtension (Path.under root names) = true
  ascending : sources.Pairwise Path.NamesBefore

/-- The paths of sources, as they are spelled, that no pattern excludes. -/
def kept (config : Config) (spelled : List String → String) (sources : List (List String)) :
    List String :=
  (sources.filter fun names => !config.excludes (spelled names)).map spelled

theorem mem_kept_iff {spelled : List String → String} {sources : List (List String)} {path : String} :
    path ∈ kept config spelled sources ↔
      ∃ names ∈ sources, config.excludes path = false ∧ spelled names = path := by
  simp only [kept, List.mem_map, List.mem_filter, Bool.not_eq_true']
  constructor
  · rintro ⟨names, ⟨isSource, notExcluded⟩, rfl⟩
    exact ⟨names, isSource, notExcluded, rfl⟩
  · rintro ⟨names, isSource, notExcluded, rfl⟩
    exact ⟨names, ⟨isSource, notExcluded⟩, rfl⟩

/-- A folder that is looked through without a failure has a list of its sources, whatever is excluded. -/
theorem exists_sourcesBelow (folder : files.kindOf root = .ok .folder)
    (collected : ∃ paths, answerOn files (collect config root) = .ok paths) :
    ∃ sources, SourcesBelow files config root sources := by
  obtain ⟨place, found, -⟩ := kindOf_eq_folder_iff.1 folder
  have filled := ne_empty_of_find found
  obtain ⟨all, collected⟩ :
      ∃ all, answerOn files (collect { config with exclude := [] } root) = .ok all :=
    exists_collect_of_sameWay (.refl filled) folder collected
  have eligible (path : String) :
      Config.isEligible { config with exclude := [] } path = config.hasSourceExtension path := by
    simp [Config.isEligible, Config.excludes, Config.hasSourceExtension]
  have named (path : { path // path ∈ all }) := (mem_collect_iff folder collected).1 path.2
  choose names has same source using named
  have back : (all.attach.map names).map (Path.under root) = all := by
    rw [List.map_map]
    exact (List.map_congr_left fun path _ => same path).trans (List.attach_map_subtype_val all)
  refine ⟨all.attach.map names, fun names' => ⟨?_, ?_⟩, ?_⟩
  · intro isSource
    obtain ⟨path, -, rfl⟩ := List.mem_map.1 isSource
    exact ⟨has path, by rw [← eligible, same path]; exact source path⟩
  · rintro ⟨has', source'⟩
    have member : Path.under root names' ∈ all :=
      (mem_collect_iff folder collected).2 ⟨names', has', rfl, by rw [eligible]; exact source'⟩
    refine List.mem_map.2 ⟨⟨_, member⟩, List.mem_attach _ _, ?_⟩
    exact Path.under_injective filled (has _).areNames has'.areNames (same _)
  · have ordered := pairwise_collect folder collected
    rw [← back, List.pairwise_map] at ordered
    refine ordered.imp_of_mem fun first second before => ?_
    obtain ⟨path, -, rfl⟩ := List.mem_map.1 first
    obtain ⟨path', -, rfl⟩ := List.mem_map.1 second
    exact (Path.before_under_iff filled (has path).areNames (has path').areNames).1 before

/-- The sources are the same wherever the way is. -/
theorem SourcesBelow.of_sameWay (below : SourcesBelow files config root sources)
    (same : Path.SameWay root root') : SourcesBelow files config root' sources where
  mem_iff names := by
    rw [below.mem_iff]
    constructor
    · rintro ⟨has, source⟩
      refine ⟨has.of_sameWay same, ?_⟩
      rwa [← Config.hasSourceExtension_under same.filled same.filled' has.areNames has.ne_nil]
    · rintro ⟨has, source⟩
      refine ⟨has.of_sameWay same.symm, ?_⟩
      rwa [Config.hasSourceExtension_under same.filled same.filled' has.areNames has.ne_nil]
  ascending := below.ascending

/-- From a folder those of its sources are collected that no pattern excludes. -/
theorem SourcesBelow.collect_eq (below : SourcesBelow files config root sources)
    (folder : files.kindOf root = .ok .folder)
    (collected : answerOn files (collect config root) = .ok paths) :
    paths = kept config (Path.under root) sources := by
  obtain ⟨place, found, -⟩ := kindOf_eq_folder_iff.1 folder
  have filled := ne_empty_of_find found
  refine Path.eq_of_before (pairwise_collect folder collected) ?_ fun path => ?_
  · refine List.pairwise_map.2 ((below.ascending.filter _).imp_of_mem fun first second before => ?_)
    have isSource := (below.mem_iff _).1 (List.mem_filter.1 first).1
    have isSource' := (below.mem_iff _).1 (List.mem_filter.1 second).1
    exact (Path.before_under_iff filled isSource.1.areNames isSource'.1.areNames).2 before
  · rw [mem_collect_iff folder collected, mem_kept_iff]
    constructor
    · rintro ⟨names, has, rfl, eligible⟩
      rw [Config.isEligible, Bool.and_eq_true, Bool.not_eq_true'] at eligible
      exact ⟨names, (below.mem_iff names).2 ⟨has, eligible.1⟩, eligible.2, rfl⟩
    · rintro ⟨names, isSource, notExcluded, rfl⟩
      obtain ⟨has, source⟩ := (below.mem_iff names).1 isSource
      refine ⟨names, has, rfl, ?_⟩
      rw [Config.isEligible, source, notExcluded]
      rfl

theorem kept_congr {spelled spelled' : List String → String}
    (same : ∀ names ∈ sources, spelled names = spelled' names) :
    kept config spelled sources = kept config spelled' sources := by
  unfold kept
  rw [List.filter_congr fun names isSource => by rw [same names isSource]]
  exact List.map_congr_left fun names member => same names (List.mem_filter.1 member).1

/-- The same files are kept with a dot in front exactly when the patterns take every source alike. -/
theorem kept_dotted_iff : kept config (fun names => "./" ++ Path.under folder names) sources =
      (kept config (Path.under folder) sources).map ("./" ++ ·) ↔
    ∀ names ∈ sources,
      config.excludes ("./" ++ Path.under folder names) = config.excludes (Path.under folder names) := by
  constructor
  · intro same names isSource
    have dotted : "./" ++ Path.under folder names ∈
          kept config (fun names => "./" ++ Path.under folder names) sources ↔
        config.excludes ("./" ++ Path.under folder names) = false := by
      rw [mem_kept_iff]
      constructor
      · rintro ⟨_, _, notExcluded, _⟩
        exact notExcluded
      · exact fun notExcluded => ⟨names, isSource, notExcluded, rfl⟩
    have plain : "./" ++ Path.under folder names ∈
          (kept config (Path.under folder) sources).map ("./" ++ ·) ↔
        config.excludes (Path.under folder names) = false := by
      rw [List.mem_map]
      constructor
      · rintro ⟨path, isKept, same⟩
        obtain ⟨-, -, notExcluded, -⟩ := mem_kept_iff.1 isKept
        rwa [← (String.append_right_inj "./").1 same]
      · exact fun notExcluded => ⟨_, mem_kept_iff.2 ⟨names, isSource, notExcluded, rfl⟩, rfl⟩
    rw [Bool.eq_iff_iff, ← not_iff_not, Bool.not_eq_true, Bool.not_eq_true, ← dotted, same, plain]
  · intro alike
    unfold kept
    rw [List.map_map, List.filter_congr fun names isSource => by rw [alike names isSource]]
    rfl

/-- The folder is spelled along names, apart from segments that lead nowhere else. -/
def Along (folder : String) (inner : List String) : Prop :=
  (∀ name ∈ inner, isFileName name = true) ∧ Path.moves folder = inner.map String.toList

/-- What is collected from a folder, with a dot in front of it or not, and of it as a part of the current
folder. -/
structure Respelled (files : FileSystem) (config : Config) (folder : String) (paths : List String)
    (sources : List (List String)) : Prop where
  below : SourcesBelow files config folder sources
  plain : paths = kept config (Path.under folder) sources
  dotted : answerOn files (collect config ("./" ++ folder)) =
    .ok (kept config (fun names => "./" ++ Path.under folder names) sources)
  within : ∀ inner all, Along folder inner → answerOn files (collect config ".") = .ok all →
    all.filter (Path.isBeneath (Path.under "." inner)) =
      kept config (fun names => Path.under "." (inner ++ names)) sources
  /-- If the folder is written out as names, its part is what is collected with a dot in front of it. -/
  written : ∀ inner all, Along folder inner → folder = Path.written false inner →
    answerOn files (collect config ".") = .ok all →
      answerOn files (collect config ("./" ++ folder)) = .ok (all.filter (Path.isBeneath ("./" ++ folder)))
  /-- The same files are collected exactly when the patterns take both spellings of every source alike. -/
  alike : kept config (fun names => "./" ++ Path.under folder names) sources = paths.map ("./" ++ ·) ↔
    ∀ names ∈ sources,
      config.excludes ("./" ++ Path.under folder names) = config.excludes (Path.under folder names)
  ignored : (∀ pattern ∈ config.exclude, IgnoresDot pattern) →
    kept config (fun names => "./" ++ Path.under folder names) sources = paths.map ("./" ++ ·)

/-- However a relative folder is spelled, the same sources are found below it, and it is looked through
without a failure where the current folder is. Which of the sources are collected is up to the patterns,
which are compared with paths as they are spelled. -/
theorem collect_spellings (config : Config) (relative : Path.isAbsolute folder = false)
    (isFolder : files.kindOf folder = .ok .folder) :
    ((∃ paths, answerOn files (collect config folder) = .ok paths) ↔
        ∃ paths, answerOn files (collect config ("./" ++ folder)) = .ok paths) ∧
      (∀ inner all, Along folder inner → answerOn files (collect config ".") = .ok all →
        ∃ paths, answerOn files (collect config folder) = .ok paths) ∧
      ∀ paths, answerOn files (collect config folder) = .ok paths →
        ∃ sources, Respelled files config folder paths sources := by
  obtain ⟨place, found, -⟩ := kindOf_eq_folder_iff.1 isFolder
  have filled := ne_empty_of_find found
  have dotted := Path.sameWay_dotted filled relative
  refine ⟨⟨?_, ?_⟩, ?_, ?_⟩
  · exact exists_collect_of_sameWay dotted isFolder
  · exact exists_collect_of_sameWay dotted.symm (kindOf_folder_of_sameWay dotted isFolder)
  · intro inner all along collected
    have same := Path.sameWay_along filled relative along.1 along.2
    have isFolder' := kindOf_folder_of_sameWay same isFolder
    have part := collect_under (by decide) along.1 isFolder' collected
    exact exists_collect_of_sameWay same.symm isFolder' ⟨_, part⟩
  · intro paths collected
    obtain ⟨sources, below⟩ := exists_sourcesBelow isFolder ⟨paths, collected⟩
    have plain := below.collect_eq isFolder collected
    have areNames {names : List String} (isSource : names ∈ sources) :=
      ((below.mem_iff names).1 isSource).1.areNames
    refine ⟨sources, below, plain, ?dotted, ?within, ?written, ?alike, ?ignored⟩
    case dotted =>
      have isFolder' := kindOf_folder_of_sameWay dotted isFolder
      obtain ⟨paths', collected'⟩ := exists_collect_of_sameWay dotted isFolder ⟨paths, collected⟩
      rw [collected', (below.of_sameWay dotted).collect_eq isFolder' collected']
      exact congrArg _ (kept_congr fun names isSource => Path.under_dotted filled (areNames isSource))
    case within =>
      intro inner all along collected
      have same := Path.sameWay_along filled relative along.1 along.2
      have isFolder' := kindOf_folder_of_sameWay same isFolder
      have part := collect_under (by decide) along.1 isFolder' collected
      rw [(below.of_sameWay same).collect_eq isFolder' part]
      exact kept_congr fun names _ => Path.under_append.symm
    case written =>
      rintro inner all along rfl collected
      have some : inner ≠ [] := by
        rintro rfl
        exact filled (by simp [Path.written])
      have isFolder' := kindOf_folder_of_sameWay dotted isFolder
      rw [← Path.under_here_eq along.1 some] at isFolder' ⊢
      exact collect_under (by decide) along.1 isFolder' collected
    case alike =>
      rw [plain]
      exact kept_dotted_iff
    case ignored =>
      intro ignore
      rw [plain, kept_dotted_iff]
      intro names isSource
      have some := ((below.mem_iff names).1 isSource).1.ne_nil
      obtain ⟨front, last, rfl⟩ := (List.eq_nil_or_concat' names).resolve_left some
      obtain ⟨isFront, isLast⟩ := List.forall_mem_append.1 (areNames isSource)
      rw [Path.under_append]
      exact Config.excludes_dotted ignore (Path.under_ne_empty filled isFront)
        (isLast last (List.mem_singleton_self last))

/-- A page in a folder that is no longer worked on. -/
def legacyPage : FileSystem where
  nodes := [(["a.tsx", "legacy", "src"], .file []), (["legacy", "src"], .folder), (["src"], .folder)]
  current := []

/-- Generated files and those of packages stay as they are. -/
def withoutGenerated : Config := { exclude := ["node_modules/", "*.generated.tsx"] }

theorem collect_spellings_legacy :
    Path.isAbsolute "src" = false ∧ legacyPage.kindOf "src" = .ok .folder ∧
      answerOn legacyPage (collect withoutGenerated "src") = .ok ["src/legacy/a.tsx"] ∧
      ∃ sources, Respelled legacyPage withoutGenerated "src" ["src/legacy/a.tsx"] sources := by
  have relative : Path.isAbsolute "src" = false := by decide +kernel
  have isFolder : legacyPage.kindOf "src" = .ok .folder := by decide +kernel
  have collected : answerOn legacyPage (collect withoutGenerated "src") = .ok ["src/legacy/a.tsx"] := by
    decide +kernel
  exact ⟨relative, isFolder, collected, (collect_spellings withoutGenerated relative isFolder).2.2 _ collected⟩

/-- A pattern that begins with the name of the root excludes nothing where a dot stands in front of it. -/
theorem collect_not_respelled :
    legacyPage.kindOf "src" = .ok .folder ∧
      answerOn legacyPage (collect { exclude := ["src/legacy/**"] } "src") = .ok [] ∧
      answerOn legacyPage (collect { exclude := ["src/legacy/**"] } "./src") =
        .ok ["./src/legacy/a.tsx"] ∧
      answerOn legacyPage (collect { exclude := ["src/legacy/**"] } ".") = .ok ["./src/legacy/a.tsx"] := by
  decide +kernel

end Sources

end ClassRename
