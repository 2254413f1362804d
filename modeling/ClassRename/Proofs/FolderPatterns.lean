import ClassRename.Proofs.Config
import Mathlib.Data.List.Basic

/-! # Patterns for folders

The names in a pattern with a slash at its end are searched for in the text of a path. Since slashes stand
on both sides of them there, that finds whole names only: a path is excluded exactly when the names of the
pattern follow one another among the folders on the way, and the name of the file itself does not count.
-/

namespace ClassRename

namespace Path

/-- The text of a folder stands in a path, between slashes or at the beginning, exactly when its segments
follow one another among those before the last. -/
theorem segments_infix_iff {folder path : List Char} : segments folder <:+: (segments path).dropLast ↔
    '/' :: folder ++ ['/'] <:+: path ∨ folder ++ ['/'] <+: path := by
  constructor
  · rintro ⟨before, after, split⟩
    have whole := List.dropLast_concat_getLast (segments_ne_nil path)
    rw [← split, List.append_assoc, List.append_assoc] at whole
    generalize (segments path).getLast _ = last at whole
    have plain {part : List Char} (member : part ∈ before ++ (segments folder ++ (after ++ [last]))) :
        '/' ∉ part := slash_notMem_of_mem_segments (whole ▸ member)
    have filled : after ++ [last] ≠ [] := by simp
    obtain ⟨back, splitBack⟩ := exists_segments_eq filled fun part member =>
      plain (List.mem_append_right _ (List.mem_append_right _ member))
    cases before with
    | nil =>
      refine .inr ⟨back, segments_injective ?_⟩
      rw [List.append_assoc, List.singleton_append, segments_append_slash, splitBack]
      exact whole
    | cons first before =>
      obtain ⟨front, splitFront⟩ := exists_segments_eq (List.cons_ne_nil first before) fun part member =>
        plain (List.mem_append_left _ member)
      refine .inl ⟨front, back, segments_injective ?_⟩
      simp only [List.append_assoc, List.cons_append, List.nil_append]
      rw [segments_append_slash, segments_append_slash, splitFront, splitBack]
      exact whole
  · rintro (⟨front, back, rfl⟩ | ⟨back, rfl⟩)
    · simp only [List.append_assoc, List.cons_append, List.nil_append]
      rw [segments_append_slash, segments_append_slash,
        List.dropLast_append_of_ne_nil (List.append_ne_nil_of_left_ne_nil (segments_ne_nil _) _),
        List.dropLast_append_of_ne_nil (segments_ne_nil _)]
      exact ⟨_, _, List.append_assoc ..⟩
    · rw [List.append_assoc, List.singleton_append, segments_append_slash,
        List.dropLast_append_of_ne_nil (segments_ne_nil _)]
      exact ⟨[], _, rfl⟩

end Path

/-- A pattern for folders keeps the paths that lead on below the folder. -/
theorem folderExcludes_iff {pattern path : String} : folderExcludes pattern path = true ↔
    ∃ folder, folderOf? pattern = some folder ∧
      Path.segments folder <:+: (Path.segments path.toList).dropLast := by
  rw [folderExcludes]
  cases folderOf? pattern with
  | none => simp
  | some folder =>
    simp only [Bool.or_eq_true, occursIn_iff, List.isPrefixOf_iff_prefix, Option.some.injEq,
      exists_eq_left', Path.segments_infix_iff]

/-! ## Patterns without special characters -/

namespace Glob

variable {text other : List Char}

/-- The text has none of the characters that open a special part of a pattern. -/
def IsPlain (text : List Char) : Prop := ∀ c ∈ text, c ≠ '*' ∧ c ≠ '?' ∧ c ≠ '['

instance : DecidablePred IsPlain := fun text =>
  List.decidableBAll (fun c => c ≠ '*' ∧ c ≠ '?' ∧ c ≠ '[') text

/-- Plain text stands for itself. -/
theorem partsFrom?_of_isPlain (plain : IsPlain text) (begins : Bool) :
    partsFrom? (.part begins) text = some (text.map .exactly) := by
  induction text generalizing begins with
  | nil => rfl
  | cons c rest ih =>
    obtain ⟨⟨noRun, noAny, noSet⟩, later⟩ := List.forall_mem_cons.1 plain
    rw [partsFrom?.eq_def]
    simp [noRun, noSet, ih later]

theorem matchesAll_map_exactly : matchesAll (text.map .exactly) other = true ↔ text = other := by
  induction text generalizing other with
  | nil => cases other <;> simp [matchesAll]
  | cons c rest ih =>
    cases other with
    | nil => simp [matchesAll]
    | cons d other =>
      rw [List.map_cons, matchesAll, Bool.and_eq_true, ih, beq_iff_eq, List.cons.injEq]
      exact and_congr_left' eq_comm

end Glob

/-- A pattern of plain text stands for the one path and for the one name. -/
theorem globExcludes_iff_of_isPlain {pattern path : String} (plain : Glob.IsPlain pattern.toList) :
    globExcludes pattern path = true ↔ path = pattern ∨ Path.fileName? path = some pattern := by
  have alone (text : String) :
      Glob.isMatch (pattern.toList.map .exactly) text = true ↔ text = pattern := by
    rw [Glob.isMatch, Glob.matchesAll_map_exactly, String.toList_inj, eq_comm]
  rw [globExcludes, Glob.ofString?, Glob.partsFrom?_of_isPlain plain]
  simp only [Bool.or_eq_true, alone, Option.any_eq_true, exists_eq_right]

/-- A pattern of plain text with a slash in it stands for no name. -/
theorem globExcludes_iff_of_slash {pattern path : String} (plain : Glob.IsPlain pattern.toList)
    (slash : '/' ∈ pattern.toList) : globExcludes pattern path = true ↔ path = pattern := by
  rw [globExcludes_iff_of_isPlain plain, or_iff_left]
  exact fun named => Path.slash_notMem_of_fileName? named slash

/-! ## Paths that are written out -/

namespace Path

variable {names folders : List String}

/-- The path of names with a slash between each and the next, and one in front if it starts at the root. -/
def written (rooted : Bool) (names : List String) : String :=
  (if rooted then "/" else "") ++ "/".intercalate names

/-- The name stands between two slashes, or at an end of a path. -/
structure IsPart (name : String) : Prop where
  filled : name ≠ ""
  noSlash : '/' ∉ name.toList

instance : DecidablePred IsPart := fun name =>
  decidable_of_iff (name ≠ "" ∧ '/' ∉ name.toList) ⟨fun ⟨filled, noSlash⟩ => ⟨filled, noSlash⟩,
    fun part => ⟨part.filled, part.noSlash⟩⟩

/-- The segments of a path that is written out are its names, with an empty one in front of them if it
starts at the root. -/
theorem segments_written (filled : names ≠ []) (parts : ∀ name ∈ names, IsPart name) (rooted : Bool) :
    segments (written rooted names).toList =
      (if rooted then [[]] else []) ++ names.map String.toList := by
  have between : segments ("/".intercalate names).toList = names.map String.toList := by
    have noSlash : ∀ segment ∈ names.map String.toList, '/' ∉ segment := by
      simpa using fun name member => (parts name member).noSlash
    rw [String.toList_intercalate, segments_eq_splitOn]
    exact List.splitOn_intercalate '/' noSlash (by simpa using filled)
  cases rooted with
  | false => simpa [written] using between
  | true =>
    have split : (written true names).toList = '/' :: ("/".intercalate names).toList := by
      simp [written]
    rw [split, segments_slash, between]
    rfl

/-- What a path leads through before its last name. -/
theorem dropLast_segments_written (parts : ∀ name ∈ names, IsPart name) (rooted : Bool) :
    (segments (written rooted names).toList).dropLast =
      (if rooted then [[]] else []) ++ names.dropLast.map String.toList := by
  cases names with
  | nil => cases rooted <;> rfl
  | cons first later =>
    rw [segments_written (List.cons_ne_nil _ _) parts, List.dropLast_append_of_ne_nil (by simp),
      List.map_dropLast]

/-- The names of folders are on the way exactly when they are consecutive among the names before the last. -/
theorem segments_infix_written_iff (filled : folders ≠ []) (folderParts : ∀ folder ∈ folders, IsPart folder)
    (parts : ∀ name ∈ names, IsPart name) (rooted : Bool) :
    segments (written false folders).toList <:+: (segments (written rooted names).toList).dropLast ↔
      folders <:+: names.dropLast := by
  have injective : Function.Injective (List.map String.toList) :=
    List.map_injective_iff.2 fun _ _ => String.toList_inj.1
  have names_iff : folders.map String.toList <:+: names.dropLast.map String.toList ↔
      folders <:+: names.dropLast := by
    rw [List.infix_map_iff]
    exact ⟨fun ⟨_, inside, same⟩ => injective same ▸ inside, fun inside => ⟨_, inside, rfl⟩⟩
  rw [dropLast_segments_written parts, segments_written filled folderParts, ← names_iff]
  cases rooted with
  | false => rfl
  | true =>
    -- No name is empty, so none stands where the root does.
    refine ⟨fun inside => ?_, fun inside => List.infix_cons inside⟩
    rcases List.infix_cons_iff.1 inside with front | inside
    · obtain ⟨first, later, rfl⟩ := List.exists_cons_of_ne_nil filled
      obtain ⟨empty, -⟩ := List.cons_prefix_cons.1 front
      exact absurd (String.toList_eq_nil_iff.1 empty) (folderParts first List.mem_cons_self).filled
    · exact inside

/-- A path that is written out does not end in a slash. -/
theorem getLast?_written_ne_slash (filled : names ≠ []) (parts : ∀ name ∈ names, IsPart name)
    (rooted : Bool) : (written rooted names).toList.getLast? ≠ some '/' := by
  refine getLast?_ne_slash ?_
  rw [segments_written filled parts, List.getLast?_append_of_ne_nil _ (by simpa using filled),
    List.getLast?_map, List.getLast?_eq_some_getLast filled]
  simpa using (parts _ (List.getLast_mem filled)).filled

theorem written_ne_empty (filled : folders ≠ []) (parts : ∀ folder ∈ folders, IsPart folder) :
    written false folders ≠ "" := by
  intro empty
  have alone : [[]] = folders.map String.toList := by
    have split := segments_written filled parts false
    rw [empty] at split
    exact split
  obtain ⟨folder, isFolder, same⟩ := List.mem_map.1 (alone ▸ List.mem_singleton_self [])
  exact (parts folder isFolder).filled (String.toList_eq_nil_iff.1 same)

/-- No path that is written out is that of a folder with a slash after it. -/
theorem written_ne_append_slash {folder : String} (filled : folder ≠ "")
    (parts : ∀ name ∈ names, IsPart name) (rooted : Bool) : written rooted names ≠ folder ++ "/" := by
  intro same
  have ends : (written rooted names).toList.getLast? = some '/' := by
    rw [same, String.toList_append]
    simp
  by_cases none : names = []
  · have text := congrArg String.toList same
    cases rooted with
    | false => simp [none, written] at text
    | true => exact filled (by simpa [none, written] using text)
  · exact getLast?_written_ne_slash none parts rooted ends

theorem isPlain_written (filled : folders ≠ []) (parts : ∀ folder ∈ folders, IsPart folder)
    (plain : ∀ folder ∈ folders, Glob.IsPlain folder.toList) :
    Glob.IsPlain (written false folders ++ "/").toList := by
  intro c member
  by_cases slash : c = '/'
  · subst slash
    decide
  · rw [String.toList_append, List.mem_append] at member
    have inside := member.resolve_right (by simpa using slash)
    obtain ⟨segment, isSegment, inside⟩ := exists_mem_segments inside slash
    rw [segments_written filled parts] at isSegment
    obtain ⟨folder, isFolder, rfl⟩ := List.mem_map.1 isSegment
    exact plain folder isFolder c inside

end Path

/-! ## Excluded paths -/

/-- A pattern for folders, with no special characters in it, excludes the paths in which the names of the
folders follow one another before the last name, and no others. -/
theorem Config.excludes_folders_iff {config : Config} {names folders : List String} (rooted : Bool)
    (parts : ∀ name ∈ names, Path.IsPart name) (filled : folders ≠ [])
    (folderParts : ∀ folder ∈ folders, Path.IsPart folder)
    (plain : ∀ folder ∈ folders, Glob.IsPlain folder.toList)
    (only : config.exclude = [Path.written false folders ++ "/"]) :
    config.excludes (Path.written rooted names) = true ↔ folders <:+: names.dropLast := by
  have named := folderOf?_append_slash (Path.getLast?_written_ne_slash filled folderParts false)
  have whole := Path.written_ne_append_slash (Path.written_ne_empty filled folderParts) parts rooted
  have plain' := Path.isPlain_written filled folderParts plain
  rw [excludes, only, List.any_cons, List.any_nil, Bool.or_false, Bool.or_eq_true,
    globExcludes_iff_of_slash plain' (by simp), or_iff_right whole, folderExcludes_iff, named,
    ← Path.segments_infix_written_iff filled folderParts parts rooted]
  simp

/-- The packages of one folder stay as they are. -/
def withoutPackages : Config := { exclude := ["node_modules/pkg/"] }

theorem Config.excludes_folders_iff_packages :
    withoutPackages.exclude = [Path.written false ["node_modules", "pkg"] ++ "/"] ∧
      Path.written true ["app", "node_modules", "pkg", "index.jsx"] = "/app/node_modules/pkg/index.jsx" ∧
      (withoutPackages.excludes (Path.written true ["app", "node_modules", "pkg", "index.jsx"]) = true ↔
        ["node_modules", "pkg"] <:+: ["app", "node_modules", "pkg", "index.jsx"].dropLast) := by
  have parts : ∀ name ∈ ["app", "node_modules", "pkg", "index.jsx"], Path.IsPart name := by
    decide +kernel
  have folderParts : ∀ folder ∈ ["node_modules", "pkg"], Path.IsPart folder := by
    decide +kernel
  have plain : ∀ folder ∈ ["node_modules", "pkg"], Glob.IsPlain folder.toList := by
    decide +kernel
  have only : withoutPackages.exclude = [Path.written false ["node_modules", "pkg"] ++ "/"] := by
    decide +kernel
  exact ⟨only, by decide +kernel, excludes_folders_iff true parts (by decide) folderParts plain only⟩

end ClassRename
