import ClassRename.Proofs.FolderPatterns

/-! # Patterns and a dot in front of a path

A dot and a slash in front of a path make another text of it, and patterns are compared with texts. To a
pattern that a path only has to end with, or whose folders may stand anywhere, they make no difference.
-/

namespace ClassRename

namespace Path

variable {folder name : String}

/-- A path to an entry ends in a slash and the name. -/
theorem exists_front_join (filled : folder ≠ "") (isName : isFileName name = true) :
    ∃ front, (join folder name).toList = front ++ '/' :: name.toList := by
  rcases join_eq filled isName with ⟨before, -, joined⟩ | joined
  · exact ⟨before, joined⟩
  · exact ⟨folder.toList, joined⟩

theorem join_ne_append_slash (filled : folder ≠ "") (isName : isFileName name = true) (text : String) :
    join folder name ≠ text ++ "/" := by
  intro same
  have last := getLast?_join_ne_slash filled isName
  rw [same, String.toList_append] at last
  exact last (by simp)

theorem fileName?_join (filled : folder ≠ "") (isName : isFileName name = true) :
    fileName? (join folder name) = some name := by
  rw [fileName?, steps_join filled isName, List.getLast?_concat]

/-- A dot in front of the path of a folder stands in front of the paths to its entries. -/
theorem join_dotted (filled : folder ≠ "") (isName : isFileName name = true) :
    join ("./" ++ folder) name = "./" ++ join folder name := by
  have same : ("./" ++ folder).toList.getLast? = folder.toList.getLast? := by
    have notEmpty : folder.toList ≠ [] := fun empty => filled (String.toList_eq_nil_iff.1 empty)
    rw [String.toList_append, List.getLast?_append_of_ne_nil _ notEmpty]
  have notEmpty : folder.isEmpty = false := by simpa using filled
  have notEmpty' : ("./" ++ folder).isEmpty = false := by simp
  rw [join, join, same, notEmpty, notEmpty', isAbsolute_of_isFileName isName]
  simp only [Bool.false_eq_true, if_false]
  split
  · exact String.append_assoc
  · rw [String.append_assoc, String.append_assoc, String.append_assoc]

end Path

/-- A pattern for folders that does not begin with a dot alone makes nothing of a dot before a path. -/
theorem folderExcludes_dotted {pattern path : String}
    (noDot : ∀ folder, folderOf? pattern = some folder → (Path.segments folder).head? ≠ some ['.']) :
    folderExcludes pattern ("./" ++ path) = folderExcludes pattern path := by
  have split : Path.segments ("./" ++ path).toList = ['.'] :: Path.segments path.toList := by
    rw [String.toList_append]
    exact Path.segments_append_slash ['.'] path.toList
  rw [Bool.eq_iff_iff, folderExcludes_iff, folderExcludes_iff, split,
    List.dropLast_cons_of_ne_nil (Path.segments_ne_nil _)]
  refine exists_congr fun folder => and_congr_right fun named => ?_
  rw [List.infix_cons_iff, or_iff_right]
  intro front
  obtain ⟨first, later, same⟩ := Path.exists_segments_eq_cons folder
  rw [same, List.cons_prefix_cons] at front
  exact noDot folder named (by rw [same, front.1]; rfl)

/-- A pattern begins with the folder that it names. -/
theorem isPrefix_of_folderOf? {pattern : String} {folder : List Char}
    (named : folderOf? pattern = some folder) : folder <+: pattern.toList := by
  rw [folderOf?] at named
  split at named
  · obtain rfl := Option.some.inj named
    rw [← List.reverse_suffix, List.reverse_reverse]
    exact List.dropWhile_suffix _
  · cases named

theorem folderOf?_eq_none {pattern : String} (noSlash : '/' ∉ pattern.toList) :
    folderOf? pattern = none := by
  have noSlash' : pattern.toList.reverse.head? ≠ some '/' := fun first =>
    noSlash (List.mem_reverse.1 (List.mem_of_mem_head? first))
  rw [folderOf?, if_neg noSlash']

namespace Glob

variable {text other : List Char}

theorem mem_suffixes_iff : text ∈ suffixes other ↔ text <:+ other := by
  induction other with
  | nil => simp [suffixes]
  | cons c rest ih => rw [suffixes, List.mem_cons, ih, List.suffix_cons_iff]

/-- A run before plain text stands for all that ends with the text. -/
theorem ofString?_run {text : String} (plain : IsPlain text.toList) :
    ofString? ("*" ++ text) = some (.run :: text.toList.map .exactly) := by
  have split : ("*" ++ text).toList = '*' :: text.toList := by simp
  rw [ofString?, split]
  cases chars : text.toList with
  | nil => simp [partsFrom?]
  | cons c rest =>
    rw [chars] at plain
    have noRun := (plain c List.mem_cons_self).1
    rw [partsFrom?.eq_def]
    simp [noRun, partsFrom?_of_isPlain plain]

theorem matchesAll_run : matchesAll (.run :: text.map .exactly) other = true ↔ text <:+ other := by
  simp only [matchesAll, List.any_eq_true, matchesAll_map_exactly, mem_suffixes_iff, exists_eq_right']

/-- Folders in front of a text may be any. -/
theorem ofString?_folders {text : String} {c : Char} {rest : List Char} (split : text.toList = c :: rest)
    (plain : IsPlain [c]) : ofString? ("**/" ++ text) =
      (partsFrom? (.part (c == '/')) rest).map fun later => .folders :: .exactly c :: later := by
  have whole : ("**/" ++ text).toList = '*' :: '*' :: '/' :: c :: rest := by simp [split]
  obtain ⟨noRun, noAny, noSet⟩ := plain c List.mem_cons_self
  have first : partsFrom? (.part true) (c :: rest) =
      (partsFrom? (.part (c == '/')) rest).map (.exactly c :: ·) := by
    rw [partsFrom?.eq_def]
    simp [noRun, noSet]
  rw [ofString?, whole, partsFrom?.eq_def]
  simp [first, Function.comp_def]

/-- A dot is one of the folders that may stand in front. -/
theorem matchesAll_folders_dotted {c : Char} {later : Glob} (noDot : c ≠ '.') :
    matchesAll (.folders :: .exactly c :: later) ('.' :: '/' :: other) =
      matchesAll (.folders :: .exactly c :: later) other := by
  have after : afterFolders ('.' :: '/' :: other) = other :: afterFolders other := rfl
  have differs : ('.' == c) = false := by simpa using Ne.symm noDot
  simp only [matchesAll, after, List.any_cons, differs, Bool.false_and, Bool.false_or]

end Glob

/-- A text without slashes stands at the end of a path exactly when it does in the name there. -/
theorem suffix_path_iff {text front name : List Char} (noSlash : '/' ∉ text) :
    text <:+ front ++ '/' :: name ↔ text <:+ name := by
  constructor
  · intro ends
    have ends' : '/' :: name <:+ front ++ '/' :: name := List.suffix_append _ _
    rcases List.suffix_or_suffix_of_suffix ends ends' with short | long
    · rcases List.suffix_cons_iff.1 short with rfl | short
      · exact absurd List.mem_cons_self noSlash
      · exact short
    · exact absurd (long.subset List.mem_cons_self) noSlash
  · intro ends
    exact (ends.trans (List.suffix_cons _ _)).trans (List.suffix_append _ _)

/-- A run before plain text excludes the paths that end with the text. -/
theorem globExcludes_run_iff {text path : String} (plain : Glob.IsPlain text.toList) :
    globExcludes ("*" ++ text) path = true ↔ text.toList <:+ path.toList ∨
      ∃ name, Path.fileName? path = some name ∧ text.toList <:+ name.toList := by
  rw [globExcludes, Glob.ofString?_run plain]
  simp only [Bool.or_eq_true, Glob.isMatch, Glob.matchesAll_run, Option.any_eq_true]

/-- Patterns that make nothing of a dot in front of a path: for folders, for a name, for the end of a name,
and for a path behind any folders. -/
inductive IgnoresDot : (pattern : String) → Prop
  | folders {folders : List String} : folders ≠ [] → (∀ folder ∈ folders, Path.IsPart folder) →
    (∀ folder ∈ folders, Glob.IsPlain folder.toList) → folders.head? ≠ some "." →
    IgnoresDot (Path.written false folders ++ "/")
  | name {text : String} : Glob.IsPlain text.toList → '/' ∉ text.toList → IgnoresDot text
  | ending {text : String} : Glob.IsPlain text.toList → '/' ∉ text.toList → IgnoresDot ("*" ++ text)
  | anywhere {text : String} {first : Char} {rest : List Char} : text.toList = first :: rest →
    Glob.IsPlain [first] → first ≠ '.' → IgnoresDot ("**/" ++ text)

section

variable {pattern folder name : String}

/-- No folder that such a pattern names is a dot. -/
theorem IgnoresDot.folderExcludes_eq (ignores : IgnoresDot pattern) (path : String) :
    folderExcludes pattern ("./" ++ path) = folderExcludes pattern path := by
  refine folderExcludes_dotted fun folder named => ?_
  cases ignores with
  | @folders folders filled parts plain noDot =>
    rw [folderOf?_append_slash (Path.getLast?_written_ne_slash filled parts false)] at named
    obtain rfl := Option.some.inj named
    rw [Path.segments_written filled parts]
    obtain ⟨first, later, rfl⟩ := List.exists_cons_of_ne_nil filled
    intro dot
    have same : first.toList = ".".toList := Option.some.inj dot
    exact noDot (congrArg some (String.toList_inj.1 same))
  | name plain noSlash => cases (folderOf?_eq_none noSlash).symm.trans named
  | @ending text plain noSlash =>
    have noSlash' : '/' ∉ ("*" ++ text).toList := by simpa using noSlash
    cases (folderOf?_eq_none noSlash').symm.trans named
  | @anywhere text first rest split plain noDot =>
    -- What is not left out at the end of the pattern begins with its first asterisk.
    have front := isPrefix_of_folderOf? named
    have whole : ("**/" ++ text).toList = '*' :: '*' :: '/' :: text.toList := by simp
    cases folder with
    | nil => simp [Path.segments]
    | cons c later =>
      rw [whole, List.cons_prefix_cons] at front
      obtain ⟨rfl, -⟩ := front
      obtain ⟨segment, segments, after⟩ := Path.exists_segments_eq_cons later
      rw [Path.segments_cons (by decide) after]
      simp

/-- The text of such a pattern stands for a path whether or not there is a dot in front of it. -/
theorem IgnoresDot.globExcludes_eq (ignores : IgnoresDot pattern) (filled : folder ≠ "")
    (isName : isFileName name = true) :
    globExcludes pattern ("./" ++ Path.join folder name) = globExcludes pattern (Path.join folder name) := by
  have named := Path.fileName?_join filled isName
  have named' : Path.fileName? ("./" ++ Path.join folder name) = some name := by
    rw [← Path.join_dotted filled isName]
    exact Path.fileName?_join (by simp) isName
  obtain ⟨front, ends⟩ := Path.exists_front_join filled isName
  have dotted : ("./" ++ Path.join folder name).toList = '.' :: '/' :: (Path.join folder name).toList := by
    simp
  have slash : '/' ∈ (Path.join folder name).toList := by simp [ends]
  cases ignores with
  | @folders folders filledFolders parts plain noDot =>
    have plain' := Path.isPlain_written filledFolders parts plain
    rw [Bool.eq_iff_iff, globExcludes_iff_of_slash plain' (by simp), globExcludes_iff_of_slash plain' (by simp),
      ← Path.join_dotted filled isName]
    exact iff_of_false (Path.join_ne_append_slash (by simp) isName _)
      (Path.join_ne_append_slash filled isName _)
  | name plain noSlash =>
    rw [Bool.eq_iff_iff, globExcludes_iff_of_isPlain plain, globExcludes_iff_of_isPlain plain, named, named',
      or_iff_right, or_iff_right]
    · rintro rfl
      exact noSlash slash
    · rintro rfl
      exact noSlash (by simp)
  | @ending text plain noSlash =>
    have ends' : ("./" ++ Path.join folder name).toList = '.' :: '/' :: front ++ '/' :: name.toList := by
      rw [dotted, ends]
      rfl
    rw [Bool.eq_iff_iff, globExcludes_run_iff plain, globExcludes_run_iff plain, named, named', ends', ends,
      suffix_path_iff noSlash, suffix_path_iff noSlash]
  | @anywhere text first rest split plain noDot =>
    rw [globExcludes, globExcludes, Glob.ofString?_folders split plain, named, named']
    cases Glob.partsFrom? (.part (first == '/')) rest with
    | none => rfl
    | some later =>
      simp only [Option.map_some, Glob.isMatch, dotted]
      rw [Glob.matchesAll_folders_dotted noDot]

end

/-- Where no pattern makes anything of a dot in front of a path, the same is excluded with it as without. -/
theorem Config.excludes_dotted {config : Config} {folder name : String}
    (ignore : ∀ pattern ∈ config.exclude, IgnoresDot pattern) (filled : folder ≠ "")
    (isName : isFileName name = true) :
    config.excludes ("./" ++ Path.join folder name) = config.excludes (Path.join folder name) := by
  rw [excludes, excludes, Bool.eq_iff_iff, List.any_eq_true, List.any_eq_true]
  refine exists_congr fun pattern => and_congr_right fun member => ?_
  rw [(ignore pattern member).globExcludes_eq filled isName, (ignore pattern member).folderExcludes_eq]

end ClassRename
