import ClassRename.Config
import ClassRename.Proofs.Path

/-! # Paths that a pattern for folders excludes

A pattern with a slash at its end keeps a file as it is when the way to the file leads on below a folder of
the name. What is joined to such a path leads through the folder too.
-/

namespace ClassRename

/-- The path leads on below a folder of the name. -/
def Path.Through (name path : String) : Prop :=
  ∃ before after, path.toList = before ++ '/' :: name.toList ++ '/' :: after

theorem occursIn_iff {part text : List Char} : occursIn part text = true ↔ part <:+: text := by
  induction text with
  | nil => rw [occursIn, List.isEmpty_iff, List.infix_nil]
  | cons c rest ih =>
    rw [occursIn, Bool.or_eq_true, List.isPrefixOf_iff_prefix, ih, List.infix_cons_iff]

/-- A pattern names the folder before its last slash, unless another slash stands there. -/
theorem folderOf?_append_slash {folder : String} (noSlash : folder.toList.getLast? ≠ some '/') :
    folderOf? (folder ++ "/") = some folder.toList := by
  have start : folder.toList.reverse.dropWhile (· == '/') = folder.toList.reverse := by
    rw [← List.head?_reverse] at noSlash
    cases chars : folder.toList.reverse with
    | nil => rfl
    | cons c rest =>
      rw [chars] at noSlash
      rw [List.dropWhile_cons, if_neg (by simpa using noSlash)]
  simp [folderOf?, start]

namespace Path.Through

variable {name path folder entry : String}

/-- A path through a folder is kept as it is by the pattern that names the folder. -/
theorem folderExcludes (through : Through name path) (isName : isFileName name = true) :
    folderExcludes (name ++ "/") path = true := by
  obtain ⟨-, -, -, -, plain⟩ := isFileName_iff.1 isName
  have noSlash : name.toList.getLast? ≠ some '/' := fun last =>
    (plain '/' (List.mem_of_getLast? last)).1 rfl
  obtain ⟨before, after, split⟩ := through
  rw [ClassRename.folderExcludes, folderOf?_append_slash noSlash]
  simp only [Bool.or_eq_true, occursIn_iff]
  exact .inl ⟨before, after, by rw [split]; simp⟩

/-- What is joined to a path through a folder leads through it too. -/
theorem join (through : Through name path) (isName : isFileName entry = true) :
    Through name (Path.join path entry) := by
  obtain ⟨before, after, split⟩ := through
  have filled : path ≠ "" := by
    rintro rfl
    simp at split
  rcases join_eq filled isName with ⟨front, slashed, joined⟩ | joined
  · have more : (Path.join path entry).toList = path.toList ++ entry.toList := by
      rw [joined, slashed]
      simp
    exact ⟨before, after ++ entry.toList, by rw [more, split]; simp⟩
  · exact ⟨before, after ++ '/' :: entry.toList, by rw [joined, split]; simp⟩

/-- A path to an entry of an entry leads through the one to the other. -/
theorem join_join (filled : folder ≠ "") (isName : isFileName name = true)
    (isName' : isFileName entry = true) :
    Through name (Path.join (Path.join folder name) entry) := by
  obtain ⟨notEmpty, -, -, -, plain⟩ := isFileName_iff.1 isName
  have ends : ∃ before, (Path.join folder name).toList = before ++ '/' :: name.toList := by
    rcases join_eq filled isName with ⟨before, -, joined⟩ | joined
    · exact ⟨before, joined⟩
    · exact ⟨folder.toList, joined⟩
  obtain ⟨before, ends⟩ := ends
  have filled' : Path.join folder name ≠ "" := by
    intro empty
    rw [empty] at ends
    simp at ends
  rcases join_eq filled' isName' with ⟨front, slashed, -⟩ | joined
  · -- The path to the first entry ends in its name, which ends in no slash.
    have last : (before ++ '/' :: name.toList).getLast? = some '/' := by
      rw [← ends, slashed]
      simp
    have nonempty : name.toList ≠ [] := fun empty => notEmpty (String.toList_eq_nil_iff.1 empty)
    rw [List.getLast?_append, List.getLast?_cons, List.getLast?_eq_some_getLast nonempty] at last
    have slash : name.toList.getLast nonempty = '/' := by simpa using last
    exact absurd slash (plain _ (List.getLast_mem nonempty)).1
  · exact ⟨before, entry.toList, by rw [joined, ends]⟩

end Path.Through

/-- A path through an excluded folder is not that of a source file that may be changed. -/
theorem Config.isEligible_eq_false {config : Config} {name path : String}
    (pattern : name ++ "/" ∈ config.exclude)
    (inside : ClassRename.folderExcludes (name ++ "/") path = true) :
    config.isEligible path = false := by
  have excluded : config.excludes path = true :=
    List.any_eq_true.2 ⟨_, pattern, by rw [inside, Bool.or_true]⟩
  rw [isEligible, excluded, Bool.not_true, Bool.and_false]

end ClassRename
