import ClassRename.FileSystem

/-! # Segments of paths

A path is its segments with slashes between them. The segments of a joined path are those of the folder
and the name of the entry; a slash at the end of the folder's path makes no difference.
-/

namespace ClassRename

/-- What a name in a folder is not. -/
theorem isFileName_iff {name : String} : isFileName name = true ↔
    name ≠ "" ∧ name ≠ "." ∧ name ≠ ".." ∧ name.utf8ByteSize ≤ 255 ∧
      ∀ c ∈ name.toList, c ≠ '/' ∧ c ≠ '\x00' := by
  simp [isFileName, and_assoc]

namespace Path

variable {c : Char} {first later : List Char} {folder name : String}

theorem segments_slash : segments ('/' :: later) = [] :: segments later := rfl

/-- A character before the first segment is part of it. -/
theorem segments_cons {segment : List Char} {segments' : List (List Char)} (noSlash : c ≠ '/')
    (after : segments later = segment :: segments') :
    segments (c :: later) = (c :: segment) :: segments' := by
  rw [segments] at after ⊢
  rw [List.foldr_cons, if_neg noSlash, after]

theorem exists_segments_eq_cons (path : List Char) :
    ∃ segment later, segments path = segment :: later := by
  induction path with
  | nil => exact ⟨[], [], rfl⟩
  | cons c rest ih =>
    obtain ⟨segment, later, split⟩ := ih
    by_cases slash : c = '/'
    · exact ⟨[], segment :: later, by rw [slash, segments_slash, split]⟩
    · exact ⟨c :: segment, later, segments_cons slash split⟩

/-- A slash separates segments. -/
theorem segments_append_slash (first later : List Char) :
    segments (first ++ '/' :: later) = segments first ++ segments later := by
  induction first with
  | nil => rfl
  | cons c first ih =>
    by_cases slash : c = '/'
    · rw [slash, List.cons_append, segments_slash, segments_slash, ih, List.cons_append]
    · obtain ⟨segment, segments', split⟩ := exists_segments_eq_cons first
      rw [segments_cons slash split, List.cons_append]
      have after : segments (first ++ '/' :: later) = segment :: (segments' ++ segments later) := by
        rw [ih, split, List.cons_append]
      exact segments_cons slash after

/-- A text without slashes is one segment. -/
theorem segments_eq_singleton (noSlash : '/' ∉ later) : segments later = [later] := by
  induction later with
  | nil => rfl
  | cons c rest ih =>
    rw [List.mem_cons, not_or] at noSlash
    exact segments_cons (Ne.symm noSlash.1) (ih noSlash.2)

theorem segments_ne_nil (path : List Char) : segments path ≠ [] := by
  obtain ⟨segment, later, split⟩ := exists_segments_eq_cons path
  exact split ▸ List.cons_ne_nil _ _

/-- Segments are what slashes separate. -/
theorem segments_eq_splitOn (path : List Char) : segments path = path.splitOn '/' := by
  induction path with
  | nil => rfl
  | cons c rest ih =>
    rw [List.splitOn, List.splitOnP_cons_eq_if_modifyHead, ← List.splitOn, ← ih]
    by_cases slash : c = '/'
    · rw [slash, segments_slash, if_pos (beq_self_eq_true _)]
    · obtain ⟨segment, later, split⟩ := exists_segments_eq_cons rest
      rw [segments_cons slash split, split, if_neg (by simpa using slash), List.modifyHead_cons]

/-- A path is told by its segments. -/
theorem segments_injective {path path' : List Char} (same : segments path = segments path') :
    path = path' := by
  have back (path : List Char) : ['/'].intercalate (segments path) = path := by
    rw [segments_eq_splitOn, List.intercalate_splitOn]
  rw [← back path, same, back]

/-- Texts without slashes are the segments of a path. -/
theorem exists_segments_eq {parts : List (List Char)} (filled : parts ≠ [])
    (plain : ∀ part ∈ parts, '/' ∉ part) : ∃ path, segments path = parts :=
  ⟨['/'].intercalate parts, by rw [segments_eq_splitOn, List.splitOn_intercalate '/' plain filled]⟩

/-- No segment holds a slash. -/
theorem slash_notMem_of_mem_segments {path segment : List Char} (member : segment ∈ segments path) :
    '/' ∉ segment := by
  induction path generalizing segment with
  | nil =>
    obtain rfl := List.mem_singleton.1 member
    exact List.not_mem_nil
  | cons c rest ih =>
    by_cases slash : c = '/'
    · rw [slash, segments_slash] at member
      rcases List.mem_cons.1 member with rfl | member
      · exact List.not_mem_nil
      · exact ih member
    · obtain ⟨first, later, split⟩ := exists_segments_eq_cons rest
      rw [segments_cons slash split] at member
      rw [split] at ih
      rcases List.mem_cons.1 member with rfl | member
      · rw [List.mem_cons, not_or]
        exact ⟨Ne.symm slash, ih List.mem_cons_self⟩
      · exact ih (List.mem_cons_of_mem _ member)

/-- A character other than a slash is in one of the segments. -/
theorem exists_mem_segments {path : List Char} (member : c ∈ path) (noSlash : c ≠ '/') :
    ∃ segment ∈ segments path, c ∈ segment := by
  induction path with
  | nil => cases member
  | cons d rest ih =>
    by_cases slash : d = '/'
    · have later := List.mem_of_ne_of_mem (slash ▸ noSlash) member
      obtain ⟨segment, isSegment, inside⟩ := ih later
      rw [slash, segments_slash]
      exact ⟨segment, List.mem_cons_of_mem _ isSegment, inside⟩
    · obtain ⟨first, segments', split⟩ := exists_segments_eq_cons rest
      rw [segments_cons slash split]
      rcases List.mem_cons.1 member with rfl | later
      · exact ⟨_, List.mem_cons_self, List.mem_cons_self⟩
      · obtain ⟨segment, isSegment, inside⟩ := ih later
        rw [split] at isSegment
        rcases List.mem_cons.1 isSegment with rfl | isLater
        · exact ⟨_, List.mem_cons_self, List.mem_cons_of_mem _ inside⟩
        · exact ⟨segment, List.mem_cons_of_mem _ isLater, inside⟩

/-- What is in a segment is in the path. -/
theorem mem_of_mem_segments {path segment : List Char} (member : segment ∈ segments path)
    (inside : c ∈ segment) : c ∈ path := by
  induction path generalizing segment with
  | nil =>
    obtain rfl := List.mem_singleton.1 member
    exact inside
  | cons d rest ih =>
    by_cases slash : d = '/'
    · rw [slash, segments_slash] at member
      rcases List.mem_cons.1 member with rfl | member
      · cases inside
      · exact List.mem_cons_of_mem _ (ih member inside)
    · obtain ⟨first, later, split⟩ := exists_segments_eq_cons rest
      rw [segments_cons slash split] at member
      rw [split] at ih
      rcases List.mem_cons.1 member with rfl | member
      · rcases List.mem_cons.1 inside with rfl | inside
        · exact List.mem_cons_self
        · exact List.mem_cons_of_mem _ (ih List.mem_cons_self inside)
      · exact List.mem_cons_of_mem _ (ih (List.mem_cons_of_mem _ member) inside)

/-- A slash ends a path only where its last segment is empty. -/
theorem getLast?_ne_slash {path : List Char} (filled : (segments path).getLast? ≠ some []) :
    path.getLast? ≠ some '/' := by
  intro ended
  obtain ⟨front, rfl⟩ := List.getLast?_eq_some_iff.1 ended
  rw [segments_append_slash] at filled
  simp [segments] at filled

/-- The segment leads somewhere else. -/
def Moves (segment : List Char) : Prop := ¬(segment = [] ∨ segment = ['.'])

instance : DecidablePred Moves := fun segment =>
  inferInstanceAs (Decidable ¬(segment = [] ∨ segment = ['.']))

/-- The name of an entry leads somewhere else. -/
theorem moves_of_isFileName (isName : isFileName name = true) : Moves name.toList := by
  obtain ⟨notEmpty, notDot, -⟩ := isFileName_iff.1 isName
  rintro (empty | dot)
  · exact notEmpty (String.toList_eq_nil_iff.1 empty)
  · exact notDot (String.toList_inj.1 dot)

/-- The name in a step is a segment of the path. -/
theorem mem_segments_of_mem_steps {path : String} (step : .name name ∈ steps path) :
    name.toList ∈ segments path.toList := by
  obtain ⟨first, later, split⟩ := exists_segments_eq_cons path.toList
  have named {segment : List Char} (step : stepOf? segment = some (.name name)) :
      segment = name.toList := by
    unfold stepOf? at step
    split at step
    · cases step
    split at step
    · cases step
    · obtain rfl := PathStep.name.inj (Option.some.inj step)
      exact String.toList_ofList.symm
  rw [steps, split, List.mem_append, List.mem_filterMap] at step
  rw [split, List.mem_cons]
  rcases step with leading | ⟨segment, member, step⟩
  · refine .inl (named ?_).symm
    split at leading
    · split at leading <;> simp at leading
    split at leading
    · simp at leading
    · exact Option.mem_toList.1 leading
  · exact .inr (named step ▸ member)

/-- The name at the end of a path holds no slash. -/
theorem slash_notMem_of_fileName? {path : String} (named : fileName? path = some name) :
    '/' ∉ name.toList := by
  unfold fileName? at named
  split at named
  · next text last =>
    cases named
    exact slash_notMem_of_mem_segments (mem_segments_of_mem_steps (List.mem_of_getLast? last))
  · cases named

/-! ## Joined paths -/

/-- The name of an entry does not start at the root. -/
theorem isAbsolute_of_isFileName (isName : isFileName name = true) : isAbsolute name = false := by
  obtain ⟨-, -, -, -, plain⟩ := isFileName_iff.1 isName
  unfold isAbsolute
  cases chars : name.toList with
  | nil => rfl
  | cons c rest =>
    have noSlash := (plain c (by simp [chars])).1
    simpa using noSlash

/-- A path to an entry of a folder. -/
theorem join_eq (filled : folder ≠ "") (isName : isFileName name = true) :
    (∃ before, folder.toList = before ++ ['/'] ∧
      (join folder name).toList = before ++ '/' :: name.toList) ∨
    (join folder name).toList = folder.toList ++ '/' :: name.toList := by
  have notEmpty' : folder.isEmpty = false := by simpa using filled
  rw [join, if_neg (by simp [isAbsolute_of_isFileName isName]), notEmpty', Bool.false_or]
  split
  · next slash =>
    obtain ⟨before, split⟩ := List.getLast?_eq_some_iff.1 (beq_iff_eq.1 slash)
    exact .inl ⟨before, split, by rw [String.toList_append, split]; simp⟩
  · exact .inr (by simp)

/-- The last segment of a path to an entry is the entry's name, the others lead to the folder. -/
theorem exists_segments_join (filled : folder ≠ "") (isName : isFileName name = true) :
    ∃ before, segments (join folder name).toList = before ++ [name.toList] ∧
      (segments folder.toList = before ∨ segments folder.toList = before ++ [[]]) := by
  obtain ⟨-, -, -, -, plain⟩ := isFileName_iff.1 isName
  have alone : segments name.toList = [name.toList] :=
    segments_eq_singleton fun slash => (plain '/' slash).1 rfl
  rcases join_eq filled isName with ⟨before, slashed, joined⟩ | joined
  · refine ⟨segments before, ?_, .inr ?_⟩
    · rw [joined, segments_append_slash, alone]
    · rw [slashed]
      exact segments_append_slash before []
  · exact ⟨segments folder.toList, by rw [joined, segments_append_slash, alone], .inl rfl⟩

/-- A path to an entry starts where the path of the folder starts. -/
theorem isAbsolute_join (filled : folder ≠ "") (isName : isFileName name = true) :
    isAbsolute (join folder name) = isAbsolute folder := by
  unfold isAbsolute
  rcases join_eq filled isName with ⟨before, slashed, joined⟩ | joined
  · rw [slashed, joined]
    cases before <;> rfl
  · rw [joined]
    cases chars : folder.toList with
    | nil => exact absurd (String.toList_eq_nil_iff.1 chars) filled
    | cons c rest => rfl

/-- A path to an entry is not empty. -/
theorem join_ne_empty (filled : folder ≠ "") (isName : isFileName name = true) :
    join folder name ≠ "" := by
  intro empty
  rcases join_eq filled isName with ⟨before, -, joined⟩ | joined
  · simp [empty] at joined
  · simp [empty] at joined

/-- A path to an entry ends in no slash. -/
theorem getLast?_join_ne_slash (filled : folder ≠ "") (isName : isFileName name = true) :
    (join folder name).toList.getLast? ≠ some '/' := by
  obtain ⟨before, joined, -⟩ := exists_segments_join filled isName
  refine getLast?_ne_slash ?_
  rw [joined, List.getLast?_concat, Ne, Option.some.injEq, String.toList_eq_nil_iff]
  exact (isFileName_iff.1 isName).1

/-- What is in a path to an entry is in the path of the folder or in the name, apart from a slash. -/
theorem mem_join (filled : folder ≠ "") (isName : isFileName name = true)
    (member : c ∈ (join folder name).toList) : c = '/' ∨ c ∈ folder.toList ∨ c ∈ name.toList := by
  rcases join_eq filled isName with ⟨before, slashed, joined⟩ | joined
  · rw [joined, List.mem_append, List.mem_cons] at member
    rcases member with inFolder | slash | inName
    · exact .inr (.inl (slashed ▸ List.mem_append_left _ inFolder))
    · exact .inl slash
    · exact .inr (.inr inName)
  · rw [joined, List.mem_append, List.mem_cons] at member
    exact or_left_comm.1 member

/-- The name of an entry is a step. -/
theorem stepOf?_toList (isName : isFileName name = true) : stepOf? name.toList = some (.name name) := by
  obtain ⟨-, -, notUp, -⟩ := isFileName_iff.1 isName
  have notUp : name.toList ≠ ['.', '.'] := fun up => notUp (String.toList_inj.1 up)
  rw [stepOf?, if_neg (moves_of_isFileName isName), if_neg notUp, String.ofList_toList]

/-- The last step of a path to an entry is the entry's name, the others lead to the folder. -/
theorem steps_join (filled : folder ≠ "") (isName : isFileName name = true) :
    steps (join folder name) = steps folder ++ [.name name] := by
  obtain ⟨before, joined, leads⟩ := exists_segments_join filled isName
  have notEmpty : segments folder.toList ≠ [[]] := fun empty =>
    filled (String.toList_eq_nil_iff.1 (segments_injective empty))
  cases before with
  | nil =>
    rcases leads with none | empty
    · exact absurd none (segments_ne_nil _)
    · exact absurd empty notEmpty
  | cons first later =>
    have named : List.filterMap stepOf? [name.toList] = [.name name] := by
      simp [stepOf?_toList isName]
    rw [steps, joined, steps]
    rcases leads with same | slashed
    · -- Without a slash at its end the path of the folder is more than a root.
      have rooted : first = [] → later ≠ [] := by
        rintro rfl rfl
        exact notEmpty same
      rw [same]
      by_cases root : first = []
      · simp [root, rooted root, named]
      · simp [root, named]
    · have stays : List.filterMap stepOf? [[]] = [] := rfl
      rw [slashed]
      simp [named, stays]

end Path

end ClassRename
