import ClassRename.Proofs.Files.Entries
import ClassRename.Proofs.PathsAlong

/-! # Spellings of a path

A path can be spelled with more slashes and dots than it needs. However it is spelled, it leads to the same
folder, and so does what is joined to it lead to the same entry.
-/

namespace ClassRename

namespace Path

variable {folder folder' name : String} {names : List String}

/-- The segments of a path that lead somewhere else. -/
def moves (path : String) : List (List Char) := (segments path.toList).filter Moves

/-- Two paths go the same way, apart from segments that lead nowhere else. -/
structure SameWay (folder folder' : String) : Prop where
  filled : folder ≠ ""
  filled' : folder' ≠ ""
  absolute : isAbsolute folder = isAbsolute folder'
  moves : moves folder = moves folder'

/-- A path to an entry goes the way of the folder, and on to the entry. -/
theorem moves_join (filled : folder ≠ "") (isName : isFileName name = true) :
    Path.moves (join folder name) = Path.moves folder ++ [name.toList] := by
  obtain ⟨before, joined, leads⟩ := exists_segments_join filled isName
  have named : [name.toList].filter Moves = [name.toList] := by simp [moves_of_isFileName isName]
  have stays : [([] : List Char)].filter Moves = [] := by decide
  rw [Path.moves, joined, List.filter_append, named, Path.moves]
  rcases leads with same | slashed
  · rw [same]
  · rw [slashed, List.filter_append, stays, List.append_nil]

/-- A path along names goes the way of the folder, and on to each of them. -/
theorem moves_under (filled : folder ≠ "") (areNames : ∀ name ∈ names, isFileName name = true) :
    Path.moves (under folder names) = Path.moves folder ++ names.map String.toList := by
  induction names generalizing folder with
  | nil => simp
  | cons name names ih =>
    obtain ⟨isName, later⟩ := List.forall_mem_cons.1 areNames
    rw [under_cons, ih (join_ne_empty filled isName) later, moves_join filled isName]
    simp

theorem SameWay.refl (filled : folder ≠ "") : SameWay folder folder := ⟨filled, filled, rfl, rfl⟩

theorem SameWay.symm (same : SameWay folder folder') : SameWay folder' folder :=
  ⟨same.filled', same.filled, same.absolute.symm, same.moves.symm⟩

/-- Paths to the same entry of a folder go the same way if those to the folder do. -/
theorem SameWay.join (same : SameWay folder folder') (isName : isFileName name = true) :
    SameWay (join folder name) (join folder' name) where
  filled := join_ne_empty same.filled isName
  filled' := join_ne_empty same.filled' isName
  absolute := by rw [isAbsolute_join same.filled isName, isAbsolute_join same.filled' isName, same.absolute]
  moves := by rw [moves_join same.filled isName, moves_join same.filled' isName, same.moves]

/-- A character that only names can hold is in a path when it is in a segment that leads somewhere else. -/
theorem mem_iff_mem_moves {c : Char} {path : String} (noSlash : c ≠ '/') (noDot : c ≠ '.') :
    c ∈ path.toList ↔ ∃ segment ∈ moves path, c ∈ segment := by
  constructor
  · intro member
    obtain ⟨segment, isSegment, inside⟩ := exists_mem_segments member noSlash
    refine ⟨segment, List.mem_filter.2 ⟨isSegment, decide_eq_true ?_⟩, inside⟩
    rintro (rfl | rfl)
    · cases inside
    · exact noDot (List.mem_singleton.1 inside)
  · rintro ⟨segment, isSegment, inside⟩
    exact mem_of_mem_segments (List.mem_filter.1 isSegment).1 inside

end Path

namespace FileSystem

variable {files : FileSystem} {place : Location} {path path' folder folder' entry : String}
  {names : List String} {links : Nat} {kind : FileKind}

/-- A path to the place ends in a folder, or with a segment that leads somewhere else. -/
def EndsAt (files : FileSystem) (path : String) (place : Location) : Prop :=
  files.node? place = some .folder ∨
    ∃ before last, Path.segments path.toList = before ++ [last] ∧ Path.Moves last

theorem endsAt_join (filled : folder ≠ "") (isName : isFileName entry = true) (place : Location) :
    files.EndsAt (Path.join folder entry) place := by
  obtain ⟨before, joined, -⟩ := Path.exists_segments_join filled isName
  exact .inr ⟨before, entry.toList, joined, Path.moves_of_isFileName isName⟩

/-- Then its way is that of the segments that lead somewhere else. -/
theorem comes_startOf_iff (ended : files.EndsAt path place) :
    files.Comes links (files.startOf path) (.found place) ↔
      files.Comes links ((files.startOf path).1, Path.moves path) (.found place) := by
  rw [startOf, Path.moves]
  rcases ended with isFolder | ⟨before, last, split, moves⟩
  · rw [← List.append_nil (Path.segments path.toList), comes_filter_iff fun _ => isFolder,
      List.append_nil, List.append_nil]
  · have alone : [last].filter Path.Moves = [last] := by simp [moves]
    rw [split, List.filter_append, alone]
    exact comes_filter_iff fun empty => absurd empty (List.cons_ne_nil _ _)

/-- Paths that go the same way lead to the same folder, and to the same place if both end in a name. -/
theorem find_of_sameWay (same : Path.SameWay path path')
    (ended : files.EndsAt path place) (ended' : files.EndsAt path' place)
    (found : files.find path = .ok place) : files.find path' = .ok place := by
  obtain ⟨⟨noNul, -⟩, comes⟩ := find_iff_comes.1 found
  refine find_iff_comes.2 ⟨⟨?_, same.filled'⟩, ?_⟩
  · rw [Path.mem_iff_mem_moves (by decide) (by decide)] at noNul ⊢
    rwa [← same.moves]
  · rw [comes_startOf_iff ended] at comes
    rw [comes_startOf_iff ended', ← same.moves]
    rw [startOf] at comes ⊢
    rwa [← same.absolute]

theorem find_folder_of_sameWay (same : Path.SameWay path path') (found : files.find path = .ok place)
    (isFolder : files.node? place = some .folder) : files.find path' = .ok place :=
  find_of_sameWay same (.inl isFolder) (.inl isFolder) found

theorem find_join_of_sameWay (same : Path.SameWay folder folder') (isName : isFileName entry = true)
    (found : files.find (Path.join folder entry) = .ok place) :
    files.find (Path.join folder' entry) = .ok place :=
  find_of_sameWay (same.join isName) (endsAt_join same.filled isName place)
    (endsAt_join same.filled' isName place) found

/-- What a path leads to is what all paths to the place lead to. -/
theorem kindOf_congr (found : files.find path = .ok place) (found' : files.find path' = .ok place) :
    files.kindOf path = files.kindOf path' := by
  rw [kindOf, kindOf, found, found']

theorem entriesOf_congr (found : files.find path = .ok place) (found' : files.find path' = .ok place) :
    files.entriesOf path = files.entriesOf path' := by
  rw [entriesOf, entriesOf, found, found']

theorem canonical_congr (found : files.find path = .ok place) (found' : files.find path' = .ok place) :
    files.canonical path = files.canonical path' := by
  rw [canonical, canonical, found, found']

theorem kindOf_eq_folder_iff : files.kindOf path = .ok .folder ↔
    ∃ place, files.find path = .ok place ∧ files.node? place = some .folder := by
  rw [kindOf_eq_ok_iff]
  constructor
  · rintro ⟨place, node, found, held, isFolder⟩
    cases node with
    | folder => exact ⟨place, found, held⟩
    | file => cases isFolder
    | link => cases isFolder
  · rintro ⟨place, found, held⟩
    exact ⟨place, .folder, found, held, rfl⟩

theorem kindOf_folder_of_sameWay (same : Path.SameWay folder folder')
    (isFolder : files.kindOf folder = .ok .folder) : files.kindOf folder' = .ok .folder := by
  obtain ⟨place, found, held⟩ := kindOf_eq_folder_iff.1 isFolder
  exact kindOf_eq_folder_iff.2 ⟨place, find_folder_of_sameWay same found held, held⟩

theorem kindOf_join_of_sameWay (same : Path.SameWay folder folder') (isName : isFileName entry = true)
    (leads : files.kindOf (Path.join folder entry) = .ok kind) :
    files.kindOf (Path.join folder' entry) = .ok kind := by
  obtain ⟨place, node, found, -⟩ := kindOf_eq_ok_iff.1 leads
  rwa [← kindOf_congr found (find_join_of_sameWay same isName found)]

/-- What a path to an entry goes through is a folder. -/
theorem kindOf_folder_of_join (filled : folder ≠ "") (isName : isFileName entry = true)
    (leads : files.kindOf (Path.join folder entry) = .ok kind) : files.kindOf folder = .ok .folder := by
  obtain ⟨place, -, found, -⟩ := kindOf_eq_ok_iff.1 leads
  obtain ⟨⟨noNul, -⟩, comes⟩ := find_iff_comes.1 found
  obtain ⟨before, joined, segments⟩ := Path.exists_segments_join filled isName
  rw [startOf, joined, Path.isAbsolute_join filled isName] at comes
  obtain ⟨mid, comes, held⟩ := comes.exists_front (List.cons_ne_nil _ _)
  refine kindOf_eq_folder_iff.2 ⟨mid, find_iff_comes.2 ⟨⟨?_, filled⟩, ?_⟩, held⟩
  · rw [Path.mem_iff_mem_moves (by decide) (by decide)] at noNul ⊢
    rw [Path.moves_join filled isName] at noNul
    rintro ⟨segment, isSegment, inside⟩
    exact noNul ⟨segment, List.mem_append_left _ isSegment, inside⟩
  · rw [startOf]
    rcases segments with same | slashed
    · rwa [same]
    · rw [slashed, comes_stay_iff (by decide) fun _ => held, List.append_nil]
      exact comes

/-- What a path along names goes through are folders. -/
theorem kindOf_folder_of_under (filled : folder ≠ "") (areNames : ∀ name ∈ names, isFileName name = true)
    (isFolder : files.kindOf (Path.under folder names) = .ok .folder) :
    files.kindOf folder = .ok .folder := by
  induction names generalizing folder with
  | nil => exact isFolder
  | cons name names ih =>
    obtain ⟨isName, later⟩ := List.forall_mem_cons.1 areNames
    exact kindOf_folder_of_join filled isName (ih (Path.join_ne_empty filled isName) later isFolder)

end FileSystem

end ClassRename
