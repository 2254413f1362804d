import ClassRename.Proofs.Collection
import ClassRename.Proofs.Files.SameWay

/-! # Collections from folders below

Where a folder is looked through without a failure, so are the folders below it, whatever is excluded and
however they are spelled. What is collected from one of them is its part of what is collected from the root.
-/

namespace ClassRename

theorem FileSystem.HasFile.of_sameWay {files : FileSystem} {folder folder' : String} {names : List String}
    (has : files.HasFile folder names) (same : Path.SameWay folder folder') :
    files.HasFile folder' names := by
  induction has generalizing folder' with
  | file isName leads => exact .file isName (kindOf_join_of_sameWay same isName leads)
  | inside isName leads _ ih =>
    exact .inside isName (kindOf_join_of_sameWay same isName leads) (ih (same.join isName))

namespace Sources

open FileSystem

variable {files : FileSystem} {config config' : Config} {depth depth' : Nat}
  {ancestors ancestors' : List String} {root root' folder folder' entry : String}
  {names inner : List String} {kind kind' : FileKind}

/-! ## Collections that go well -/

theorem exists_below_iff : (∃ paths, answerOn files (below config (depth + 1) ancestors folder) = .ok paths) ↔
    ∃ entries here, files.entriesOf folder = .ok entries ∧ files.canonical folder = .ok here ∧
      ∀ entry ∈ entries, ∃ part, answerOn files (entryBelow config depth (here :: ancestors)
        (Path.join folder entry.1) entry.2) = .ok part := by
  rw [answerOn_below]
  simp only [bind_eq_ok_iff, mapError_eq_ok_iff, ← exists_mapM_iff]
  constructor
  · rintro ⟨paths, entries, listed, here, named, parts, went, -⟩
    exact ⟨entries, here, listed, named, parts, went⟩
  · rintro ⟨entries, here, listed, named, parts, went⟩
    exact ⟨_, entries, listed, here, named, parts, went, rfl⟩

/-- An entry is followed to the same kind from a folder that is spelled otherwise, with fewer folders on the
way. -/
theorem followed_of_sameWay (same : Path.SameWay folder folder') (isName : isFileName entry = true)
    (fewer : ancestors' ⊆ ancestors)
    (ended : answerOn files (followed ancestors (Path.join folder entry) kind) = .ok kind') :
    answerOn files (followed ancestors' (Path.join folder' entry) kind) = .ok kind' := by
  cases kind with
  | link =>
    rw [answerOn_followed_link, bind_eq_ok_iff] at ended ⊢
    obtain ⟨kind, looked, rest⟩ := ended
    have looked := mapError_eq_ok_iff.1 looked
    refine ⟨kind, mapError_eq_ok_iff.2 (kindOf_join_of_sameWay same isName looked), ?_⟩
    split at rest
    · next isFolder =>
      rw [if_pos isFolder, bind_eq_ok_iff]
      obtain ⟨here, named, rest⟩ := bind_eq_ok_iff.1 rest
      have named := mapError_eq_ok_iff.1 named
      obtain ⟨place, -, found, -⟩ := kindOf_eq_ok_iff.1 looked
      rw [canonical_congr found (find_join_of_sameWay same isName found)] at named
      refine ⟨here, mapError_eq_ok_iff.2 named, ?_⟩
      split at rest
      · cases rest
      · next absent =>
        rw [if_neg fun back => absent ?_]
        · exact rest
        · exact List.contains_iff_mem.2 (fewer (List.contains_iff_mem.1 back))
    · next noFolder => exact (if_neg noFolder).trans rest
  | _ => exact ended

/-- A folder is looked through without a failure where it is spelled otherwise, with fewer folders on the way
to it, and deeper. What is excluded makes no difference. -/
theorem exists_below_of_sameWay (same : Path.SameWay folder folder') (fewer : ancestors' ⊆ ancestors)
    (deeper : depth ≤ depth')
    (collected : ∃ paths, answerOn files (below config depth ancestors folder) = .ok paths) :
    ∃ paths, answerOn files (below config' depth' ancestors' folder') = .ok paths := by
  -- Fewer folders on the way are found again by fewer links, and no failure is due to what is excluded.
  induction depth generalizing depth' ancestors ancestors' folder folder' with
  | zero =>
    obtain ⟨paths, collected⟩ := collected
    cases collected
  | succ depth ih =>
    obtain ⟨entries, here, listed, named, each⟩ := exists_below_iff.1 collected
    obtain ⟨place, found⟩ := exists_find_of_entriesOf listed
    have found' := find_folder_of_sameWay same found (isFolder_of_entriesOf found listed)
    obtain ⟨depth', rfl⟩ := Nat.exists_eq_succ_of_ne_zero (Nat.ne_of_gt (Nat.zero_lt_of_lt deeper))
    rw [entriesOf_congr found found'] at listed
    rw [canonical_congr found found'] at named
    refine exists_below_iff.2 ⟨entries, here, listed, named, fun entry member => ?_⟩
    obtain ⟨part, went⟩ := each entry member
    rw [answerOn_entryBelow, bind_eq_ok_iff] at went
    obtain ⟨kind, ended, rest⟩ := went
    obtain ⟨-, isName, -⟩ := of_mem_entriesOf found' listed member
    have fewer' := List.cons_subset_cons here fewer
    have ended' := followed_of_sameWay same isName fewer' ended
    simp only [answerOn_entryBelow, bind_eq_ok_iff]
    cases kind with
    | folder =>
      obtain ⟨part', went'⟩ := ih (same.join isName) fewer' (Nat.le_of_succ_le_succ deeper) ⟨part, rest⟩
      exact ⟨part', .folder, ended', went'⟩
    | file => exact ⟨_, .file, ended', rfl⟩
    | link => exact ⟨[], .link, ended', rfl⟩
    | other => exact ⟨[], .other, ended', rfl⟩

theorem exists_collect_iff (folder : files.kindOf root = .ok .folder) :
    (∃ paths, answerOn files (collect config root) = .ok paths) ↔
      ∃ found, answerOn files (below config depthLimit [] root) = .ok found := by
  rw [answerOn_collect_folder folder]
  simp only [bind_eq_ok_iff]
  constructor
  · rintro ⟨paths, found, below, -⟩
    exact ⟨found, below⟩
  · rintro ⟨found, below⟩
    exact ⟨_, found, below, rfl⟩

theorem exists_collect_of_sameWay (same : Path.SameWay root root')
    (folder : files.kindOf root = .ok .folder)
    (collected : ∃ paths, answerOn files (collect config root) = .ok paths) :
    ∃ paths, answerOn files (collect config' root') = .ok paths :=
  (exists_collect_iff (kindOf_folder_of_sameWay same folder)).2 <|
    exists_below_of_sameWay same (List.Subset.refl []) Nat.le.refl ((exists_collect_iff folder).1 collected)

/-- Where a folder is looked through without a failure, so are the folders below it. -/
theorem exists_below_under (filled : root ≠ "") (areNames : ∀ name ∈ inner, isFileName name = true)
    (isFolder : files.kindOf (Path.under root inner) = .ok .folder)
    (collected : ∃ paths, answerOn files (below config depth ancestors root) = .ok paths) :
    ∃ depth' ≤ depth, ∃ ancestors' paths,
      answerOn files (below config depth' ancestors' (Path.under root inner)) = .ok paths := by
  induction inner generalizing root depth ancestors with
  | nil => exact ⟨depth, Nat.le.refl, ancestors, collected⟩
  | cons name inner ih =>
    obtain ⟨isName, later⟩ := List.forall_mem_cons.1 areNames
    have filled' := Path.join_ne_empty filled isName
    have leads := kindOf_folder_of_under filled' later isFolder
    obtain ⟨paths, collected⟩ := collected
    cases depth with
    | zero => cases collected
    | succ depth =>
      obtain ⟨here, parts, made, -⟩ := exists_parts collected
      obtain ⟨part, isPart⟩ := made.covers name .folder isName leads
      cases made.collected _ isPart with
      | file leads' => cases leads.symm.trans leads'
      | folder _ below =>
        obtain ⟨depth', shallower, deeper⟩ := ih filled' later isFolder ⟨_, below⟩
        exact ⟨depth', Nat.le_succ_of_le shallower, deeper⟩
      | neither _ notFolder => exact absurd leads notFolder

/-! ## Parts of collections -/

theorem hasFile_append_iff (filled : root ≠ "") (areNames : ∀ name ∈ inner, isFileName name = true)
    (isFolder : files.kindOf (Path.under root inner) = .ok .folder) (some : names ≠ []) :
    files.HasFile root (inner ++ names) ↔ files.HasFile (Path.under root inner) names := by
  induction inner generalizing root with
  | nil => rfl
  | cons name inner ih =>
    obtain ⟨isName, later⟩ := List.forall_mem_cons.1 areNames
    have filled' := Path.join_ne_empty filled isName
    rw [Path.under_cons, ← ih filled' later isFolder]
    constructor
    · intro has
      rw [List.cons_append] at has
      generalize more : inner ++ names = rest at has ⊢
      cases has with
      | file => exact absurd (List.append_eq_nil_iff.1 more).2 some
      | inside _ _ has => exact has
    · exact fun has => .inside isName (kindOf_folder_of_under filled' later isFolder) has

/-- What is collected from a folder below the root is that part of what is collected from the root. -/
theorem collect_under (filled : root ≠ "") (areNames : ∀ name ∈ inner, isFileName name = true)
    (isFolder : files.kindOf (Path.under root inner) = .ok .folder) {all : List String}
    (collected : answerOn files (collect config root) = .ok all) :
    answerOn files (collect config (Path.under root inner)) =
      .ok (all.filter (Path.isBeneath (Path.under root inner))) := by
  have filled' := Path.under_ne_empty filled areNames
  have folder := kindOf_folder_of_under filled areNames isFolder
  obtain ⟨paths, below⟩ : ∃ paths, answerOn files (collect config (Path.under root inner)) = .ok paths := by
    obtain ⟨depth, shallower, ancestors, went⟩ :=
      exists_below_under filled areNames isFolder ((exists_collect_iff folder).1 ⟨all, collected⟩)
    exact (exists_collect_iff isFolder).2
      (exists_below_of_sameWay (.refl filled') (List.nil_subset _) shallower went)
  rw [below, Except.ok.injEq]
  refine Path.eq_of_before (pairwise_collect isFolder below) ((pairwise_collect folder collected).filter _)
    fun path => ?_
  rw [mem_collect_iff isFolder below, List.mem_filter, mem_collect_iff folder collected]
  constructor
  · rintro ⟨names, has, rfl, eligible⟩
    refine ⟨⟨inner ++ names, (hasFile_append_iff filled areNames isFolder has.ne_nil).2 has,
      Path.under_append, eligible⟩, List.isPrefixOf_iff_prefix.2 ?_⟩
    rw [Path.steps_under filled' has.areNames]
    exact List.prefix_append _ _
  · rintro ⟨⟨names, has, rfl, eligible⟩, beneath⟩
    obtain ⟨later, rfl⟩ := (Path.isBeneath_under_iff filled areNames has.areNames).1 beneath
    have some : later ≠ [] := by
      rintro rfl
      rw [List.append_nil] at has
      cases isFolder.symm.trans has.kindOf_under
    exact ⟨later, (hasFile_append_iff filled areNames isFolder some).1 has, Path.under_append.symm, eligible⟩

end Sources

end ClassRename
