import ClassRename.Proofs.Path
import ClassRename.Proofs.Sources

/-! # Paths along names

Names lead from a folder to what lies below it. The paths along different names are different, and they come
in the order of the names whatever the folder is.
-/

namespace ClassRename.Path

variable {folder name : String} {names names' inner paths paths' : List String}

/-- The steps of a path come before those of another. -/
def Before (a b : String) : Prop := upTo a b = true ∧ steps a ≠ steps b

/-- Lists of paths in strict order are the same if they hold the same paths. -/
theorem eq_of_before (ordered : paths.Pairwise Before) (ordered' : paths'.Pairwise Before)
    (same : ∀ path, path ∈ paths ↔ path ∈ paths') : paths = paths' := by
  have distinct {paths : List String} (ordered : paths.Pairwise Before) : paths.Nodup :=
    ordered.imp fun before same => before.2 (congrArg steps same)
  have perm : paths.Perm paths' :=
    (List.perm_ext_iff_of_nodup (distinct ordered) (distinct ordered')).2 same
  exact perm.eq_of_pairwise (fun a b _ _ first second =>
    absurd (stepsUpTo_antisymm first.1 second.1) first.2) ordered ordered'

/-- Paths in any order are sorted into the one strict order. -/
theorem mergeSort_eq_of_before (perm : paths.Perm paths') (ordered : paths'.Pairwise Before) :
    paths.mergeSort upTo = paths' := by
  have distinct := ordered.imp And.right
  have distinct' := ((List.mergeSort_perm paths upTo).trans perm).symm.pairwise distinct Ne.symm
  refine eq_of_before ((pairwise_mergeSort_upTo paths).and distinct') ordered fun path => ?_
  rw [List.mem_mergeSort, perm.mem_iff]

/-- The path of what lies along names from a folder. -/
def under (folder : String) (names : List String) : String := names.foldl join folder

@[simp] theorem under_nil : under folder [] = folder := rfl

@[simp] theorem under_cons : under folder (name :: names) = under (join folder name) names := rfl

theorem under_ne_empty (filled : folder ≠ "") (areNames : ∀ name ∈ names, isFileName name = true) :
    under folder names ≠ "" := by
  induction names generalizing folder with
  | nil => exact filled
  | cons name names ih =>
    obtain ⟨isName, later⟩ := List.forall_mem_cons.1 areNames
    exact ih (join_ne_empty filled isName) later

theorem isAbsolute_under (filled : folder ≠ "") (areNames : ∀ name ∈ names, isFileName name = true) :
    isAbsolute (under folder names) = isAbsolute folder := by
  induction names generalizing folder with
  | nil => rfl
  | cons name names ih =>
    obtain ⟨isName, later⟩ := List.forall_mem_cons.1 areNames
    rw [under_cons, ih (join_ne_empty filled isName) later, isAbsolute_join filled isName]

/-- The steps along names are their own after those to the folder. -/
theorem steps_under (filled : folder ≠ "") (areNames : ∀ name ∈ names, isFileName name = true) :
    steps (under folder names) = steps folder ++ names.map .name := by
  induction names generalizing folder with
  | nil => simp
  | cons name names ih =>
    obtain ⟨isName, later⟩ := List.forall_mem_cons.1 areNames
    rw [under_cons, ih (join_ne_empty filled isName) later, steps_join filled isName]
    simp

theorem under_append : under folder (inner ++ names) = under (under folder inner) names :=
  List.foldl_append

/-- A path along names is their text after that of the folder. -/
theorem under_eq (filled : folder ≠ "") (noSlash : folder.toList.getLast? ≠ some '/')
    (areNames : ∀ name ∈ names, isFileName name = true) (some : names ≠ []) :
    under folder names = folder ++ "/" ++ "/".intercalate names := by
  induction names generalizing folder with
  | nil => exact absurd rfl some
  | cons name names ih =>
    obtain ⟨isName, later⟩ := List.forall_mem_cons.1 areNames
    have notEmpty : folder.isEmpty = false := by simpa using filled
    have joined : join folder name = folder ++ "/" ++ name := by
      rw [join, isAbsolute_of_isFileName isName, notEmpty]
      simp [noSlash]
    cases names with
    | nil => simp [joined]
    | cons name' names =>
      have noSlash' := getLast?_join_ne_slash filled isName
      rw [under_cons, ih (join_ne_empty filled isName) noSlash' later (List.cons_ne_nil _ _), joined,
        String.intercalate_cons_cons]
      simp only [String.append_assoc]

/-! ## The order of the paths -/

theorem map_name_injective : Function.Injective (List.map PathStep.name) :=
  List.map_injective_iff.2 fun _ _ => PathStep.name.inj

/-- The order of paths along names from a folder. -/
def NamesBefore (names names' : List String) : Prop :=
  stepsUpTo (names.map .name) (names'.map .name) = true ∧ names ≠ names'

/-- Whatever the folder is, the paths come in the order of the names. -/
theorem before_under_iff (filled : folder ≠ "") (areNames : ∀ name ∈ names, isFileName name = true)
    (areNames' : ∀ name ∈ names', isFileName name = true) :
    Before (under folder names) (under folder names') ↔ NamesBefore names names' := by
  rw [Before, upTo, steps_under filled areNames, steps_under filled areNames', stepsUpTo_append_left,
    Ne, List.append_cancel_left_eq, map_name_injective.eq_iff, NamesBefore]

/-- Paths along different names are different. -/
theorem under_injective (filled : folder ≠ "") (areNames : ∀ name ∈ names, isFileName name = true)
    (areNames' : ∀ name ∈ names', isFileName name = true)
    (same : under folder names = under folder names') : names = names' := by
  have steps := congrArg steps same
  rw [steps_under filled areNames, steps_under filled areNames', List.append_cancel_left_eq] at steps
  exact map_name_injective steps

/-- Whether a path goes where another one leads, step by step, or further. -/
def isBeneath (folder path : String) : Bool := (steps folder).isPrefixOf (steps path)

theorem isBeneath_under_iff (filled : folder ≠ "") (areNames : ∀ name ∈ names, isFileName name = true)
    (areNames' : ∀ name ∈ names', isFileName name = true) :
    isBeneath (under folder names) (under folder names') = true ↔ ∃ later, names' = names ++ later := by
  rw [isBeneath, List.isPrefixOf_iff_prefix, steps_under filled areNames, steps_under filled areNames',
    List.prefix_append_right_inj]
  constructor
  · intro front
    have taken := List.prefix_iff_eq_take.1 front
    rw [List.length_map, ← List.map_take] at taken
    have same : names = names'.take names.length := map_name_injective taken
    obtain ⟨later, whole⟩ : names <+: names' := same ▸ List.take_prefix _ _
    exact ⟨later, whole.symm⟩
  · rintro ⟨later, rfl⟩
    rw [List.map_append]
    exact List.prefix_append _ _

end ClassRename.Path
