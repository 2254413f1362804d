import ClassRename.Proofs.ColorToken.Written

/-! # The leaves of a token tree

The colours of a tree are its leaves in the order of the file, each with the names that lead to it, joined
with hyphens. But a path that is empty so far counts as no path: names that are empty at the beginning
leave no trace, and a colour with no other names than such is left out.
-/

namespace ClassRename.ColorToken

variable {members : List (String × ColorToken)} {names : List String} {path : String}

/-- The colours of a tree, each with the names that lead to it from the root, in the order of the file. -/
def leaves : ColorToken → List (List String × String) :=
  fold (fun text => [([], text)]) fun members =>
    members.flatMap fun (name, inner) => inner.map fun (names, text) => (name :: names, text)

theorem leaves_color (text : String) : leaves (.color text) = [([], text)] := rfl

theorem leaves_group (members : List (String × ColorToken)) : leaves (.group members) =
    members.flatMap fun member => member.2.leaves.map fun leaf => (member.1 :: leaf.1, leaf.2) := by
  rw [leaves, fold_group, List.flatMap_map]

/-! ## Paths -/

/-- A path that is not empty goes on with a hyphen before every further name. -/
theorem foldl_extend_eq_intercalate (nonempty : path ≠ "") (names : List String) :
    names.foldl extend path = "-".intercalate (path :: names) := by
  induction names generalizing path with
  | nil => rw [List.foldl_nil, String.intercalate_singleton]
  | cons name later ih =>
    have longer : extend path name = path ++ "-" ++ name :=
      if_neg fun isEmpty => nonempty (String.isEmpty_iff.1 isEmpty)
    have nonempty' : path ++ "-" ++ name ≠ "" := by simp
    rw [List.foldl_cons, longer, ih nonempty', String.intercalate_cons_append,
      String.intercalate_cons_cons]

/-- A path from the root begins with the first name that is not empty. -/
theorem foldl_extend_empty (names : List String) :
    names.foldl extend "" = "-".intercalate (names.dropWhile (· = "")) := by
  induction names with
  | nil => rfl
  | cons name later ih =>
    have first : extend "" name = name := rfl
    rw [List.foldl_cons, first, List.dropWhile_cons]
    by_cases isEmpty : name = ""
    · rw [if_pos (decide_eq_true isEmpty), isEmpty, ih]
    · rw [if_neg (by simpa using isEmpty), foldl_extend_eq_intercalate isEmpty]

/-- A path from the root is empty when all its names are, and only then. -/
theorem intercalate_dropWhile_ne_empty_iff :
    "-".intercalate (names.dropWhile (· = "")) ≠ "" ↔ ∃ name ∈ names, name ≠ "" := by
  induction names with
  | nil => simp
  | cons name later ih =>
    rw [List.dropWhile_cons, List.exists_mem_cons_iff]
    by_cases isEmpty : name = ""
    · rw [if_pos (decide_eq_true isEmpty), ih, or_iff_right (not_not.2 isEmpty)]
    · have longer : "-".intercalate (name :: later) ≠ "" := by cases later <;> simp [isEmpty]
      rw [if_neg (by simpa using isEmpty)]
      exact iff_of_true longer (.inl isEmpty)

/-- Names that do not begin with an empty one are all in their path. -/
theorem dropWhile_eq_self (begins : names.head? ≠ some "") : names.dropWhile (· = "") = names := by
  cases names with
  | nil => rfl
  | cons name later =>
    rw [List.head?_cons, ne_eq, Option.some_inj] at begins
    rw [List.dropWhile_cons, if_neg (by simpa using begins)]

/-- Names that do not begin with an empty one have one that is not empty, if there are any. -/
theorem exists_ne_empty_iff (begins : names.head? ≠ some "") :
    (∃ name ∈ names, name ≠ "") ↔ names ≠ [] := by
  cases names with
  | nil => simp
  | cons name later =>
    rw [List.head?_cons, ne_eq, Option.some_inj] at begins
    exact iff_of_true ⟨name, List.mem_cons_self, begins⟩ (List.cons_ne_nil _ _)

/-- Without its first names a path is no longer. -/
theorem length_intercalate_dropWhile_le (names : List String) :
    ("-".intercalate (names.dropWhile (· = ""))).length ≤ ("-".intercalate names).length := by
  induction names with
  | nil => exact Nat.le_refl _
  | cons name later ih =>
    rw [List.dropWhile_cons]
    split
    · refine Nat.le_trans ih ?_
      cases later with
      | nil => simp
      | cons => simp [String.length_append]
    · exact Nat.le_refl _

/-- A path that begins with an empty name and does not end there loses a hyphen. -/
theorem intercalate_dropWhile_ne (begins : names.head? = some "") (goesOn : ∃ name ∈ names, name ≠ "") :
    "-".intercalate (names.dropWhile (· = "")) ≠ "-".intercalate names := by
  obtain ⟨later, rfl⟩ := List.head?_eq_some_iff.1 begins
  have shorter := length_intercalate_dropWhile_le later
  cases later with
  | nil => simp at goesOn
  | cons name later =>
    intro same
    have lengths := congrArg String.length same
    rw [List.dropWhile_cons, if_pos (decide_eq_true rfl), String.intercalate_cons_cons,
      String.length_append] at lengths
    have hyphen : ("" ++ "-").length = 1 := rfl
    omega

/-! ## Flattening -/

theorem flattenMembers_eq (path : String) (members : List (String × ColorToken)) :
    flattenMembers path members =
      members.flatMap fun member => flattenFrom (extend path member.1) member.2 := by
  induction members with
  | nil => rfl
  | cons member later ih => rw [flattenMembers, ih, flattenMember, List.flatMap_cons]

/-- From a path on, the colours are the leaves whose names extend the path to one that is not empty. -/
theorem flattenFrom_eq (path : String) (token : ColorToken) : flattenFrom path token =
    (token.leaves.map fun leaf => (leaf.1.foldl extend path, leaf.2)).filter (·.1 ≠ "") := by
  induction token using induction generalizing path with
  | color text =>
    rw [flattenFrom, leaves_color, List.map_singleton, List.foldl_nil, List.filter_singleton]
    by_cases isEmpty : path = "" <;> simp [isEmpty]
  | group members ih =>
    rw [flattenFrom, flattenMembers_eq, leaves_group, List.map_flatMap, List.filter_flatMap]
    refine List.flatMap_congr fun member isMember => ?_
    rw [ih member isMember, List.map_map]
    rfl

/-- The colours are the leaves with a name that is not empty, from the first such name on. -/
theorem flatten_eq (token : ColorToken) : token.flatten =
    (token.leaves.filter fun leaf => ∃ name ∈ leaf.1, name ≠ "").map
      fun leaf => ("-".intercalate (leaf.1.dropWhile (· = "")), leaf.2) := by
  rw [flatten, flattenFrom_eq, List.filter_map]
  simp only [Function.comp_def, foldl_extend_empty, intercalate_dropWhile_ne_empty_iff]

/-- Leaves have all their names in their paths when none begins with an empty name, and only then. -/
theorem paths_eq_iff {found : List (List String × String)} :
    ((found.filter fun leaf => ∃ name ∈ leaf.1, name ≠ "").map fun leaf =>
        ("-".intercalate (leaf.1.dropWhile (· = "")), leaf.2)) =
      (found.filter (·.1 ≠ [])).map (fun leaf => ("-".intercalate leaf.1, leaf.2)) ↔
    ∀ leaf ∈ found, leaf.1.head? ≠ some "" := by
  constructor
  · intro same leaf isLeaf begins
    have named : leaf.1 ≠ [] := List.ne_nil_of_mem (List.mem_of_head? begins)
    -- As many leaves are chosen, so they are the same ones.
    have chosen : (found.filter fun leaf => ∃ name ∈ leaf.1, name ≠ "") =
        found.filter (·.1 ≠ []) := by
      have lengths := congrArg List.length same
      rw [List.length_map, List.length_map] at lengths
      refine List.Sublist.eq_of_length (List.monotone_filter_right found fun leaf => ?_) lengths
      simp only [decide_eq_true_eq]
      rintro ⟨name, isName, -⟩
      exact List.ne_nil_of_mem isName
    have isChosen : leaf ∈ found.filter (·.1 ≠ []) :=
      List.mem_filter.2 ⟨isLeaf, decide_eq_true named⟩
    rw [chosen] at same
    have path := (Prod.mk.inj (List.map_inj_left.1 same leaf isChosen)).1
    rw [← chosen] at isChosen
    exact intercalate_dropWhile_ne begins (of_decide_eq_true (List.mem_filter.1 isChosen).2) path
  · intro begin
    rw [List.filter_congr fun leaf isLeaf =>
      decide_eq_decide.2 (exists_ne_empty_iff (begin leaf isLeaf))]
    refine List.map_congr_left fun leaf isChosen => ?_
    rw [dropWhile_eq_self (begin leaf (List.mem_filter.1 isChosen).1)]

/-- The colours are the leaves below a name that is not empty, each with its names from the first such
one on, joined with hyphens. They are all leaves below a name, with all their names, exactly when no
leaf's first name is empty. -/
theorem flatten_named (token : ColorToken) :
    token.flatten = (token.leaves.filter fun leaf => ∃ name ∈ leaf.1, name ≠ "").map
      (fun leaf => ("-".intercalate (leaf.1.dropWhile (· = "")), leaf.2)) ∧
    (token.flatten = (token.leaves.filter (·.1 ≠ [])).map
        (fun leaf => ("-".intercalate leaf.1, leaf.2)) ↔
      ∀ leaf ∈ token.leaves, leaf.1.head? ≠ some "") := by
  refine ⟨flatten_eq token, ?_⟩
  rw [flatten_eq]
  exact paths_eq_iff

/-- Empty names at the front leave no trace, and a colour with only such names is left out. -/
theorem flatten_loses_empty_names :
    let token : ColorToken := .group
      [("", .group [("main", .color "#f00"), ("", .color "#0f0")]), ("white", .color "#fff")]
    token.leaves = [(["", "main"], "#f00"), (["", ""], "#0f0"), (["white"], "#fff")] ∧
      token.flatten = [("main", "#f00"), ("white", "#fff")] := by
  decide

end ClassRename.ColorToken
