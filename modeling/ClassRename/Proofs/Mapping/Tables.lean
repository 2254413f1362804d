import ClassRename.Proofs.Mapping.Ambiguity
import ClassRename.Proofs.Mapping.Classes
import Mathlib.Data.List.Nodup

/-! # The class table beside the colour table

What the class table answers for a class comes from the last prefix that makes the class out of a path in
the colour table. Mostly a class is made by one prefix alone; but where one prefix is another one with a
hyphen and more text, a class may be read in two ways, and the later prefix wins. Without hyphens in the
prefixes the class table is the colour table, once for each prefix.
-/

namespace ClassRename.Mapping

variable {legacy current : ColorToken} {prefixes : List String}
  {pairs : List (String × String)}
  {before before' path path' legacyPath currentPath key new : String}

/-! ## Readings of a class -/

theorem toList_className (before path : String) :
    (className before path).toList = before.toList ++ '-' :: path.toList := by
  rw [className, String.toList_append, String.toList_append, List.append_assoc]
  rfl

theorem className_injective (before : String) : Function.Injective (className before) := by
  intro path path' same
  have lists := congrArg String.toList same
  rw [toList_className, toList_className, List.append_cancel_left_eq, List.cons_inj_right] at lists
  exact String.toList_inj.1 lists

/-- The second prefix takes in the beginning of the path after the first one. -/
def TakesIn (before path before' path' : String) : Prop :=
  ∃ middle, before' = className before middle ∧ path = className middle path'

/-- Where a class is read in two ways, the prefixes are the same or one takes in the beginning of the
other path. -/
theorem readings_of_append {more : List Char} (longer : before'.toList = before.toList ++ more)
    (same : '-' :: path.toList = more ++ '-' :: path'.toList) :
    before = before' ∧ path = path' ∨ TakesIn before path before' path' := by
  cases more with
  | nil =>
    rw [List.append_nil, String.toList_inj] at longer
    rw [List.nil_append, List.cons_inj_right, String.toList_inj] at same
    exact .inl ⟨longer.symm, same⟩
  | cons hyphen middle =>
    obtain ⟨rfl, rest⟩ := List.cons.inj same
    refine .inr ⟨String.ofList middle, ?_, ?_⟩
    · rw [← String.toList_inj, toList_className, longer, String.toList_ofList]
    · rw [← String.toList_inj, toList_className, String.toList_ofList]
      exact rest

theorem readings (same : className before path = className before' path') :
    before = before' ∧ path = path' ∨ TakesIn before path before' path' ∨
      TakesIn before' path' before path := by
  have lists := congrArg String.toList same
  rw [toList_className, toList_className, List.append_eq_append_iff] at lists
  rcases lists with ⟨more, longer, rest⟩ | ⟨more, longer, rest⟩
  · exact (readings_of_append longer rest).imp_right .inl
  · exact (readings_of_append longer rest).imp (And.imp Eq.symm Eq.symm) .inr

/-- A prefix that takes in a part of a path has a hyphen. -/
theorem TakesIn.hyphen_mem (takesIn : TakesIn before path before' path') : '-' ∈ before'.toList := by
  obtain ⟨middle, rfl, -⟩ := takesIn
  rw [toList_className]
  exact List.mem_append_right _ List.mem_cons_self

/-- Prefixes without hyphens are told apart in their classes. -/
theorem eq_of_className_eq (plain : '-' ∉ before.toList) (plain' : '-' ∉ before'.toList)
    (same : className before path = className before' path') : before = before' ∧ path = path' := by
  rcases readings same with same | takesIn | takesIn
  · exact same
  · exact absurd takesIn.hyphen_mem plain'
  · exact absurd takesIn.hyphen_mem plain

/-! ## Answers of the class table -/

/-- A class of one prefix is renamed as its path is. -/
theorem get?_classPairs_singleton (before : String) (pairs : List (String × String)) (path : String) :
    (RenameMap.ofList (classPairs [before] pairs)).get? (className before path) =
      ((RenameMap.ofList pairs).get? path).map (className before) := by
  rw [RenameMap.get?_ofList, RenameMap.get?_ofList, classPairs, List.flatMap_singleton,
    ← List.map_reverse]
  induction pairs.reverse with
  | nil => rfl
  | cons pair later ih =>
    obtain ⟨legacyPath, currentPath⟩ := pair
    rw [List.map_cons, lookup_cons_eq_ite, lookup_cons_eq_ite, ih]
    by_cases here : path = legacyPath
    · rw [if_pos here, if_pos (congrArg _ here), Option.map_some]
    · rw [if_neg here, if_neg fun same => here (className_injective before same)]

/-- The classes of the class table are those of the paths in the colour table, with each prefix. -/
theorem mem_keys_classPairs_iff : key ∈ (RenameMap.ofList (classPairs prefixes pairs)).keys ↔
    ∃ before ∈ prefixes, ∃ path ∈ (RenameMap.ofList pairs).keys, className before path = key := by
  simp only [RenameMap.mem_keys_ofList_iff, classPairs, List.map_flatMap, List.map_map,
    List.mem_flatMap, List.mem_map, Function.comp_apply, exists_exists_and_eq_and]

theorem exists_get?_classPairs (isPrefix : before ∈ prefixes)
    (colored : (RenameMap.ofList pairs).get? path = some currentPath) :
    ∃ new, (RenameMap.ofList (classPairs prefixes pairs)).get? (className before path) = some new :=
  RenameMap.mem_keys_iff_exists_get?.1 (mem_keys_classPairs_iff.2
    ⟨before, isPrefix, path, RenameMap.mem_keys_iff_exists_get?.2 ⟨currentPath, colored⟩, rfl⟩)

/-- What the class table answers comes from a prefix and an answer of the colour table, and no later
prefix makes the class. -/
theorem last_of_get?_classPairs
    (renamed : (RenameMap.ofList (classPairs prefixes pairs)).get? key = some new) :
    ∃ earlier before later path currentPath, prefixes = earlier ++ before :: later ∧
      (RenameMap.ofList pairs).get? path = some currentPath ∧ key = className before path ∧
      new = className before currentPath ∧
      key ∉ (RenameMap.ofList (classPairs later pairs)).keys := by
  induction prefixes with
  | nil => exact absurd renamed (Option.some_ne_none new).symm
  | cons before later ih =>
    have split : classPairs (before :: later) pairs =
        classPairs [before] pairs ++ classPairs later pairs := by
      simp only [classPairs, List.flatMap_cons, List.flatMap_nil, List.append_nil]
    rw [split, RenameMap.get?_ofList_append, Option.or_eq_some_iff] at renamed
    rcases renamed with renamed | ⟨notLater, renamed⟩
    · obtain ⟨earlier, rest⟩ := ih renamed
      obtain ⟨before', later', path, currentPath, rfl, rest⟩ := rest
      exact ⟨before :: earlier, before', later', path, currentPath, rfl, rest⟩
    · have isKey := RenameMap.mem_keys_iff_exists_get?.2 ⟨new, renamed⟩
      obtain ⟨_, isBefore, path, -, rfl⟩ := mem_keys_classPairs_iff.1 isKey
      obtain rfl := List.mem_singleton.1 isBefore
      rw [get?_classPairs_singleton] at renamed
      obtain ⟨currentPath, colored, rfl⟩ := Option.map_eq_some_iff.1 renamed
      refine ⟨[], _, later, path, currentPath, rfl, colored, rfl, rfl, fun isLater => ?_⟩
      obtain ⟨other, renamedLater⟩ := RenameMap.mem_keys_iff_exists_get?.1 isLater
      exact absurd (notLater.symm.trans renamedLater) (Option.some_ne_none other).symm

/-! ## Prefixes without hyphens -/

/-- With prefixes without hyphens, what a class is renamed to comes from its own path. -/
theorem colored_of_get?_classPairs (plain : ∀ before ∈ prefixes, '-' ∉ before.toList)
    (isPrefix : before ∈ prefixes)
    (renamed : (RenameMap.ofList (classPairs prefixes pairs)).get? (className before path) =
      some new) :
    ∃ currentPath, (RenameMap.ofList pairs).get? path = some currentPath ∧
      className before currentPath = new := by
  obtain ⟨earlier, before', later, path', currentPath, rfl, colored, same, rfl, -⟩ :=
    last_of_get?_classPairs renamed
  obtain ⟨rfl, rfl⟩ := eq_of_className_eq (plain _ isPrefix) (plain _ (by simp)) same
  exact ⟨currentPath, colored, rfl⟩

/-- With prefixes without hyphens a class is renamed as its path is. -/
theorem get?_classPairs (plain : ∀ before ∈ prefixes, '-' ∉ before.toList)
    (isPrefix : before ∈ prefixes) (pairs : List (String × String)) (path : String) :
    (RenameMap.ofList (classPairs prefixes pairs)).get? (className before path) =
      ((RenameMap.ofList pairs).get? path).map (className before) := by
  refine Option.ext fun new => ?_
  rw [Option.map_eq_some_iff]
  constructor
  · exact colored_of_get?_classPairs plain isPrefix
  · rintro ⟨currentPath, colored, rfl⟩
    obtain ⟨new, renamed⟩ := exists_get?_classPairs isPrefix colored
    obtain ⟨currentPath', colored', rfl⟩ := colored_of_get?_classPairs plain isPrefix renamed
    rw [renamed, Option.some_inj.1 (colored.symm.trans colored')]

/-- The classes of different prefixes without hyphens and different paths differ. -/
theorem classes_nodup (plain : ∀ before ∈ prefixes, '-' ∉ before.toList) {paths : List String}
    (distinct : paths.Nodup) :
    (prefixes.eraseDups.flatMap fun before => paths.map (className before)).Nodup := by
  rw [List.nodup_flatMap]
  constructor
  · intro before _
    exact distinct.map (className_injective before)
  · refine (eraseDups_nodup prefixes).imp_of_mem fun {before before'} isPrefix isPrefix' differ => ?_
    intro key isClass isClass'
    obtain ⟨path, -, rfl⟩ := List.mem_map.1 isClass
    obtain ⟨path', -, same⟩ := List.mem_map.1 isClass'
    have plainBefore := plain _ (List.mem_eraseDups.1 isPrefix)
    have plainBefore' := plain _ (List.mem_eraseDups.1 isPrefix')
    exact differ (eq_of_className_eq plainBefore' plainBefore same).1.symm

/-- Without hyphens in the prefixes the class table has one class for each prefix and each path of the
colour table and no other, and it renames the class as the colour table renames the path. So a reported
colour is renamed to the chosen partner, its last one, in the colour table and with every prefix. -/
theorem build_tables_agree (plain : ∀ before ∈ prefixes, '-' ∉ before.toList)
    (legacy current : ColorToken) :
    (build prefixes legacy current).classes.keys.Perm
      (prefixes.eraseDups.flatMap fun before =>
        (build prefixes legacy current).colors.keys.map (className before)) ∧
    (∀ before ∈ prefixes, ∀ path,
      (build prefixes legacy current).classes.get? (className before path) =
        ((build prefixes legacy current).colors.get? path).map (className before)) ∧
    ∀ color ∈ (build prefixes legacy current).ambiguous,
      color.candidates.getLast? = some color.chosen ∧
      (build prefixes legacy current).colors.get? color.legacyPath = some color.chosen ∧
      ∀ before ∈ prefixes,
        (build prefixes legacy current).classes.get? (className before color.legacyPath) =
          some (className before color.chosen) := by
  refine ⟨?_, ?_, ?_⟩
  · refine (List.perm_ext_iff_of_nodup (RenameMap.keys_nodup _)
      (classes_nodup plain (RenameMap.keys_nodup _))).2 fun key => ?_
    rw [build, mem_keys_classPairs_iff]
    simp only [List.mem_flatMap, List.mem_eraseDups, List.mem_map]
  · intro before isPrefix path
    exact get?_classPairs plain isPrefix _ path
  · intro color reported
    obtain ⟨isLast, colored⟩ := getLast?_candidates reported
    refine ⟨isLast, colored, fun before isPrefix => ?_⟩
    rw [build, get?_classPairs plain isPrefix, colored, Option.map_some]

/-- A legacy colour. -/
def primary : ColorToken := .group [("primary", .color "#ff0000")]

/-- Two current colours that are equal but for the case of their letters. -/
def reds : ColorToken :=
  .group [("red", .group [("500", .color "#FF0000")]), ("danger", .color "#ff0000")]

/-- The last partner of an ambiguous colour stands in the report, in the colour table and in both classes,
also when a prefix is given twice. -/
theorem build_tables_agree_reds :
    (∀ before ∈ ["text", "bg", "text"], '-' ∉ before.toList) ∧
    (build ["text", "bg", "text"] primary reds).classes.keys.Perm ["text-primary", "bg-primary"] ∧
    (build ["text", "bg", "text"] primary reds).classes.get? "bg-primary" = some "bg-danger" ∧
    (build ["text", "bg", "text"] primary reds).colors.get? "primary" = some "danger" ∧
    (build ["text", "bg", "text"] primary reds).ambiguous =
      [⟨"primary", ["red-500", "danger"], "danger"⟩] := by
  have plain : ∀ before ∈ ["text", "bg", "text"], '-' ∉ before.toList := by decide
  have reported : (build ["text", "bg", "text"] primary reds).ambiguous =
      [⟨"primary", ["red-500", "danger"], "danger"⟩] := by decide
  obtain ⟨classes, -, agree⟩ := build_tables_agree plain primary reds
  obtain ⟨-, colored, renamed⟩ := agree _ (reported ▸ List.mem_singleton_self _)
  exact ⟨plain, classes.trans (.of_eq (by decide)), renamed "bg" (by decide), colored, reported⟩

/-! ## Renames that give way -/

/-- Every pair renames its class with every prefix, unless its legacy path is reported with the partner
among its candidates, or the class has a second reading with a later prefix, one of the two prefixes
taking in the beginning of the other path; then it is renamed by a pair with that prefix. -/
theorem build_classes_kept (isPrefix : before ∈ prefixes)
    (paired : (legacyPath, currentPath) ∈ colorPairs legacy current) :
    (build prefixes legacy current).classes.get? (className before legacyPath) =
      some (className before currentPath) ∨
    (∃ color ∈ (build prefixes legacy current).ambiguous,
      color.legacyPath = legacyPath ∧ currentPath ∈ color.candidates) ∨
    ∃ earlier before' later legacyPath' currentPath',
      prefixes = earlier ++ before' :: later ∧ before ∉ before' :: later ∧
      (legacyPath', currentPath') ∈ colorPairs legacy current ∧
      (TakesIn before legacyPath before' legacyPath' ∨
        TakesIn before' legacyPath' before legacyPath) ∧
      (build prefixes legacy current).classes.get? (className before legacyPath) =
        some (className before' currentPath') := by
  have isColor : legacyPath ∈ (RenameMap.ofList (colorPairs legacy current)).keys :=
    RenameMap.mem_keys_ofList_iff.2 (List.mem_map_of_mem paired)
  obtain ⟨_, answer⟩ := RenameMap.mem_keys_iff_exists_get?.1 isColor
  obtain ⟨new, renamed⟩ := exists_get?_classPairs isPrefix answer
  obtain ⟨earlier, before', later, legacyPath', currentPath', split, colored, same, rfl, notLater⟩ :=
    last_of_get?_classPairs renamed
  have paired' : (legacyPath', currentPath') ∈ colorPairs legacy current :=
    RenameMap.mem_of_mem_toList_ofList (RenameMap.mem_toList_of_get? colored)
  by_cases samePrefix : before = before'
  · subst samePrefix
    obtain rfl := className_injective before same
    by_cases samePartner : currentPath = currentPath'
    · exact .inl (samePartner ▸ renamed)
    · exact .inr (.inl (exists_mem_ambiguousColors paired paired' samePartner))
  · have last : before ∉ before' :: later := by
      rintro (_ | ⟨_, isLater⟩)
      · exact samePrefix rfl
      · exact notLater (mem_keys_classPairs_iff.2 ⟨before, isLater, legacyPath, isColor, rfl⟩)
    have twice := (readings same).resolve_left fun both => samePrefix both.1
    exact .inr (.inr ⟨earlier, before', later, legacyPath', currentPath', split, last, paired', twice,
      renamed⟩)

/-- Two legacy colours of which the one has the name of the other in a group. -/
def sides : ColorToken :=
  .group [("t", .group [("main", .color "#111")]), ("main", .color "#222")]

/-- Two current colours. -/
def greys : ColorToken := .group [("x", .color "#111"), ("y", .color "#222")]

/-- The colour in the group gives way to the other one under the longer prefix. -/
theorem build_classes_kept_sides :
    "border" ∈ ["border", "border-t"] ∧ ("t-main", "x") ∈ colorPairs sides greys ∧
    ∃ earlier before later legacyPath currentPath,
      ["border", "border-t"] = earlier ++ before :: later ∧ "border" ∉ before :: later ∧
      (legacyPath, currentPath) ∈ colorPairs sides greys ∧
      (TakesIn "border" "t-main" before legacyPath ∨ TakesIn before legacyPath "border" "t-main") ∧
      (build ["border", "border-t"] sides greys).classes.get? (className "border" "t-main") =
        some (className before currentPath) := by
  have isPrefix : "border" ∈ ["border", "border-t"] := by decide
  have paired : ("t-main", "x") ∈ colorPairs sides greys := by decide
  have kept := build_classes_kept isPrefix paired
  exact ⟨isPrefix, paired, (kept.resolve_left (by decide)).resolve_left (by decide)⟩

/-- A pair whose class is renamed otherwise, while its colour is not reported. -/
theorem build_classes_not_kept :
    "border" ∈ ["border", "border-t"] ∧ ("t-main", "x") ∈ colorPairs sides greys ∧
    ¬((build ["border", "border-t"] sides greys).classes.get? (className "border" "t-main") =
        some (className "border" "x") ∨
      ∃ color ∈ (build ["border", "border-t"] sides greys).ambiguous,
        color.legacyPath = "t-main" ∧ "x" ∈ color.candidates) := by
  decide

end ClassRename.Mapping
