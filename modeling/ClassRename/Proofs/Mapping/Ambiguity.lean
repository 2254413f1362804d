import ClassRename.Mapping
import ClassRename.Proofs.RenameMap
import Mathlib.Data.List.Induction
import Mathlib.Data.List.Perm.Subperm

/-! # The report of ambiguous colours

Pairs are taken up one after the other, and each goes to the colour of its legacy path or begins a new
one at the end. So after every pair there is one colour for each legacy path, in the order in which the
paths came first, with the partners of the path in the order of the pairs. The colour table answers with
the last of these partners, and the report keeps the colours that have several.
-/

namespace ClassRename.Mapping

variable {legacy current : ColorToken} {prefixes : List String} {colors : RenameMap}
  {pairs : List (String × String)} {pair : String × String} {paths : List String}
  {path legacyPath currentPath currentPath' : String} {color : AmbiguousColor}

/-! ## Paths in the order of their first occurrence -/

/-- A path is new at the end of the list or it has occurred. -/
theorem eraseDups_concat (paths : List String) (path : String) :
    (paths ++ [path]).eraseDups =
      if path ∈ paths then paths.eraseDups else paths.eraseDups ++ [path] := by
  rw [List.eraseDups_append, List.removeAll]
  split
  · next occurs => simp [occurs]
  · next new => simp [new, List.eraseDups_cons]

/-- What is left without repetitions is in the order of the first occurrences. -/
theorem eraseDups_pairwise (paths : List String) :
    paths.eraseDups.Pairwise fun a b => paths.idxOf a < paths.idxOf b := by
  induction paths using List.reverseRecOn with
  | nil => exact List.Pairwise.nil
  | append_singleton paths path ih =>
    have kept {a : String} (occurs : a ∈ paths.eraseDups) :
        (paths ++ [path]).idxOf a = paths.idxOf a :=
      List.idxOf_append_of_mem (List.mem_eraseDups.1 occurs)
    have earlier : paths.eraseDups.Pairwise
        fun a b => (paths ++ [path]).idxOf a < (paths ++ [path]).idxOf b :=
      ih.imp_of_mem fun occurs occurs' before => by rwa [kept occurs, kept occurs']
    rw [eraseDups_concat]
    split
    · exact earlier
    · next new =>
      refine List.pairwise_append.2 ⟨earlier, List.pairwise_singleton _ _, ?_⟩
      intro a occurs b isLast
      obtain rfl := List.mem_singleton.1 isLast
      rw [kept occurs, List.idxOf_append_of_notMem new]
      exact Nat.lt_add_right _ (List.idxOf_lt_length_iff.2 (List.mem_eraseDups.1 occurs))

/-- Paths whose order is that of their first occurrences differ. -/
theorem eraseDups_nodup (paths : List String) : paths.eraseDups.Nodup :=
  (eraseDups_pairwise paths).imp fun {_ _} before =>
    ne_of_apply_ne paths.idxOf (Nat.ne_of_lt before)

/-! ## Partners -/

/-- The current paths that are paired with a legacy path, in the order of the pairs. -/
def partners (pairs : List (String × String)) (path : String) : List String :=
  (pairs.filter fun pair => pair.1 = path).map (·.2)

theorem partners_concat (pairs : List (String × String)) (pair : String × String) (path : String) :
    partners (pairs ++ [pair]) path =
      if pair.1 = path then partners pairs path ++ [pair.2] else partners pairs path := by
  rw [partners, List.filter_append, List.map_append, List.filter_singleton]
  split <;> simp_all [partners]

theorem mem_partners_iff : currentPath ∈ partners pairs path ↔ (path, currentPath) ∈ pairs := by
  simp [partners]

theorem length_partners (pairs : List (String × String)) (path : String) :
    (partners pairs path).length = (pairs.map (·.1)).count path := by
  rw [partners, List.length_map, List.count_eq_countP, List.countP_map, List.countP_eq_length_filter]
  rfl

/-- The table of the pairs answers with the last partner. -/
theorem get?_ofList_eq_getLast? (pairs : List (String × String)) (path : String) :
    (RenameMap.ofList pairs).get? path = (partners pairs path).getLast? := by
  rw [RenameMap.get?_ofList]
  induction pairs using List.reverseRecOn with
  | nil => rfl
  | append_singleton pairs pair ih =>
    obtain ⟨legacyPath, currentPath⟩ := pair
    rw [List.reverse_concat, lookup_cons_eq_ite, partners_concat, ih]
    by_cases here : legacyPath = path
    · rw [if_pos here.symm, if_pos here, List.getLast?_concat]
    · rw [if_neg (Ne.symm here), if_neg here]

/-! ## Grouping -/

/-- A legacy path with all its partners. -/
def colorOf (colors : RenameMap) (pairs : List (String × String)) (path : String) :
    AmbiguousColor where
  legacyPath := path
  candidates := partners pairs path
  chosen := (colors.get? path).getD ""

/-- A pair of another path leaves a colour as it is. -/
theorem colorOf_concat_of_ne (other : pair.1 ≠ path) :
    colorOf colors (pairs ++ [pair]) path = colorOf colors pairs path := by
  rw [colorOf, partners_concat, if_neg other, colorOf]

/-- One step: a pair goes to the colour of its path, and else it begins a colour at the end. -/
theorem addCandidate_map_colorOf (distinct : paths.Nodup)
    (first : pair.1 ∉ paths → partners pairs pair.1 = []) :
    addCandidate colors (paths.map (colorOf colors pairs)) pair =
      (if pair.1 ∈ paths then paths else paths ++ [pair.1]).map
        (colorOf colors (pairs ++ [pair])) := by
  induction paths with
  | nil =>
    have only : partners (pairs ++ [pair]) pair.1 = [pair.2] := by
      rw [partners_concat, if_pos rfl, first List.not_mem_nil, List.nil_append]
    simp [addCandidate, colorOf, only]
  | cons path later ih =>
    obtain ⟨fresh, distinct⟩ := List.nodup_cons.1 distinct
    rw [List.map_cons, addCandidate]
    by_cases here : path = pair.1
    · subst here
      have others : later.map (colorOf colors pairs) =
          later.map (colorOf colors (pairs ++ [pair])) :=
        List.map_congr_left fun path isLater =>
          (colorOf_concat_of_ne fun same => fresh (same ▸ isLater)).symm
      rw [if_pos List.mem_cons_self, List.map_cons, ← others, colorOf, colorOf, if_pos rfl,
        partners_concat, if_pos rfl]
    · have elsewhere : (colorOf colors pairs path).legacyPath ≠ pair.1 := here
      have sameColor : colorOf colors (pairs ++ [pair]) path = colorOf colors pairs path :=
        colorOf_concat_of_ne (Ne.symm here)
      rw [if_neg elsewhere, ih distinct fun new => first (by simp [new, Ne.symm here])]
      by_cases occurs : pair.1 ∈ later
      · rw [if_pos occurs, if_pos (List.mem_cons_of_mem _ occurs), List.map_cons, sameColor]
      · have new : pair.1 ∉ path :: later := by simp [occurs, Ne.symm here]
        rw [if_neg occurs, if_neg new, List.cons_append, List.map_cons, sameColor]

/-- After all pairs there is one colour for each legacy path, in the order of the first occurrences. -/
theorem foldl_addCandidate (colors : RenameMap) (pairs : List (String × String)) :
    pairs.foldl (addCandidate colors) [] =
      (pairs.map (·.1)).eraseDups.map (colorOf colors pairs) := by
  induction pairs using List.reverseRecOn with
  | nil => rfl
  | append_singleton pairs pair ih =>
    have first : pair.1 ∉ (pairs.map (·.1)).eraseDups → partners pairs pair.1 = [] := by
      intro new
      rw [List.mem_eraseDups] at new
      rw [← List.length_eq_zero_iff, length_partners, List.count_eq_zero_of_not_mem new]
    rw [List.foldl_concat, ih, addCandidate_map_colorOf (eraseDups_nodup _) first, List.map_append,
      List.map_singleton, eraseDups_concat]
    simp only [List.mem_eraseDups]

/-! ## The report -/

/-- The report holds the paths with several partners. -/
theorem ambiguousColors_eq (colors : RenameMap) (pairs : List (String × String)) :
    ambiguousColors colors pairs =
      ((pairs.map (·.1)).eraseDups.filter fun path => 2 ≤ (pairs.map (·.1)).count path).map
        (colorOf colors pairs) := by
  rw [ambiguousColors, foldl_addCandidate, List.filter_map]
  congr 1
  refine List.filter_congr fun path _ => ?_
  rw [Function.comp_apply, colorOf, length_partners]
  rfl

/-- A reported colour is a path that occurs in several pairs, with all its partners. -/
theorem mem_ambiguousColors_iff : color ∈ ambiguousColors colors pairs ↔
    2 ≤ (pairs.map (·.1)).count color.legacyPath ∧
      color = colorOf colors pairs color.legacyPath := by
  rw [ambiguousColors_eq, List.mem_map]
  constructor
  · rintro ⟨path, several, rfl⟩
    exact ⟨of_decide_eq_true (List.mem_filter.1 several).2, rfl⟩
  · rintro ⟨several, isColor⟩
    have occurs := List.count_pos_iff.1 (Nat.lt_of_lt_of_le Nat.two_pos several)
    exact ⟨_, List.mem_filter.2 ⟨List.mem_eraseDups.2 occurs, decide_eq_true several⟩, isColor.symm⟩

/-- The chosen partner of a reported colour is its last one, and the colour table has it. -/
theorem getLast?_candidates (reported : color ∈ ambiguousColors (RenameMap.ofList pairs) pairs) :
    color.candidates.getLast? = some color.chosen ∧
      (RenameMap.ofList pairs).get? color.legacyPath = some color.chosen := by
  obtain ⟨several, isColor⟩ := mem_ambiguousColors_iff.1 reported
  have paired : partners pairs color.legacyPath ≠ [] := by
    rw [← List.length_pos_iff, length_partners]
    exact Nat.lt_of_lt_of_le Nat.two_pos several
  obtain ⟨last, isLast⟩ := Option.isSome_iff_exists.1 (List.getLast?_isSome.2 paired)
  have answer : (RenameMap.ofList pairs).get? color.legacyPath = some last :=
    (get?_ofList_eq_getLast? _ _).trans isLast
  have candidates : color.candidates = partners pairs color.legacyPath :=
    congrArg AmbiguousColor.candidates isColor
  have chosen : color.chosen = last := by
    rw [isColor, colorOf, answer, Option.getD_some]
  rw [candidates, isLast, answer, chosen]
  exact ⟨rfl, rfl⟩

/-- A path with two different partners is reported with both. -/
theorem exists_mem_ambiguousColors (paired : (path, currentPath) ∈ pairs)
    (paired' : (path, currentPath') ∈ pairs) (differ : currentPath ≠ currentPath') :
    ∃ color ∈ ambiguousColors colors pairs,
      color.legacyPath = path ∧ currentPath ∈ color.candidates := by
  have isPartner := mem_partners_iff.2 paired
  have isPartner' := mem_partners_iff.2 paired'
  have both : [currentPath, currentPath'].Subperm (partners pairs path) :=
    List.Nodup.subperm (by simp [differ]) (by simp [isPartner, isPartner'])
  have several : 2 ≤ (pairs.map (·.1)).count path := length_partners pairs path ▸ both.length_le
  exact ⟨colorOf colors pairs path, mem_ambiguousColors_iff.2 ⟨several, rfl⟩, rfl, isPartner⟩

/-- Reported are exactly the legacy paths of several pairs, once each and by their first occurrence;
the candidates of a path are all its partners in their order, and the last of them is chosen, as it is
in the colour table. -/
theorem build_ambiguous_exact (prefixes : List String) (legacy current : ColorToken) :
    (∀ path, path ∈ (build prefixes legacy current).ambiguous.map (·.legacyPath) ↔
      2 ≤ ((colorPairs legacy current).map (·.1)).count path) ∧
    ((build prefixes legacy current).ambiguous.map (·.legacyPath)).Pairwise (fun a b =>
      ((colorPairs legacy current).map (·.1)).idxOf a <
        ((colorPairs legacy current).map (·.1)).idxOf b) ∧
    ∀ color ∈ (build prefixes legacy current).ambiguous,
      color.candidates =
        ((colorPairs legacy current).filter fun pair => pair.1 = color.legacyPath).map (·.2) ∧
      color.candidates.getLast? = some color.chosen ∧
      (build prefixes legacy current).colors.get? color.legacyPath = some color.chosen := by
  refine ⟨?_, ?_, ?_⟩
  · intro path
    constructor
    · intro reported
      obtain ⟨color, isReported, rfl⟩ := List.mem_map.1 reported
      exact (mem_ambiguousColors_iff.1 isReported).1
    · intro several
      exact List.mem_map.2 ⟨colorOf _ _ path, mem_ambiguousColors_iff.2 ⟨several, rfl⟩, rfl⟩
  · rw [build, ambiguousColors_eq, List.map_map, List.pairwise_map]
    exact (eraseDups_pairwise _).filter _
  · intro color reported
    have candidates := congrArg AmbiguousColor.candidates (mem_ambiguousColors_iff.1 reported).2
    exact ⟨candidates, getLast?_candidates reported⟩

-- Two legacy leaves have the path `a-b`, and another one comes between their pairs.
example : (build [] (.group [("a", .group [("b", .color "red")]), ("c", .color "red"),
      ("a-b", .color "blue")])
    (.group [("x", .color "RED"), ("y", .color "blue")])).ambiguous =
      [⟨"a-b", ["x", "y"], "y"⟩] := by decide

end ClassRename.Mapping
