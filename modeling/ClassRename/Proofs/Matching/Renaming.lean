import ClassRename.Proofs.Matching.Segmentation

/-! # A matcher renames along the segmentation

The search of a matcher walks over a class list and takes the first old name of a sorted list that
matches. What it finds are the old names of the segmentation, in their places, so the walk never
meets a name without an entry and never cuts a character; it writes the gaps as they are and the new
names in the place of the old ones.
-/

namespace ClassRename

variable {map : RenameMap} {text start tail : List Char} {segments : List Segment}

/-! ## The old names of a matcher -/

theorem Matcher.mem_olds_ofMap (map : RenameMap) (old : List Char) :
    old ∈ (Matcher.ofMap map).olds ↔ String.ofList old ≠ "" ∧ String.ofList old ∈ map.keys := by
  simp only [Matcher.ofMap, List.mem_mergeSort, List.mem_map, List.mem_filter, Bool.not_eq_true',
    String.isEmpty_eq_false_iff]
  constructor
  · rintro ⟨key, ⟨member, filled⟩, rfl⟩
    rw [String.ofList_toList]
    exact ⟨filled, member⟩
  · rintro ⟨filled, member⟩
    exact ⟨String.ofList old, ⟨member, filled⟩, String.toList_ofList⟩

/-- Longer old names come first. -/
theorem Matcher.olds_ofMap_pairwise (map : RenameMap) :
    (Matcher.ofMap map).olds.Pairwise fun a b => byteLength b ≤ byteLength a := by
  have sorted := @List.pairwise_mergeSort _ Matcher.longerFirst
    (by simp only [Matcher.longerFirst, decide_eq_true_eq]; omega)
    (by simp only [Matcher.longerFirst, Bool.or_eq_true, decide_eq_true_eq]; omega)
    ((map.keys.filter (!·.isEmpty)).map String.toList)
  exact sorted.imp of_decide_eq_true

/-- Old names that come with the longer ones first are taken as they come. -/
theorem Matcher.ofMap_of_pairwise
    (sorted : ((map.keys.filter (!·.isEmpty)).map String.toList).Pairwise fun a b =>
      Matcher.longerFirst a b = true) :
    Matcher.ofMap map = ⟨map, (map.keys.filter (!·.isEmpty)).map String.toList⟩ := by
  rw [Matcher.ofMap, List.mergeSort_of_pairwise sorted]

private theorem getLast?_append_of_ne_nil (before : List Char) {old : List Char} (filled : old ≠ []) :
    (before ++ old).getLast? = old.getLast? := by
  rw [List.getLast?_append, List.getLast?_eq_some_getLast filled]
  rfl

private theorem ofList_ne_empty_iff (old : List Char) : String.ofList old ≠ "" ↔ old ≠ [] := by
  rw [Ne, ← String.toList_inj, String.toList_ofList]
  rfl

/-- An old name matches at the front of what is left exactly where it is admissible. -/
theorem admissible_iff_matchesAt (old rest : List Char) :
    Admissible map (start ++ rest) (byteLength start) (String.ofList old) ↔
      old ∈ (Matcher.ofMap map).olds ∧ matchesAt start.getLast? rest old = true := by
  rw [Matcher.mem_olds_ofMap, Admissible, and_assoc, String.toList_ofList]
  refine and_congr_right fun filled => and_congr_right fun _ => ?_
  have last := getLast?_append_of_ne_nil start ((ofList_ne_empty_iff old).1 filled)
  simp only [matchesAt, Bool.and_eq_true, List.isPrefixOf_iff_prefix]
  constructor
  · rintro ⟨before, after, split, place, opens, closes⟩
    obtain ⟨rfl, rfl⟩ := append_inj_of_byteLength_eq split.symm place
    refine ⟨⟨List.prefix_append old after, (isBoundary_iff ..).2 opens⟩, ?_⟩
    rw [List.drop_left, ← last]
    exact (isBoundary_iff ..).2 closes
  · rintro ⟨⟨⟨after, rfl⟩, opens⟩, closes⟩
    rw [List.drop_left, ← last] at closes
    exact ⟨start, after, rfl, rfl, (isBoundary_iff ..).1 opens, (isBoundary_iff ..).1 closes⟩

/-! ## The search follows the segmentation -/

/-- The places of the old names of segments after a text. -/
def segmentSpans : (start : List Char) → List Segment → List Span
  | _, [] => []
  | start, segment :: later =>
    ⟨byteLength (start ++ segment.gap), byteLength (start ++ segment.source)⟩ ::
      segmentSpans (start ++ segment.source) later

/-- Nothing is admissible inside a character. -/
theorem Admissible.next_of_lt {offset : Nat} {old : String} {c : Char} {rest : List Char}
    (admissible : Admissible map (start ++ c :: rest) offset old) (after : byteLength start < offset) :
    byteLength (start ++ [c]) ≤ offset := by
  obtain ⟨-, -, before, later, split, rfl, -, -⟩ := admissible
  obtain ⟨between, rfl, tail⟩ := exists_append_of_byteLength_le split (Nat.le_of_lt after)
  cases between with
  | nil => simp at after
  | cons d between =>
    obtain ⟨rfl, -⟩ := List.cons_eq_cons.1 tail
    simp only [byteLength_append, byteLength_cons, byteLength_nil]
    omega

/-- A part in which nothing is admissible joins the gap or the tail after it. -/
theorem Segmented.widen {part : List Char}
    (blocked : ∀ offset old, byteLength start ≤ offset → offset < byteLength (start ++ part) →
      ¬Admissible map text offset old)
    (segmented : Segmented map text (start ++ part) segments tail) :
    ∃ segments' tail', Segmented map text start segments' tail' ∧
      segmentSpans start segments' = segmentSpans (start ++ part) segments ∧
      segments'.flatMap Segment.target ++ tail' = part ++ (segments.flatMap Segment.target ++ tail) := by
  cases segments with
  | nil =>
    obtain ⟨split, free⟩ := segmented
    refine ⟨[], part ++ tail, ⟨?_, ?_⟩, rfl, rfl⟩
    · rw [split, List.append_assoc]
    · intro offset old reached
      rcases Nat.lt_or_ge offset (byteLength (start ++ part)) with inside | beyond
      · exact blocked offset old reached inside
      · exact free offset old beyond
  | cons segment later =>
    have gap : start ++ part ++ segment.gap = start ++ (part ++ segment.gap) := List.append_assoc ..
    have source : start ++ part ++ segment.source =
        start ++ Segment.source { segment with gap := part ++ segment.gap } := by
      simp [Segment.source]
    obtain ⟨gapFree, found, longest, mapped, after⟩ := segmented
    rw [gap] at gapFree found longest
    rw [source] at after
    refine ⟨{ segment with gap := part ++ segment.gap } :: later, tail,
      ⟨?_, found, longest, mapped, after⟩, ?_, ?_⟩
    · intro offset old reached inside
      rcases Nat.lt_or_ge offset (byteLength (start ++ part)) with early | beyond
      · exact blocked offset old reached early
      · exact gapFree offset old beyond inside
    · simp only [segmentSpans, gap, source]
    · simp [Segment.target]

/-- A character at which nothing is admissible joins the gap or the tail after it. -/
theorem Segmented.keep {c : Char} {rest : List Char}
    (blocked : ∀ old, ¬Admissible map (start ++ c :: rest) (byteLength start) old)
    (segmented : Segmented map (start ++ c :: rest) (start ++ [c]) segments tail) :
    ∃ segments' tail', Segmented map (start ++ c :: rest) start segments' tail' ∧
      segmentSpans start segments' = segmentSpans (start ++ [c]) segments := by
  have free (offset : Nat) (old : String) (reached : byteLength start ≤ offset)
      (inside : offset < byteLength (start ++ [c])) :
      ¬Admissible map (start ++ c :: rest) offset old := by
    intro admissible
    rcases Nat.lt_or_eq_of_le reached with after | rfl
    · exact Nat.not_le_of_lt inside (admissible.next_of_lt after)
    · exact blocked old admissible
  obtain ⟨segments', tail', kept, spans, -⟩ := segmented.widen free
  exact ⟨segments', tail', kept, spans⟩

/-- An old name that is admissible somewhere begins before the end of the text. -/
theorem Admissible.lt_byteLength {offset : Nat} {old : String}
    (admissible : Admissible map text offset old) : offset < byteLength text := by
  obtain ⟨filled, -, before, after, rfl, rfl, -, -⟩ := admissible
  have size : byteLength old.toList ≠ 0 := fun none =>
    filled (String.toList_eq_nil_iff.1 (byteLength_eq_zero_iff.1 none))
  simp only [byteLength_append]
  omega

/-- What the search takes at a place is admissible there, and nothing longer is. -/
theorem admissible_of_find? {rest old : List Char}
    (search : (Matcher.ofMap map).olds.find? (matchesAt start.getLast? rest) = some old) :
    Admissible map (start ++ rest) (byteLength start) (String.ofList old) ∧
      ∀ other, Admissible map (start ++ rest) (byteLength start) other →
        byteLength other.toList ≤ byteLength old := by
  obtain ⟨matched, shorter, longer, split, skipped⟩ := List.find?_eq_some_iff_append.1 search
  have sorted := Matcher.olds_ofMap_pairwise map
  refine ⟨(admissible_iff_matchesAt old rest).2 ⟨List.mem_of_find?_eq_some search, matched⟩, ?_⟩
  intro other admissible
  rw [← String.ofList_toList (s := other), admissible_iff_matchesAt] at admissible
  rw [split] at admissible sorted
  rcases List.mem_append.1 admissible.1 with before | member
  · exact absurd admissible.2 (by simpa using skipped _ before)
  · rcases List.mem_cons.1 member with same | after
    · exact same ▸ Nat.le_refl _
    · exact List.rel_of_pairwise_cons (List.pairwise_append.1 sorted).2.1 after

/-- Where the search takes nothing, nothing is admissible. -/
theorem not_admissible_of_find? {rest : List Char}
    (search : (Matcher.ofMap map).olds.find? (matchesAt start.getLast? rest) = none) (old : String) :
    ¬Admissible map (start ++ rest) (byteLength start) old := by
  intro admissible
  rw [← String.ofList_toList (s := old), admissible_iff_matchesAt] at admissible
  exact List.find?_eq_none.1 search _ admissible.1 admissible.2

/-- What the search takes is not empty and stands at the front of the text. -/
theorem exists_cons_of_find? {rest old : List Char}
    (search : (Matcher.ofMap map).olds.find? (matchesAt start.getLast? rest) = some old) :
    ∃ c more after, old = c :: more ∧ rest = c :: (more ++ after) := by
  have filled : old ≠ [] := (ofList_ne_empty_iff old).1 (admissible_of_find? search).1.1
  have matched := List.find?_some search
  simp only [matchesAt, Bool.and_eq_true, List.isPrefixOf_iff_prefix] at matched
  obtain ⟨after, rfl⟩ := matched.1.1
  obtain ⟨c, more, rfl⟩ := List.exists_cons_of_ne_nil filled
  exact ⟨c, more, after, rfl, rfl⟩

/-- What the search takes begins a segmentation, without a gap before it. -/
theorem Segmented.found {rest old : List Char}
    (search : (Matcher.ofMap map).olds.find? (matchesAt start.getLast? rest) = some old)
    (segmented : Segmented map (start ++ rest) (start ++ old) segments tail) :
    ∃ segments', Segmented map (start ++ rest) start segments' tail ∧
      segmentSpans start segments' =
        ⟨byteLength start, byteLength start + byteLength old⟩ ::
          segmentSpans (start ++ old) segments := by
  obtain ⟨found, longest⟩ := admissible_of_find? search
  obtain ⟨new, mapped⟩ := RenameMap.exists_get?_of_mem_keys found.2.1
  refine ⟨⟨[], String.ofList old, new⟩ :: segments, ⟨?_, ?_, ?_, mapped, ?_⟩, ?_⟩
  · intro offset other reached inside
    simp only [List.append_nil] at inside
    omega
  · simpa using found
  · simpa using longest
  · simpa [Segment.source] using segmented
  · simp [segmentSpans, Segment.source]

/-- The search from a place on finds the old names of a segmentation. With characters left to skip,
the segmentation begins after them. -/
theorem exists_segmented_findsFrom (map : RenameMap) (start rest : List Char) (skip : Nat)
    (bound : skip ≤ rest.length) :
    ∃ segments tail, Segmented map (start ++ rest) (start ++ rest.take skip) segments tail ∧
      findsFrom (Matcher.ofMap map).olds start.getLast? skip (byteLength start) rest =
        segmentSpans (start ++ rest.take skip) segments := by
  induction rest generalizing start skip with
  | nil =>
    refine ⟨[], [], ⟨by simp, fun offset old reached admissible => ?_⟩, by simp [findsFrom, segmentSpans]⟩
    have inside := admissible.lt_byteLength
    simp only [List.append_nil, List.take_nil] at inside reached
    omega
  | cons c rest ih =>
    have shift : start ++ c :: rest = (start ++ [c]) ++ rest := by simp
    have last : (start ++ [c]).getLast? = some c := by simp
    have size : byteLength (start ++ [c]) = byteLength start + c.utf8Size := by simp
    cases skip with
    | succ skip =>
      have taken : start ++ (c :: rest).take (skip + 1) = start ++ [c] ++ rest.take skip := by simp
      obtain ⟨segments, tail, segmented, finds⟩ :=
        ih (start ++ [c]) skip (Nat.le_of_succ_le_succ bound)
      rw [last, size] at finds
      rw [taken, shift, findsFrom]
      exact ⟨segments, tail, segmented, finds⟩
    | zero =>
      rw [List.take_zero, List.append_nil]
      cases search : (Matcher.ofMap map).olds.find? (matchesAt start.getLast? (c :: rest)) with
      | none =>
        obtain ⟨segments, tail, segmented, finds⟩ := ih (start ++ [c]) 0 (Nat.zero_le _)
        rw [List.take_zero, List.append_nil, ← shift] at segmented
        obtain ⟨segments', tail', kept, spans⟩ := segmented.keep (not_admissible_of_find? search)
        refine ⟨segments', tail', kept, ?_⟩
        rw [last, size, List.take_zero, List.append_nil] at finds
        rw [findsFrom, search, spans]
        exact finds
      | some old =>
        obtain ⟨c, more, after, rfl, ⟨⟩⟩ := exists_cons_of_find? search
        have taken : start ++ [c] ++ (more ++ after).take more.length = start ++ c :: more := by simp
        obtain ⟨segments, tail, segmented, finds⟩ := ih (start ++ [c]) more.length (by simp)
        rw [taken, ← shift] at segmented
        rw [taken, last, size] at finds
        obtain ⟨segments', begun, spans⟩ := segmented.found search
        refine ⟨segments', tail, begun, ?_⟩
        rw [findsFrom, search, spans, ← finds]
        rfl

/-! ## Writing the new names -/

/-- A class list after its old names were replaced. -/
def replaced (segments : List Segment) (tail : List Char) : String :=
  String.ofList (segments.flatMap Segment.target ++ tail)

/-- The replacements of a segmentation, from left to right. -/
def replacements (segments : List Segment) : List (String × String) :=
  segments.map fun segment => (segment.old, segment.new)

/-- One step of the matcher writes the gap and the new name of a segment. -/
theorem Matcher.replaceNext_segment {matcher : Matcher} {progress : Progress} {segment : Segment}
    {rest : List Char} (mapped : matcher.map.get? segment.old = some segment.new)
    (split : text = start ++ (segment.source ++ rest)) (reached : progress.reached = byteLength start) :
    matcher.replaceNext text progress
        ⟨byteLength (start ++ segment.gap), byteLength (start ++ segment.source)⟩ = .ok {
      written := progress.written ++ segment.target
      renamed := progress.renamed ++ [(segment.old, segment.new)]
      reached := byteLength (start ++ segment.source) } := by
  have gap : slice? text ⟨byteLength start, byteLength (start ++ segment.gap)⟩ = some segment.gap := by
    rw [split, Segment.source, List.append_assoc]
    exact slice?_append ..
  have old : slice? text ⟨byteLength (start ++ segment.gap), byteLength (start ++ segment.source)⟩ =
      some segment.old.toList := by
    rw [split, Segment.source, ← List.append_assoc, ← List.append_assoc, List.append_assoc _ _ rest]
    exact slice?_append ..
  simp only [Matcher.replaceNext, reached, gap, old, String.ofList_toList, mapped, Segment.target,
    List.append_assoc]

/-- The whole walk writes all segments. -/
theorem Segmented.foldlM_replaceNext (matcher : Matcher) (progress : Progress)
    (segmented : Segmented matcher.map text start segments tail)
    (reached : progress.reached = byteLength start) :
    (segmentSpans start segments).foldlM (matcher.replaceNext text) progress = .ok {
      written := progress.written ++ segments.flatMap Segment.target
      renamed := progress.renamed ++ replacements segments
      reached := byteLength (start ++ segments.flatMap Segment.source) } := by
  induction segments generalizing start progress with
  | nil => simp [segmentSpans, replacements, ← reached, pure, Except.pure]
  | cons segment later ih =>
    obtain ⟨-, -, -, mapped, rest⟩ := segmented
    have split : text = start ++ (segment.source ++ (later.flatMap Segment.source ++ tail)) := by
      rw [rest.joined, List.append_assoc]
    rw [segmentSpans, List.foldlM_cons, Matcher.replaceNext_segment mapped split reached]
    simp only [bind, Except.bind]
    rw [ih _ rest rfl]
    simp [replacements]

/-- Every class list has a segmentation. -/
theorem exists_segmented (map : RenameMap) (text : List Char) :
    ∃ segments tail, Segmented map text [] segments tail := by
  obtain ⟨segments, tail, segmented, -⟩ := exists_segmented_findsFrom map [] text 0 (Nat.zero_le _)
  exact ⟨segments, tail, by simpa using segmented⟩

/-- The search finds the old names of the segmentation in their places. -/
theorem Segmented.finds_eq (segmented : Segmented map text [] segments tail) :
    (Matcher.ofMap map).finds text = segmentSpans [] segments := by
  obtain ⟨segments', tail', found, finds⟩ := exists_segmented_findsFrom map [] text 0 (Nat.zero_le _)
  rw [List.take_zero, List.append_nil] at found finds
  obtain ⟨rfl, -⟩ := segmented.unique found
  exact finds

/-- A class list is rewritten along its segmentation. -/
theorem Segmented.rewriteValue_eq {value : String}
    (segmented : Segmented map value.toList [] segments tail) :
    (Matcher.ofMap map).rewriteValue value = .ok (
      if segments = [] ∨ replaced segments tail = value then none
      else some { value := replaced segments tail, renamed := replacements segments }) := by
  have walk := segmented.foldlM_replaceNext (Matcher.ofMap map) {} rfl
  have rest : slice? value.toList ⟨byteLength (segments.flatMap Segment.source),
      byteLength value.toList⟩ = some tail := by
    rw [segmented.joined]
    simpa using slice?_append (segments.flatMap Segment.source) tail []
  rw [List.nil_append] at walk
  simp only [Matcher.rewriteValue, segmented.finds_eq, walk]
  cases segments with
  | nil => rfl
  | cons segment later =>
    simp only [rest, List.nil_append, replaced, reduceCtorEq, false_or]
    exact (apply_ite Except.ok ..).symm

/-- The matcher of a rename map renames along the one segmentation of a class list. It never fails,
and it leaves a list alone exactly when the list holds no old name or the new names change
nothing. -/
theorem Matcher.rewriteValue_ofMap (map : RenameMap) (value : String) :
    ∃ segments tail, Segmented map value.toList [] segments tail ∧
      (∀ segments' tail', Segmented map value.toList [] segments' tail' →
        segments' = segments ∧ tail' = tail) ∧
      (Matcher.ofMap map).rewriteValue value = .ok (
        if segments = [] ∨ replaced segments tail = value then none
        else some { value := replaced segments tail, renamed := replacements segments }) := by
  obtain ⟨segments, tail, segmented⟩ := exists_segmented map value.toList
  exact ⟨segments, tail, segmented, fun _ _ other => other.unique segmented, segmented.rewriteValue_eq⟩

end ClassRename
