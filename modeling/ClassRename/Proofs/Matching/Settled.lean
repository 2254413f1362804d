import ClassRename.Proofs.RenameMap
import ClassRename.Proofs.Matching.Renaming
import Mathlib.Data.List.Basic

/-! # Rewriting a class list again

A rewritten class list holds its gaps as they were, and what stood at the end of a gap was a word
boundary before and after. So an old name that is admissible in the rewritten list takes in some part
of a new name. That the new names are no old names does not rule this out: an old name may stand
inside a new one, or begin in the text before it. A map is settled when an old name that can take in
part of a new name stands for itself; then a second rewriting changes nothing.
-/

namespace ClassRename

variable {map : RenameMap} {text start start' tail : List Char} {segments : List Segment}
  {offset : Nat} {old : String}

/-! ## Old names in a rewritten class list -/

/-- A boundary is told by the characters next to it. -/
theorem WordBoundary.congr {before before' after after' : List Char}
    (last : before.getLast? = before'.getLast?) (head : after.head? = after'.head?)
    (boundary : WordBoundary before after) : WordBoundary before' after' := by
  rwa [WordBoundary, ← last, ← head]

/-- An old name that is admissible in a kept part of another text is admissible in this text too, if
the ends of the part are boundaries here or have the same neighbours there. -/
theorem Admissible.of_kept {front front' kept back back' : List Char}
    (left : front.getLast? = front'.getLast? ∨ WordBoundary front (kept ++ back))
    (right : back.head? = back'.head? ∨ WordBoundary (front ++ kept) back)
    (admissible : Admissible map (front' ++ (kept ++ back')) offset old)
    (reached : byteLength front' ≤ offset)
    (inside : offset + byteLength old.toList ≤ byteLength (front' ++ kept)) :
    ∃ offset', byteLength front ≤ offset' ∧ offset' < byteLength (front ++ kept) ∧
      Admissible map (front ++ (kept ++ back)) offset' old := by
  obtain ⟨filled, member, before, after, split, rfl, opens, closes⟩ := admissible
  have filled' : old.toList ≠ [] := mt String.toList_eq_nil_iff.1 filled
  obtain ⟨lead, rfl, rest⟩ := exists_append_of_byteLength_le split reached
  -- The name ends in the part as well, so the part is its lead, the name and what follows it.
  have shorter : byteLength (lead ++ old.toList) ≤ byteLength kept := by
    simp only [byteLength_append] at inside ⊢
    omega
  rw [← List.append_assoc] at rest
  obtain ⟨trail, rfl, rfl⟩ := exists_append_of_byteLength_le rest.symm shorter
  have size := Nat.pos_of_ne_zero (mt byteLength_eq_zero_iff.1 filled')
  refine ⟨byteLength (front ++ lead), byteLength_le_append .., ?_, filled, member,
    front ++ lead, trail ++ back, by simp, rfl, ?_, ?_⟩
  · simp only [byteLength_append]
    omega
  · have head : (old.toList ++ (trail ++ back')).head? = (old.toList ++ (trail ++ back)).head? := by
      rw [List.head?_append_of_ne_nil _ filled', List.head?_append_of_ne_nil _ filled']
    rcases List.eq_nil_or_concat lead with rfl | ⟨lead, c, rfl⟩
    · rcases left with same | boundary
      · exact opens.congr (by simpa using same.symm) head
      · simpa using boundary
    · exact opens.congr (by simp) head
  · have last : (front' ++ lead ++ old.toList).getLast? = (front ++ lead ++ old.toList).getLast? := by
      rw [List.getLast?_append_of_ne_nil _ filled', List.getLast?_append_of_ne_nil _ filled']
    cases trail with
    | nil =>
      rcases right with same | boundary
      · exact closes.congr last same.symm
      · simpa using boundary
    | cons c trail => exact closes.congr last rfl

/-- An old name that is admissible in what a segmentation becomes takes in part of a new name. -/
theorem Segmented.exists_new_of_admissible (segmented : Segmented map text start segments tail)
    (seam : start.getLast? = start'.getLast? ∨
      WordBoundary start (segments.flatMap Segment.source ++ tail))
    (admissible : Admissible map (start' ++ (segments.flatMap Segment.target ++ tail)) offset old)
    (reached : byteLength start' ≤ offset) :
    ∃ segment ∈ segments, ∃ before after,
      start' ++ (segments.flatMap Segment.target ++ tail) =
        before ++ (segment.new.toList ++ after) ∧
      offset < byteLength (before ++ segment.new.toList) ∧
      byteLength before < offset + byteLength old.toList := by
  induction segments generalizing start start' with
  | nil =>
    obtain ⟨rfl, free⟩ := segmented
    have inside : offset + byteLength old.toList ≤ byteLength (start' ++ tail) := by
      obtain ⟨-, -, before, after, split, rfl, -, -⟩ := admissible
      have whole := congrArg byteLength split
      simp only [List.flatMap_nil, List.nil_append, byteLength_append] at whole ⊢
      omega
    simp only [List.flatMap_nil, List.nil_append] at admissible seam
    rw [← List.append_nil tail] at admissible seam
    obtain ⟨place, after, -, found⟩ := admissible.of_kept seam (.inl rfl) reached inside
    rw [List.append_nil] at found
    exact absurd found (free place old after)
  | cons segment later ih =>
    obtain ⟨free, ⟨-, -, before, after, split, place, opens, closes⟩, -, -, rest⟩ := segmented
    have joined : text = start ++ (segment.gap ++ (segment.old.toList ++
        (later.flatMap Segment.source ++ tail))) := by
      rw [rest.joined]
      simp [Segment.source]
    -- The gap of the segment and the new name after it, in the rewritten text.
    have written : start' ++ ((segment :: later).flatMap Segment.target ++ tail) =
        start' ++ (segment.gap ++ (segment.new.toList ++ (later.flatMap Segment.target ++ tail))) := by
      simp [Segment.target]
    have cut : before = start ++ segment.gap ∧
        after = later.flatMap Segment.source ++ tail := by
      rw [joined, ← List.append_assoc] at split
      obtain ⟨rfl, same⟩ := append_inj_of_byteLength_eq split place.symm
      exact ⟨rfl, (List.append_cancel_left same).symm⟩
    obtain ⟨rfl, rfl⟩ := cut
    by_cases inGap : offset + byteLength old.toList ≤ byteLength (start' ++ segment.gap)
    · rw [written] at admissible
      rw [List.flatMap_cons, Segment.source, List.append_assoc, List.append_assoc] at seam
      obtain ⟨place, after, inside, found⟩ := admissible.of_kept seam (.inr opens) reached inGap
      rw [← joined] at found
      exact absurd found (free place old after inside)
    · by_cases beyond : byteLength (start' ++ segment.target) ≤ offset
      · have shift : start' ++ ((segment :: later).flatMap Segment.target ++ tail) =
            start' ++ segment.target ++ (later.flatMap Segment.target ++ tail) := by
          simp
        rw [shift] at admissible ⊢
        have seam' : WordBoundary (start ++ segment.source)
            (later.flatMap Segment.source ++ tail) := by
          rwa [Segment.source, ← List.append_assoc]
        obtain ⟨other, isSegment, found⟩ := ih rest (.inr seam') admissible beyond
        exact ⟨other, List.mem_cons_of_mem _ isSegment, found⟩
      · refine ⟨segment, List.mem_cons_self, start' ++ segment.gap,
          later.flatMap Segment.target ++ tail, ?_, ?_, ?_⟩
        · rw [written, List.append_assoc]
        · rw [Segment.target, ← List.append_assoc] at beyond
          exact Nat.lt_of_not_le beyond
        · exact Nat.lt_of_not_le inGap

/-! ## Settled maps -/

/-- Whether an old name can begin where a new name does, with what follows the new name left open. -/
def meetsFront (old new : List Char) : Bool :=
  new.isPrefixOf old ||
    (old.isPrefixOf new && isBoundary old.getLast? (new.drop old.length).head?)

/-- Whether an old name can be found in a text so that it takes in part of a new name there. -/
def touches (old new : List Char) : Bool :=
  ((List.range new.length).any fun n =>
    (n == 0 || isBoundary (new.take n).getLast? old.head?) && meetsFront old (new.drop n)) ||
  (List.range old.length).any fun n => n != 0 && meetsFront (old.drop n) new

/-- Every old name that can be found in part of a new name stands for itself. -/
def RenameMap.Settled (map : RenameMap) : Prop :=
  ∀ entry ∈ map.toList, entry.1 ≠ "" → ∀ old ∈ map.keys, old ≠ "" →
    touches old.toList entry.2.toList = true → map.get? old = some old

instance : DecidablePred RenameMap.Settled := fun map =>
  inferInstanceAs <| Decidable <| ∀ entry ∈ map.toList, entry.1 ≠ "" → ∀ old ∈ map.keys, old ≠ "" →
    touches old.toList entry.2.toList = true → map.get? old = some old

theorem meetsFront_of_append_eq {old new rest rest' : List Char} (same : old ++ rest = new ++ rest')
    (closes : isBoundary old.getLast? rest.head? = true) : meetsFront old new = true := by
  rw [meetsFront, Bool.or_eq_true, Bool.and_eq_true]
  rcases List.append_eq_append_iff.1 same with ⟨between, rfl, rfl⟩ | ⟨between, rfl, -⟩
  · cases between with
    | nil => exact .inl (by simp)
    | cons c between => exact .inr ⟨by simp, by simpa using closes⟩
  · exact .inl (by simp)

/-- What is found in part of a new name can be found there. -/
theorem Admissible.touches {before new after : List Char}
    (admissible : Admissible map (before ++ (new ++ after)) offset old)
    (starts : offset < byteLength (before ++ new))
    (ends : byteLength before < offset + byteLength old.toList) :
    touches old.toList new = true := by
  obtain ⟨filled, -, front, back, split, rfl, opens, closes⟩ := admissible
  have filled' : old.toList ≠ [] := mt String.toList_eq_nil_iff.1 filled
  rw [← isBoundary_iff, List.getLast?_append_of_ne_nil _ filled'] at closes
  rw [← isBoundary_iff, List.head?_append_of_ne_nil _ filled'] at opens
  rw [ClassRename.touches, Bool.or_eq_true, List.any_eq_true, List.any_eq_true]
  rcases Nat.lt_or_ge (byteLength front) (byteLength before) with earlier | later
  · right
    obtain ⟨lead, rfl, rest⟩ := exists_append_of_byteLength_le split.symm (Nat.le_of_lt earlier)
    have shorter : byteLength lead ≤ byteLength old.toList := by
      simp only [byteLength_append] at ends
      omega
    obtain ⟨inside, whole, same⟩ := exists_append_of_byteLength_le rest.symm shorter
    have begun : lead ≠ [] := by
      rintro rfl
      simp at earlier
    have room : inside ≠ [] := by
      rintro rfl
      simp [whole] at ends
    have longer : lead.length < old.toList.length := by
      rw [whole, List.length_append]
      have := List.length_pos_iff.2 room
      omega
    refine ⟨lead.length, List.mem_range.2 longer, ?_⟩
    rw [whole, List.getLast?_append_of_ne_nil _ room] at closes
    rw [Bool.and_eq_true, whole, List.drop_left]
    exact ⟨by simpa using begun, meetsFront_of_append_eq same.symm closes⟩
  · left
    obtain ⟨lead, rfl, rest⟩ := exists_append_of_byteLength_le split later
    have shorter : byteLength lead ≤ byteLength new := by
      simp only [byteLength_append] at starts
      omega
    obtain ⟨inside, rfl, same⟩ := exists_append_of_byteLength_le rest.symm shorter
    have room : 0 < inside.length := by
      refine List.length_pos_iff.2 fun none => ?_
      simp [none] at starts
    refine ⟨lead.length, by simpa using room, ?_⟩
    rw [Bool.and_eq_true, Bool.or_eq_true, List.take_left, List.drop_left]
    refine ⟨?_, meetsFront_of_append_eq same closes⟩
    rcases List.eq_nil_or_concat lead with rfl | ⟨lead, c, rfl⟩
    · exact .inl rfl
    · exact .inr (by simpa using opens)

/-- The old names of a segmentation are admissible, and the map has their new names. -/
theorem Segmented.admissible_of_mem (segmented : Segmented map text start segments tail)
    {segment : Segment} (isSegment : segment ∈ segments) :
    (∃ offset, Admissible map text offset segment.old) ∧
      map.get? segment.old = some segment.new := by
  induction segments generalizing start with
  | nil => cases isSegment
  | cons first later ih =>
    obtain ⟨-, found, -, mapped, rest⟩ := segmented
    rcases List.mem_cons.1 isSegment with rfl | isLater
    · exact ⟨⟨_, found⟩, mapped⟩
    · exact ih rest isLater

/-- Segments whose names stand for themselves stay as they are. -/
theorem flatMap_target_eq (same : ∀ segment ∈ segments, segment.new = segment.old) :
    segments.flatMap Segment.target = segments.flatMap Segment.source :=
  List.flatMap_congr fun segment isSegment => by
    rw [Segment.target, Segment.source, same segment isSegment]

/-- What the matcher makes of a class list comes of its segmentation. -/
theorem Matcher.exists_segmented_of_rewriteValue {value : String} {change : Renaming}
    (renamed : (Matcher.ofMap map).rewriteValue value = .ok (some change)) :
    ∃ segments tail, Segmented map value.toList [] segments tail ∧
      change = { value := replaced segments tail, renamed := replacements segments } := by
  obtain ⟨segments, tail, segmented⟩ := exists_segmented map value.toList
  rw [segmented.rewriteValue_eq] at renamed
  split at renamed
  · cases renamed
  · exact ⟨segments, tail, segmented, by cases renamed; rfl⟩

/-- An old name that is admissible in a rewritten class list takes in part of a new name that was
written there. So a second rewriting changes nothing if the map is settled. -/
theorem Matcher.rewriteValue_rewritten (map : RenameMap) (value : String) (change : Renaming)
    (renamed : (Matcher.ofMap map).rewriteValue value = .ok (some change)) :
    (∀ offset old, Admissible map change.value.toList offset old →
      ∃ entry ∈ change.renamed, ∃ before after,
        change.value.toList = before ++ (entry.2.toList ++ after) ∧
        offset < byteLength (before ++ entry.2.toList) ∧
        byteLength before < offset + byteLength old.toList) ∧
    (map.Settled → (Matcher.ofMap map).rewriteValue change.value = .ok none) := by
  obtain ⟨segments, tail, segmented, rfl⟩ := exists_segmented_of_rewriteValue renamed
  have written : (replaced segments tail).toList =
      [] ++ (segments.flatMap Segment.target ++ tail) := by
    rw [replaced, String.toList_ofList, List.nil_append]
  have across (offset : Nat) (old : String)
      (admissible : Admissible map (replaced segments tail).toList offset old) :
      ∃ segment ∈ segments, ∃ before after,
        (replaced segments tail).toList = before ++ (segment.new.toList ++ after) ∧
        offset < byteLength (before ++ segment.new.toList) ∧
        byteLength before < offset + byteLength old.toList := by
    rw [written] at admissible ⊢
    exact segmented.exists_new_of_admissible (.inl rfl) admissible (Nat.zero_le _)
  constructor
  · intro offset old admissible
    obtain ⟨segment, isSegment, found⟩ := across offset old admissible
    exact ⟨(segment.old, segment.new), List.mem_map_of_mem isSegment, found⟩
  · intro settled
    obtain ⟨again, tail', segmented'⟩ := exists_segmented map (replaced segments tail).toList
    have same (segment' : Segment) (isSegment' : segment' ∈ again) :
        segment'.new = segment'.old := by
      obtain ⟨⟨offset, admissible⟩, mapped'⟩ := segmented'.admissible_of_mem isSegment'
      obtain ⟨segment, isSegment, before, after, split, starts, ends⟩ := across offset _ admissible
      obtain ⟨⟨place, found⟩, mapped⟩ := segmented.admissible_of_mem isSegment
      have touched : touches segment'.old.toList segment.new.toList = true := by
        rw [split] at admissible
        exact admissible.touches starts ends
      have itself : map.get? segment'.old = some segment'.old :=
        settled _ (RenameMap.mem_toList_of_get? mapped) found.1 _ admissible.2.1 admissible.1 touched
      exact Option.some.inj (mapped'.symm.trans itself)
    rw [segmented'.rewriteValue_eq, if_pos]
    right
    rw [replaced, flatMap_target_eq same, ← List.nil_append (again.flatMap _ ++ tail'),
      ← segmented'.joined, String.ofList_toList]

/-- A color with a name of its own is settled: the variant and the padding beside it stay. -/
theorem Matcher.rewriteValue_rewritten_color :
    (RenameMap.ofList [("text-primary-main", "text-red-500")]).Settled ∧
    (Matcher.ofMap (.ofList [("text-primary-main", "text-red-500")])).rewriteValue
      "hover:text-red-500 p-2" = .ok none :=
  have settled : (RenameMap.ofList [("text-primary-main", "text-red-500")]).Settled := by
    decide +kernel
  ⟨settled, (rewriteValue_rewritten (.ofList [("text-primary-main", "text-red-500")])
    "hover:text-primary-main p-2"
    ⟨"hover:text-red-500 p-2", [("text-primary-main", "text-red-500")]⟩ (by decide +kernel)).2 settled⟩

/-- A map without chained old names that is not settled: the old name stands inside the new one, so
each rewriting makes the list longer. -/
theorem Matcher.rewriteValue_grows :
    (RenameMap.ofList [("text-primary", "text-primary-main")]).chainedKeys = [] ∧
    (Matcher.ofMap (.ofList [("text-primary", "text-primary-main")])).rewriteValue "text-primary" =
      .ok (some ⟨"text-primary-main", [("text-primary", "text-primary-main")]⟩) ∧
    (Matcher.ofMap (.ofList [("text-primary", "text-primary-main")])).rewriteValue
        "text-primary-main" =
      .ok (some ⟨"text-primary-main-main", [("text-primary", "text-primary-main")]⟩) := by
  decide +kernel

end ClassRename
