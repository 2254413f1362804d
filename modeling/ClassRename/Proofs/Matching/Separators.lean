import ClassRename.Proofs.Matching.WholeNames
import Mathlib.Data.List.Forall2

/-! # Class by class

A character separates classes when it belongs to no word and to no old name, as the blank does. Old
names do not reach across it, and for a boundary it counts as the end of a text does. So in a class list
that is put together from two with a separator between them, exactly that is admissible which is
admissible in one of the two. All else follows from this: the segmentations of the two make up one of
the whole, and the list is rewritten class by class.
-/

namespace ClassRename

variable {map : RenameMap} {text text' start tail front front' kept back back' : List Char}
  {segments segments' : List Segment} {tail' : List Char} {offset base : Nat} {old : String} {c : Char}

/-- The character belongs to no word and to no old name of the map. -/
structure Separates (map : RenameMap) (c : Char) : Prop where
  noWord : ¬IsWord c
  foreign : ∀ old ∈ map.keys, c ∉ old.toList

/-! ## The neighbours of a text -/

theorem WordBoundary.of_neighbours (left : EndsWithWord front ↔ EndsWithWord front')
    (right : BeginsWithWord back ↔ BeginsWithWord back') (boundary : WordBoundary front back) :
    WordBoundary front' back' := by
  rwa [wordBoundary_iff, ← left, ← right]

/-- Texts that both end with a word, or both do not, still do so with the same text put behind. -/
theorem endsWithWord_append_congr (same : EndsWithWord front ↔ EndsWithWord front')
    (text : List Char) : EndsWithWord (front ++ text) ↔ EndsWithWord (front' ++ text) := by
  rcases List.eq_nil_or_concat text with rfl | ⟨text, c, rfl⟩
  · simpa using same
  · simp [EndsWithWord]

/-- Texts that both begin with a word, or both do not, still do so with the same text put before. -/
theorem beginsWithWord_append_congr (same : BeginsWithWord back ↔ BeginsWithWord back')
    (text : List Char) : BeginsWithWord (text ++ back) ↔ BeginsWithWord (text ++ back') := by
  cases text with
  | nil => exact same
  | cons c text => simp [BeginsWithWord]

/-- What is admissible in a part of a text is admissible there in each text that has the part, if the
neighbours of the part are words in both texts or in neither. -/
theorem Admissible.of_neighbours (left : EndsWithWord front ↔ EndsWithWord front')
    (right : BeginsWithWord back ↔ BeginsWithWord back')
    (admissible : Admissible map (front ++ (kept ++ back)) (byteLength front + offset) old)
    (inside : offset + byteLength old.toList ≤ byteLength kept) :
    Admissible map (front' ++ (kept ++ back')) (byteLength front' + offset) old := by
  obtain ⟨filled, member, before, after, split, place, opens, closes⟩ := admissible
  obtain ⟨lead, rfl, rest⟩ := exists_append_of_byteLength_le split (by omega)
  rw [byteLength_append] at place
  have shorter : byteLength (lead ++ old.toList) ≤ byteLength kept := by
    rw [byteLength_append]
    omega
  rw [← List.append_assoc] at rest
  obtain ⟨trail, rfl, rfl⟩ := exists_append_of_byteLength_le rest.symm shorter
  refine ⟨filled, member, front' ++ lead, trail ++ back', by simp, ?_, ?_, ?_⟩
  · rw [byteLength_append]
    omega
  · apply opens.of_neighbours
    · exact endsWithWord_append_congr left lead
    · exact beginsWithWord_append_congr (beginsWithWord_append_congr right trail) old.toList
  · apply closes.of_neighbours
    · exact endsWithWord_append_congr (endsWithWord_append_congr left lead) old.toList
    · exact beginsWithWord_append_congr right trail

/-! ## The two sides of a separator -/

/-- No old name reaches from one side of a separator to the other. -/
theorem Separates.ends_before (separates : Separates map c)
    (admissible : Admissible map (front ++ c :: back) offset old) (reached : offset ≤ byteLength front) :
    offset + byteLength old.toList ≤ byteLength front := by
  obtain ⟨-, member, before, after, split, rfl, -, -⟩ := admissible
  by_contra beyond
  obtain ⟨lead, rfl, rest⟩ := exists_append_of_byteLength_le split.symm reached
  -- The old name begins with what is left of the front, and the separator is its next character.
  have longer : byteLength lead ≤ byteLength old.toList := by
    rw [byteLength_append] at beyond
    omega
  obtain ⟨between, whole, same⟩ := exists_append_of_byteLength_le rest.symm longer
  cases between with
  | nil =>
    rw [whole, List.append_nil, byteLength_append] at beyond
    exact beyond (Nat.le_refl _)
  | cons d between =>
    obtain ⟨rfl, -⟩ := List.cons_eq_cons.1 same
    apply separates.foreign old member
    rw [whole]
    simp

/-- Before a separator that is admissible which is so without the separator and what follows it. -/
theorem Separates.admissible_front_iff (separates : Separates map c) (reached : offset ≤ byteLength front) :
    Admissible map (front ++ c :: back) offset old ↔ Admissible map front offset old := by
  have atEnd : BeginsWithWord (c :: back) ↔ BeginsWithWord [] := by
    constructor
    · rintro ⟨d, first, isWord⟩
      cases first
      exact absurd isWord separates.noWord
    · intro never
      exact absurd never not_beginsWithWord_nil
  constructor
  · intro admissible
    have found : Admissible map ([] ++ (front ++ c :: back)) (byteLength [] + offset) old := by
      simpa using admissible
    have kept := found.of_neighbours Iff.rfl atEnd (separates.ends_before admissible reached)
    simpa using kept
  · intro admissible
    have found : Admissible map ([] ++ (front ++ [])) (byteLength [] + offset) old := by
      simpa using admissible
    have kept := found.of_neighbours Iff.rfl atEnd.symm admissible.le_byteLength
    simpa using kept

/-- After a separator that is admissible which is so without the separator and what is before it. -/
theorem Separates.admissible_back_iff (separates : Separates map c) :
    Admissible map (front ++ c :: back) (byteLength (front ++ [c]) + offset) old ↔
      Admissible map back offset old := by
  have atStart : EndsWithWord (front ++ [c]) ↔ EndsWithWord [] := by
    constructor
    · rintro ⟨d, last, isWord⟩
      obtain rfl : c = d := by simpa using last
      exact absurd isWord separates.noWord
    · intro never
      exact absurd never not_endsWithWord_nil
  constructor
  · intro admissible
    have inside : offset + byteLength old.toList ≤ byteLength back := by
      have within := admissible.le_byteLength
      simp only [byteLength_append, byteLength_cons, byteLength_nil] at within
      omega
    have found : Admissible map (front ++ [c] ++ (back ++ [])) (byteLength (front ++ [c]) + offset)
        old := by
      simpa using admissible
    have kept := found.of_neighbours atStart Iff.rfl inside
    simpa using kept
  · intro admissible
    have found : Admissible map ([] ++ (back ++ [])) (byteLength [] + offset) old := by
      simpa using admissible
    have kept := found.of_neighbours atStart.symm Iff.rfl admissible.le_byteLength
    simpa using kept

/-! ## Segmentations put together -/

/-- A segmentation of a text is one of a longer text behind the front, if the same is admissible
there. -/
theorem Segmented.shift (segmented : Segmented map text start segments tail)
    (same : ∀ offset old, Admissible map (front ++ text) (byteLength front + offset) old ↔
      Admissible map text offset old) :
    Segmented map (front ++ text) (front ++ start) segments tail := by
  induction segments generalizing start with
  | nil =>
    obtain ⟨rfl, free⟩ := segmented
    refine ⟨(List.append_assoc ..).symm, ?_⟩
    intro offset old reached
    rw [byteLength_append] at reached
    obtain ⟨place, rfl⟩ := Nat.exists_eq_add_of_le (Nat.le_of_add_right_le reached)
    rw [same]
    exact free place old (by omega)
  | cons segment later ih =>
    obtain ⟨free, found, longest, mapped, rest⟩ := segmented
    have gap : byteLength (front ++ start ++ segment.gap) =
        byteLength front + byteLength (start ++ segment.gap) := by
      rw [List.append_assoc, byteLength_append]
    refine ⟨?_, ?_, ?_, mapped, ?_⟩
    · intro offset old reached inside
      rw [gap] at inside
      rw [byteLength_append] at reached
      obtain ⟨place, rfl⟩ := Nat.exists_eq_add_of_le (Nat.le_of_add_right_le reached)
      rw [same]
      exact free place old (by omega) (by omega)
    · rw [gap, same]
      exact found
    · intro old admissible
      rw [gap, same] at admissible
      exact longest old admissible
    · rw [List.append_assoc]
      exact ih rest

/-- A segmentation of what is after a separator is one of the whole. -/
theorem Segmented.behind (separates : Separates map c)
    (segmented : Segmented map back [] segments tail) :
    Segmented map (front ++ c :: back) (front ++ [c]) segments tail := by
  have same (offset : Nat) (old : String) :
      Admissible map (front ++ [c] ++ back) (byteLength (front ++ [c]) + offset) old ↔
        Admissible map back offset old := by
    rw [List.append_assoc]
    exact separates.admissible_back_iff
  simpa using segmented.shift same

/-- Segmentations of what is before a separator and of what is after it make up one of the whole. -/
theorem Segmented.separated (separates : Separates map c)
    (first : Segmented map front start segments tail)
    (second : Segmented map (front ++ c :: back) (front ++ [c]) segments' tail') :
    ∃ joined rest, Segmented map (front ++ c :: back) start joined rest ∧
      joined.flatMap Segment.target ++ rest =
        segments.flatMap Segment.target ++ tail ++ c :: (segments'.flatMap Segment.target ++ tail') := by
  induction segments generalizing start with
  | nil =>
    obtain ⟨split, free⟩ := first
    have gap : start ++ (tail ++ [c]) = front ++ [c] := by
      rw [split, List.append_assoc]
    have blocked (offset : Nat) (old : String) (reached : byteLength start ≤ offset)
        (inside : offset < byteLength (start ++ (tail ++ [c]))) :
        ¬Admissible map (front ++ c :: back) offset old := by
      intro admissible
      rw [gap] at inside
      rcases Nat.lt_or_ge (byteLength front) offset with after | before
      · exact Nat.not_le_of_lt inside (admissible.next_of_lt after)
      · exact free offset old reached ((separates.admissible_front_iff before).1 admissible)
    rw [← gap] at second
    obtain ⟨joined, rest, whole, -, written⟩ := second.widen blocked
    refine ⟨joined, rest, whole, ?_⟩
    rw [written]
    simp
  | cons segment later ih =>
    obtain ⟨free, found, longest, mapped, after⟩ := first
    have here := Nat.le_of_lt found.lt_byteLength
    obtain ⟨joined, rest, whole, written⟩ := ih after
    refine ⟨segment :: joined, rest, ⟨?_, ?_, ?_, mapped, whole⟩, ?_⟩
    · intro offset old reached inside
      have before : offset ≤ byteLength front := by omega
      rw [separates.admissible_front_iff before]
      exact free offset old reached inside
    · exact (separates.admissible_front_iff here).2 found
    · intro old admissible
      exact longest old ((separates.admissible_front_iff here).1 admissible)
    · simp only [List.flatMap_cons, List.append_assoc] at written ⊢
      rw [written]

/-! ## What a class list becomes -/

/-- The text of a class list with its old names replaced, be it another text or the same. -/
def Matcher.rewritten (matcher : Matcher) (value : String) : Except MatchError String := do
  return (← matcher.rewriteText value).getD value

/-- A class list becomes what its segmentation does. -/
theorem Segmented.rewritten_eq {value : String} (segmented : Segmented map value.toList [] segments tail) :
    (Matcher.ofMap map).rewritten value = .ok (replaced segments tail) := by
  rw [Matcher.rewritten, Matcher.rewriteText, segmented.rewriteValue_eq]
  split
  · next same =>
    have stays : replaced segments tail = value := by
      rcases same with rfl | same
      · have split := segmented.joined
        simp only [List.flatMap_nil, List.nil_append] at split
        rw [replaced, List.flatMap_nil, List.nil_append, ← split, String.ofList_toList]
      · exact same
    rw [stays]
    rfl
  · rfl

/-- A class list is rewritten class by class. Two class lists with a separator between them become what
they become one by one, with the separator between; and so does a list of any number of classes. None of
this fails. -/
theorem Matcher.rewritten_separated (map : RenameMap) (c : Char) (separates : Separates map c) :
    (∀ a b : String, ∃ left right, (Matcher.ofMap map).rewritten a = .ok left ∧
      (Matcher.ofMap map).rewritten b = .ok right ∧
      (Matcher.ofMap map).rewritten (a ++ String.singleton c ++ b) =
        .ok (left ++ String.singleton c ++ right)) ∧
    ∀ classes : List String, ∃ news,
      List.Forall₂ (fun text new => (Matcher.ofMap map).rewritten text = .ok new) classes news ∧
      (Matcher.ofMap map).rewritten (String.intercalate (String.singleton c) classes) =
        .ok (String.intercalate (String.singleton c) news) := by
  have pair (a b : String) : ∃ left right, (Matcher.ofMap map).rewritten a = .ok left ∧
      (Matcher.ofMap map).rewritten b = .ok right ∧
      (Matcher.ofMap map).rewritten (a ++ String.singleton c ++ b) =
        .ok (left ++ String.singleton c ++ right) := by
    obtain ⟨segments, tail, first⟩ := exists_segmented map a.toList
    obtain ⟨segments', tail', second⟩ := exists_segmented map b.toList
    obtain ⟨joined, rest, whole, written⟩ := first.separated separates (second.behind separates)
    have value : (a ++ String.singleton c ++ b).toList = a.toList ++ c :: b.toList := by simp
    rw [← value] at whole
    have text : replaced joined rest =
        replaced segments tail ++ String.singleton c ++ replaced segments' tail' := by
      apply String.toList_injective
      simp only [replaced, written, String.toList_append, String.toList_ofList, String.toList_singleton]
      simp
    exact ⟨_, _, first.rewritten_eq, second.rewritten_eq, text ▸ whole.rewritten_eq⟩
  refine ⟨pair, fun classes => ?_⟩
  induction classes with
  | nil =>
    have empty : Segmented map "".toList [] [] [] :=
      ⟨rfl, fun offset old _ admissible => Nat.not_lt_zero offset admissible.lt_byteLength⟩
    exact ⟨[], .nil, empty.rewritten_eq⟩
  | cons first later ih =>
    obtain ⟨news, each, joined⟩ := ih
    obtain ⟨left, right, here, there, whole⟩ :=
      pair first (String.intercalate (String.singleton c) later)
    cases there.symm.trans joined
    refine ⟨left :: news, .cons here each, ?_⟩
    cases each with
    | nil => simpa using here
    | cons =>
      rw [String.intercalate_cons_cons, String.intercalate_cons_cons]
      exact whole

/-- A margin, the negative one, and a padding. -/
def marginMap : RenameMap :=
  .ofList [("-m-1", "-m-2"), ("m-1", "ms-1"), ("p-1", "m-1")]

/-- Blanks separate classes, and each class becomes what it becomes alone. -/
theorem Matcher.rewritten_separated_margins :
    Separates marginMap ' ' ∧
    (Matcher.ofMap marginMap).rewritten "hover:p-1 x-m-1" = .ok "hover:m-1 x-m-2" ∧
    (Matcher.ofMap marginMap).rewritten "-m-1 p-10" = .ok "-ms-1 p-10" ∧
    (Matcher.ofMap marginMap).rewritten "hover:p-1 x-m-1 -m-1 p-10" =
      .ok "hover:m-1 x-m-2 -ms-1 p-10" := by
  have separates : Separates marginMap ' ' :=
    ⟨fun isWord => absurd ((isWordChar_iff ' ').2 isWord) (by decide), by decide +kernel⟩
  have first : (Matcher.ofMap marginMap).rewritten "hover:p-1 x-m-1" = .ok "hover:m-1 x-m-2" := by
    rw [ofMap_of_pairwise (by decide +kernel)]
    decide +kernel
  have second : (Matcher.ofMap marginMap).rewritten "-m-1 p-10" = .ok "-ms-1 p-10" := by
    rw [ofMap_of_pairwise (by decide +kernel)]
    decide +kernel
  obtain ⟨left, right, here, there, whole⟩ :=
    (rewritten_separated marginMap ' ' separates).1 "hover:p-1 x-m-1" "-m-1 p-10"
  cases first.symm.trans here
  cases second.symm.trans there
  exact ⟨separates, first, second, whole⟩

end ClassRename
