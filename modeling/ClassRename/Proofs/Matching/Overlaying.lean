import ClassRename.Proofs.Matching.Settled

/-! # Old names that cannot be laid over new ones

One text can be laid over another when, at some shift, they have a place in common and hold the same
character at each such place. An old name that is found in a rewritten class list takes in part of a
new name there, so the one can be laid over the other. Where that is ruled out for all names of a map,
a rewritten class list holds no old name at all, and rewriting it again changes nothing.
-/

namespace ClassRename

variable {map : RenameMap} {front rest before after upper lower new : List Char} {offset : Nat}
  {old : String}

/-- The first text can be laid over the second: once the place `m` of the one lies on the place `n` of
the other, wherever both have a place they have the same character. -/
def Overlays (upper lower : List Char) : Prop :=
  ∃ m < upper.length, ∃ n < lower.length, ∀ i < upper.length, ∀ j < lower.length,
    i + n = j + m → upper[i]? = lower[j]?

instance (upper lower : List Char) : Decidable (Overlays upper lower) :=
  inferInstanceAs <| Decidable <| ∃ m < upper.length, ∃ n < lower.length, ∀ i < upper.length,
    ∀ j < lower.length, i + n = j + m → upper[i]? = lower[j]?

/-- Of two ways to cut one text, the one that cuts at an earlier byte cuts before fewer characters. -/
theorem length_lt_of_byteLength_lt {a b c d : List Char} (same : a ++ b = c ++ d)
    (shorter : byteLength a < byteLength c) : a.length < c.length := by
  obtain ⟨between, rfl, -⟩ := exists_append_of_byteLength_le same (Nat.le_of_lt shorter)
  cases between with
  | nil => simp at shorter
  | cons c between => simp

/-- Texts that stand in one text and share some part of it can be laid over each other. -/
theorem Overlays.of_append_eq (same : front ++ (upper ++ rest) = before ++ (lower ++ after))
    (starts : front.length < (before ++ lower).length)
    (ends : before.length < (front ++ upper).length) (filled : upper ≠ []) (filled' : lower ≠ []) :
    Overlays upper lower := by
  have size := List.length_pos_iff.2 filled
  have size' := List.length_pos_iff.2 filled'
  rw [List.length_append] at starts ends
  -- The later of the two beginnings is a place of both.
  refine ⟨before.length - front.length, by omega, front.length - before.length, by omega,
    fun i inside j inside' aligned => ?_⟩
  have place : front.length + i = before.length + j := by omega
  have left : (front ++ (upper ++ rest))[front.length + i]? = upper[i]? := by
    rw [List.getElem?_append_right (Nat.le_add_right ..), Nat.add_sub_cancel_left,
      List.getElem?_append_left inside]
  have right : (before ++ (lower ++ after))[before.length + j]? = lower[j]? := by
    rw [List.getElem?_append_right (Nat.le_add_right ..), Nat.add_sub_cancel_left,
      List.getElem?_append_left inside']
  rw [← left, ← right, same, place]

/-- An old name that takes in part of a text can be laid over it. -/
theorem Admissible.overlays (admissible : Admissible map (before ++ (new ++ after)) offset old)
    (starts : offset < byteLength (before ++ new))
    (ends : byteLength before < offset + byteLength old.toList) (filled : new ≠ []) :
    Overlays old.toList new := by
  obtain ⟨filled', -, front, rest, split, rfl, -, -⟩ := admissible
  rw [← byteLength_append] at ends
  refine .of_append_eq split.symm ?_ ?_ (mt String.toList_eq_nil_iff.1 filled') filled
  · refine length_lt_of_byteLength_lt (b := old.toList ++ rest) (d := after) ?_ starts
    rw [← split, List.append_assoc]
  · refine length_lt_of_byteLength_lt (b := new ++ after) (d := rest) ?_ ends
    rw [split, List.append_assoc]

/-- If no new name is empty and no old name can be laid over a new one, a rewritten class list holds no
old name, whatever characters the names begin and end with. So a second rewriting changes nothing. -/
theorem Matcher.rewriteValue_idempotent (map : RenameMap)
    (filled : ∀ entry ∈ map.toList, entry.1 ≠ "" → entry.2 ≠ "")
    (apart : ∀ entry ∈ map.toList, entry.1 ≠ "" → ∀ old ∈ map.keys, old ≠ "" →
      ¬Overlays old.toList entry.2.toList)
    (value : String) (change : Renaming)
    (renamed : (Matcher.ofMap map).rewriteValue value = .ok (some change)) :
    (∀ offset old, ¬Admissible map change.value.toList offset old) ∧
      (Matcher.ofMap map).rewriteValue change.value = .ok none := by
  obtain ⟨segments, tail, segmented, rfl⟩ := exists_segmented_of_rewriteValue renamed
  have written : (replaced segments tail).toList =
      [] ++ (segments.flatMap Segment.target ++ tail) := by
    rw [replaced, String.toList_ofList, List.nil_append]
  have free (offset : Nat) (old : String) :
      ¬Admissible map (replaced segments tail).toList offset old := by
    intro admissible
    rw [written] at admissible
    obtain ⟨segment, isSegment, before, after, split, starts, ends⟩ :=
      segmented.exists_new_of_admissible (.inl rfl) admissible (Nat.zero_le _)
    obtain ⟨⟨place, found⟩, mapped⟩ := segmented.admissible_of_mem isSegment
    have isEntry := RenameMap.mem_toList_of_get? mapped
    rw [split] at admissible
    refine apart _ isEntry found.1 old admissible.2.1 admissible.1 (admissible.overlays starts ends ?_)
    exact mt String.toList_eq_nil_iff.1 (filled _ isEntry found.1)
  refine ⟨free, ?_⟩
  obtain ⟨again, tail', segmented'⟩ := exists_segmented map (replaced segments tail).toList
  have none : again = [] := by
    cases again with
    | nil => rfl
    | cons first later => exact absurd segmented'.2.1 (free _ _)
  rw [segmented'.rewriteValue_eq, if_pos (.inl none)]

/-- Two names of which the one is found in a variant, and the other not in a longer class. -/
def variantMap : RenameMap := .ofList [("bg-primary", "bg-red-500"), ("p-1", "m-1")]

/-- The rewritten class list of a variant and a longer class stays as it is. -/
theorem Matcher.rewriteValue_idempotent_variant :
    (∀ entry ∈ variantMap.toList, entry.1 ≠ "" → entry.2 ≠ "") ∧
    (∀ entry ∈ variantMap.toList, entry.1 ≠ "" → ∀ old ∈ variantMap.keys, old ≠ "" →
      ¬Overlays old.toList entry.2.toList) ∧
    (Matcher.ofMap variantMap).rewriteValue "hover:bg-primary p-1 p-10" =
      .ok (some ⟨"hover:bg-red-500 m-1 p-10", [("bg-primary", "bg-red-500"), ("p-1", "m-1")]⟩) ∧
    (Matcher.ofMap variantMap).rewriteValue "hover:bg-red-500 m-1 p-10" = .ok none := by
  have filled : ∀ entry ∈ variantMap.toList, entry.1 ≠ "" → entry.2 ≠ "" := by decide +kernel
  have apart : ∀ entry ∈ variantMap.toList, entry.1 ≠ "" → ∀ old ∈ variantMap.keys, old ≠ "" →
      ¬Overlays old.toList entry.2.toList := by
    decide +kernel
  have renamed : (Matcher.ofMap variantMap).rewriteValue "hover:bg-primary p-1 p-10" =
      .ok (some ⟨"hover:bg-red-500 m-1 p-10", [("bg-primary", "bg-red-500"), ("p-1", "m-1")]⟩) := by
    rw [ofMap_of_pairwise (by decide +kernel)]
    decide +kernel
  exact ⟨filled, apart, renamed, (rewriteValue_idempotent _ filled apart _ _ renamed).2⟩

end ClassRename
