import ClassRename.Proofs.Matching.Renaming
import ClassRename.Proofs.RenameMap

/-! # Class lists that are one old name

A class list that is one old name becomes the new name if the old one begins and ends with characters
of words: it is admissible there, and nothing that is admissible is longer. An old name that begins or
ends with another character, such as `-m-1` or `w-[3px]`, has no boundary at that end of the list, so it
is not found in the very list that it is. What becomes of the list is then a matter of the other old
names, and the entry of this one counts for nothing.
-/

namespace ClassRename

variable {map map' : RenameMap} {text start tail : List Char} {segments : List Segment} {offset : Nat}
  {old new : String}

/-- The first character of the text belongs to a word. -/
def BeginsWithWord (text : List Char) : Prop := ∃ c, text.head? = some c ∧ IsWord c

/-- The last character of the text belongs to a word. -/
def EndsWithWord (text : List Char) : Prop := ∃ c, text.getLast? = some c ∧ IsWord c

theorem wordBoundary_iff (before after : List Char) :
    WordBoundary before after ↔ Xor (EndsWithWord before) (BeginsWithWord after) :=
  Iff.rfl

theorem not_beginsWithWord_nil : ¬BeginsWithWord [] := by
  rintro ⟨c, first, -⟩
  cases first

theorem not_endsWithWord_nil : ¬EndsWithWord [] := by
  rintro ⟨c, last, -⟩
  cases last

/-- The front of a text is a boundary if the text begins with a word. -/
theorem wordBoundary_nil_left : WordBoundary [] text ↔ BeginsWithWord text := by
  rw [wordBoundary_iff, xor_iff_or_and_not_and]
  simp [not_endsWithWord_nil]

/-- The end of a text is a boundary if the text ends with a word. -/
theorem wordBoundary_nil_right : WordBoundary text [] ↔ EndsWithWord text := by
  rw [wordBoundary_iff, xor_iff_or_and_not_and]
  simp [not_beginsWithWord_nil]

/-! ## What a segmentation depends on -/

/-- A segmentation depends on the map through what is admissible and the new names of that alone. -/
theorem Segmented.congr (segmented : Segmented map text start segments tail)
    (same : ∀ offset old, Admissible map' text offset old ↔ Admissible map text offset old)
    (answers : ∀ offset old, Admissible map text offset old → map'.get? old = map.get? old) :
    Segmented map' text start segments tail := by
  induction segments generalizing start with
  | nil =>
    obtain ⟨split, free⟩ := segmented
    exact ⟨split, fun offset old reached => mt (same offset old).1 (free offset old reached)⟩
  | cons segment later ih =>
    obtain ⟨free, found, longest, mapped, rest⟩ := segmented
    refine ⟨?_, (same _ _).2 found, ?_, (answers _ _ found).trans mapped, ih rest⟩
    · intro offset old reached inside
      exact mt (same offset old).1 (free offset old reached inside)
    · intro old admissible
      exact longest old ((same _ old).1 admissible)

/-- Maps in which the same is admissible, with the same new names, rewrite a class list alike. -/
theorem Matcher.rewriteValue_congr {value : String}
    (same : ∀ offset old, Admissible map' value.toList offset old ↔
      Admissible map value.toList offset old)
    (answers : ∀ offset old, Admissible map value.toList offset old → map'.get? old = map.get? old) :
    (Matcher.ofMap map').rewriteValue value = (Matcher.ofMap map).rewriteValue value := by
  obtain ⟨segments, tail, segmented⟩ := exists_segmented map value.toList
  rw [segmented.rewriteValue_eq, (segmented.congr same answers).rewriteValue_eq]

/-- What is admissible is so by every map that has the old name. -/
theorem Admissible.of_mem_keys (admissible : Admissible map text offset old)
    (member : old ∈ map'.keys) : Admissible map' text offset old :=
  ⟨admissible.1, member, admissible.2.2⟩

/-- A name that is admissible nowhere in a class list, whatever the map, makes no difference to it: maps
with the same new names for all others rewrite the list alike. -/
theorem Matcher.rewriteValue_eq_of_unfound {value : String}
    (unfound : ∀ (map : RenameMap) (offset : Nat), ¬Admissible map value.toList offset old)
    (same : ∀ key, key ≠ old → map'.get? key = map.get? key) :
    (Matcher.ofMap map').rewriteValue value = (Matcher.ofMap map).rewriteValue value := by
  have other (map : RenameMap) (offset : Nat) (key : String)
      (admissible : Admissible map value.toList offset key) : key ≠ old := by
    rintro rfl
    exact unfound map offset admissible
  have keys (key : String) (isOther : key ≠ old) : key ∈ map'.keys ↔ key ∈ map.keys := by
    rw [RenameMap.mem_keys_iff_exists_get?, RenameMap.mem_keys_iff_exists_get?, same key isOther]
  apply rewriteValue_congr
  · intro offset key
    constructor
    · intro admissible
      exact admissible.of_mem_keys ((keys key (other map' offset key admissible)).1 admissible.2.1)
    · intro admissible
      exact admissible.of_mem_keys ((keys key (other map offset key admissible)).2 admissible.2.1)
  · intro offset key admissible
    exact same key (other map offset key admissible)

/-- A class list in which nothing is admissible stays as it is. -/
theorem Matcher.rewriteValue_of_not_admissible {value : String}
    (free : ∀ offset old, ¬Admissible map value.toList offset old) :
    (Matcher.ofMap map).rewriteValue value = .ok none := by
  have segmented : Segmented map value.toList [] [] value.toList :=
    ⟨rfl, fun offset old _ => free offset old⟩
  rw [segmented.rewriteValue_eq, if_pos (.inl rfl)]

/-! ## An old name in the list that it is -/

/-- An old name that is admissible somewhere ends no later than the text. -/
theorem Admissible.le_byteLength (admissible : Admissible map text offset old) :
    offset + byteLength old.toList ≤ byteLength text := by
  obtain ⟨-, -, before, after, rfl, rfl, -, -⟩ := admissible
  simp only [byteLength_append]
  omega

/-- An old name is admissible in the list that it is if both of its ends are characters of words. -/
theorem admissible_itself_iff : Admissible map old.toList offset old ↔
    old ≠ "" ∧ old ∈ map.keys ∧ offset = 0 ∧
      BeginsWithWord old.toList ∧ EndsWithWord old.toList := by
  constructor
  · rintro ⟨filled, member, before, after, split, rfl, opens, closes⟩
    have size := congrArg byteLength split
    simp only [byteLength_append] at size
    obtain rfl : before = [] := byteLength_eq_zero_iff.1 (by omega)
    obtain rfl : after = [] := byteLength_eq_zero_iff.1 (by omega)
    rw [List.append_nil, wordBoundary_nil_left] at opens
    rw [List.nil_append, wordBoundary_nil_right] at closes
    exact ⟨filled, member, rfl, opens, closes⟩
  · rintro ⟨filled, member, rfl, opens, closes⟩
    refine ⟨filled, member, [], [], by simp, rfl, ?_, ?_⟩
    · rwa [List.append_nil, wordBoundary_nil_left]
    · rwa [List.nil_append, wordBoundary_nil_right]

/-- A class list that is an old name with ends in words is one segment. -/
theorem segmented_itself (mapped : map.get? old = some new) (filled : old ≠ "")
    (opens : BeginsWithWord old.toList) (closes : EndsWithWord old.toList) :
    Segmented map old.toList [] [⟨[], old, new⟩] [] := by
  have found : Admissible map old.toList 0 old :=
    admissible_itself_iff.2 ⟨filled, RenameMap.mem_keys_iff_exists_get?.2 ⟨new, mapped⟩, rfl, opens, closes⟩
  refine ⟨?_, found, ?_, mapped, ?_, ?_⟩
  · intro offset other _ inside
    cases inside
  · intro other admissible
    have short := admissible.le_byteLength
    simpa using short
  · simp [Segment.source]
  · intro offset other reached admissible
    have inside := admissible.lt_byteLength
    simp only [Segment.source, List.nil_append] at reached
    omega

/-- What is admissible in a class list stands in it. -/
theorem Admissible.isInfix (admissible : Admissible map text offset old) : old.toList <:+: text := by
  obtain ⟨-, -, before, after, split, -, -, -⟩ := admissible
  rw [← List.append_assoc] at split
  exact ⟨before, after, split.symm⟩

/-- What becomes of a class list that is one old name with another new name. If both ends of the old
name are characters of words, the list becomes the new name. Else the list becomes what it becomes by
the other old names: it makes no difference which new name the map has for this one, or whether it has
any. So it stays as it is if no other old name stands in it. -/
theorem Matcher.rewriteText_itself (map : RenameMap) (old new : String)
    (mapped : map.get? old = some new) (filled : old ≠ "") (other : new ≠ old) :
    (BeginsWithWord old.toList ∧ EndsWithWord old.toList →
      (Matcher.ofMap map).rewriteText old = .ok (some new)) ∧
    (¬(BeginsWithWord old.toList ∧ EndsWithWord old.toList) →
      (∀ map' : RenameMap, (∀ key, key ≠ old → map'.get? key = map.get? key) →
        (Matcher.ofMap map).rewriteText old = (Matcher.ofMap map').rewriteText old) ∧
      ((∀ key ∈ map.keys, key ≠ "" → key ≠ old → ¬key.toList <:+: old.toList) →
        (Matcher.ofMap map).rewriteText old = .ok none)) := by
  constructor
  · rintro ⟨opens, closes⟩
    have written : replaced [⟨[], old, new⟩] [] = new := by
      simp [replaced, Segment.target]
    have changed : ¬(([⟨[], old, new⟩] : List Segment) = [] ∨ replaced [⟨[], old, new⟩] [] = old) := by
      rw [written]
      simpa using other
    rw [rewriteText, (segmented_itself mapped filled opens closes).rewriteValue_eq, if_neg changed,
      written]
    rfl
  · intro ends
    have unfound (map : RenameMap) (offset : Nat) : ¬Admissible map old.toList offset old :=
      fun admissible => ends (admissible_itself_iff.1 admissible).2.2.2
    constructor
    · intro map' same
      rw [rewriteText, rewriteText, rewriteValue_eq_of_unfound unfound same]
    · intro apart
      have stays : (Matcher.ofMap map).rewriteValue old = .ok none := by
        apply rewriteValue_of_not_admissible
        intro offset key admissible
        have isOther : key ≠ old := by
          rintro rfl
          exact unfound map offset admissible
        exact apart key admissible.2.1 admissible.1 isOther admissible.isInfix
      rw [rewriteText, stays]
      rfl

/-- Two colors of which the one begins like the other, and a negative margin. -/
def shadesMap : RenameMap :=
  .ofList [("bg-primary", "bg-red-500"), ("bg-primary-light", "bg-red-100"), ("-m-1", "-m-2")]

/-- The longer color becomes its new name, and the negative margin stays. -/
theorem Matcher.rewriteText_itself_shades :
    shadesMap.get? "bg-primary-light" = some "bg-red-100" ∧
    (Matcher.ofMap shadesMap).rewriteText "bg-primary-light" = .ok (some "bg-red-100") ∧
    shadesMap.get? "-m-1" = some "-m-2" ∧
    (Matcher.ofMap shadesMap).rewriteText "-m-1" = .ok none := by
  have color : shadesMap.get? "bg-primary-light" = some "bg-red-100" := by decide +kernel
  have margin : shadesMap.get? "-m-1" = some "-m-2" := by decide +kernel
  have words : BeginsWithWord "bg-primary-light".toList ∧ EndsWithWord "bg-primary-light".toList :=
    ⟨⟨'b', by decide +kernel, (isWordChar_iff 'b').1 (by decide)⟩,
      ⟨'t', by decide +kernel, (isWordChar_iff 't').1 (by decide)⟩⟩
  have signed : ¬(BeginsWithWord "-m-1".toList ∧ EndsWithWord "-m-1".toList) := by
    rintro ⟨⟨c, first, isWord⟩, -⟩
    obtain rfl : '-' = c := by simpa using first
    exact absurd ((isWordChar_iff '-').2 isWord) (by decide)
  refine ⟨color, ?_, margin, ?_⟩
  · exact (rewriteText_itself shadesMap _ _ color (by decide) (by decide)).1 words
  · apply ((rewriteText_itself shadesMap _ _ margin (by decide) (by decide)).2 signed).2
    decide +kernel

/-- An entry whose old name begins with a hyphen: the class list that is this old name stays. -/
theorem Matcher.rewriteText_keeps_negative :
    (RenameMap.ofList [("-m-1", "-m-2")]).get? "-m-1" = some "-m-2" ∧
    (Matcher.ofMap (.ofList [("-m-1", "-m-2")])).rewriteText "-m-1" = .ok none := by
  decide +kernel

end ClassRename
