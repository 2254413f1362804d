import ClassRename.Matcher
import Mathlib.Logic.Basic

/-! # How a class list falls into segments

An old name is admissible at a place of a class list when it stands there with an ASCII word
boundary at each of its ends. A segmentation cuts the list into gaps, in which no old name is
admissible anywhere, and into old names, each of them the longest that is admissible where it
begins. The definitions mention the list and the rename map alone, not how names are searched for.
A list has at most one segmentation.
-/

namespace ClassRename

/-- A digit, letter or underscore of ASCII. -/
def IsWord (c : Char) : Prop :=
  ('0' ≤ c ∧ c ≤ '9') ∨ ('A' ≤ c ∧ c ≤ 'Z') ∨ ('a' ≤ c ∧ c ≤ 'z') ∨ c = '_'

theorem isWordChar_iff (c : Char) : isWordChar c = true ↔ IsWord c := by
  have unfolded : isWordChar c = (decide ('A' ≤ c ∧ c ≤ 'Z') || (decide ('a' ≤ c) && decide (c ≤ 'z')) ||
      (decide ('0' ≤ c) && decide (c ≤ '9')) || c == '_') := rfl
  simp only [unfolded, IsWord, Bool.or_eq_true, Bool.and_eq_true, decide_eq_true_eq, beq_iff_eq]
  constructor
  · rintro (((upper | lower) | digit) | underscore)
    · exact .inr (.inl upper)
    · exact .inr (.inr (.inl lower))
    · exact .inl digit
    · exact .inr (.inr (.inr underscore))
  · rintro (digit | upper | lower | underscore)
    · exact .inl (.inr digit)
    · exact .inl (.inl (.inl upper))
    · exact .inl (.inl (.inr lower))
    · exact .inr underscore

/-- Exactly one side of the place between two texts is a word; the ends of a text count as no
word. -/
def WordBoundary (before after : List Char) : Prop :=
  Xor (∃ c, before.getLast? = some c ∧ IsWord c) (∃ c, after.head? = some c ∧ IsWord c)

theorem isBoundary_iff (before after : List Char) :
    isBoundary before.getLast? after.head? = true ↔ WordBoundary before after := by
  have holds (side : Option Char) :
      side.any isWordChar = true ↔ ∃ c, side = some c ∧ IsWord c := by
    cases side <;> simp [isWordChar_iff]
  rw [WordBoundary, ← holds, ← holds, isBoundary]
  cases before.getLast?.any isWordChar <;> cases after.head?.any isWordChar <;> simp [Xor]

/-- The old name stands in the class list at the byte `offset`, with a boundary at each end. -/
def Admissible (map : RenameMap) (text : List Char) (offset : Nat) (old : String) : Prop :=
  old ≠ "" ∧ old ∈ map.keys ∧ ∃ before after, text = before ++ (old.toList ++ after) ∧
    byteLength before = offset ∧ WordBoundary before (old.toList ++ after) ∧
    WordBoundary (before ++ old.toList) after

/-- A gap of a class list, the old name after it, and the new name for that one. -/
structure Segment where
  gap : List Char
  old : String
  new : String
  deriving DecidableEq, Repr

namespace Segment

/-- What a segment is in the class list. -/
def source (segment : Segment) : List Char := segment.gap ++ segment.old.toList

/-- What a segment becomes. -/
def target (segment : Segment) : List Char := segment.gap ++ segment.new.toList

end Segment

/-- The class list goes on after `start` with the segments and then the tail. No old name is
admissible in a gap or in the tail, and the old name of a segment is the longest that is admissible
after its gap. -/
def Segmented (map : RenameMap) (text : List Char) :
    (start : List Char) → List Segment → (tail : List Char) → Prop
  | start, [], tail =>
    text = start ++ tail ∧ ∀ offset old, byteLength start ≤ offset → ¬Admissible map text offset old
  | start, segment :: later, tail =>
    (∀ offset old, byteLength start ≤ offset → offset < byteLength (start ++ segment.gap) →
      ¬Admissible map text offset old) ∧
    Admissible map text (byteLength (start ++ segment.gap)) segment.old ∧
    (∀ old, Admissible map text (byteLength (start ++ segment.gap)) old →
      byteLength old.toList ≤ byteLength segment.old.toList) ∧
    map.get? segment.old = some segment.new ∧
    Segmented map text (start ++ segment.source) later tail

variable {map : RenameMap} {text start tail : List Char} {segments : List Segment}

/-- The segments and the tail are what stands after `start`. -/
theorem Segmented.joined (segmented : Segmented map text start segments tail) :
    text = start ++ (segments.flatMap Segment.source ++ tail) := by
  induction segments generalizing start with
  | nil => exact segmented.1
  | cons segment later ih =>
    obtain ⟨-, -, -, -, rest⟩ := segmented
    rw [ih rest, List.flatMap_cons]
    simp only [List.append_assoc]

/-- What is admissible at one place is told by its size. -/
theorem Admissible.eq_of_byteLength_eq {offset : Nat} {old other : String}
    (first : Admissible map text offset old) (second : Admissible map text offset other)
    (size : byteLength old.toList = byteLength other.toList) : old = other := by
  obtain ⟨-, -, before, after, split, place, -, -⟩ := first
  obtain ⟨-, -, before', after', split', place', -, -⟩ := second
  obtain ⟨-, rest⟩ := append_inj_of_byteLength_eq (split.symm.trans split') (place.trans place'.symm)
  exact String.toList_injective (append_inj_of_byteLength_eq rest size).1

/-- A segmentation that begins an old name begins one no later than any other does. -/
theorem Segmented.gap_le {segment segment' : Segment} {later later' : List Segment}
    {tail' : List Char} (first : Segmented map text start (segment :: later) tail)
    (second : Segmented map text start (segment' :: later') tail') :
    byteLength (start ++ segment.gap) ≤ byteLength (start ++ segment'.gap) := by
  obtain ⟨free, -⟩ := first
  obtain ⟨-, found, -⟩ := second
  have reached := byteLength_le_append start segment'.gap
  exact Nat.le_of_not_lt fun inside => free _ _ reached inside found

/-- Where one segmentation has an old name, none is without one. -/
theorem Segmented.not_nil {segment : Segment} {later : List Segment} {tail' : List Char}
    (first : Segmented map text start (segment :: later) tail) :
    ¬Segmented map text start [] tail' := by
  rintro ⟨-, free⟩
  obtain ⟨-, found, -⟩ := first
  exact free _ _ (byteLength_le_append start segment.gap) found

/-- A class list has at most one segmentation. -/
theorem Segmented.unique {segments' : List Segment} {tail' : List Char}
    (first : Segmented map text start segments tail)
    (second : Segmented map text start segments' tail') : segments = segments' ∧ tail = tail' := by
  induction segments generalizing start segments' with
  | nil =>
    cases segments' with
    | nil => exact ⟨rfl, List.append_cancel_left (first.1.symm.trans second.1)⟩
    | cons segment later => exact absurd first second.not_nil
  | cons segment later ih =>
    cases segments' with
    | nil => exact absurd second first.not_nil
    | cons segment' later' =>
      -- Each gap ends where the other does, or the name after one would be admissible in the other.
      have place := Nat.le_antisymm (first.gap_le second) (second.gap_le first)
      obtain ⟨-, found, longest, mapped, rest⟩ := first
      obtain ⟨-, found', longest', mapped', rest'⟩ := second
      have old : segment.old = segment'.old := by
        rw [← place] at found' longest'
        exact found.eq_of_byteLength_eq found'
          (Nat.le_antisymm (longest' _ found) (longest _ found'))
      have gap : start ++ segment.gap = start ++ segment'.gap := by
        have whole := (rest.joined.symm.trans rest'.joined)
        simp only [Segment.source, List.append_assoc] at whole
        rw [← List.append_assoc, ← List.append_assoc start] at whole
        exact (append_inj_of_byteLength_eq whole place).1
      have same : segment = segment' := by
        cases segment
        cases segment'
        simp only [List.append_cancel_left_eq] at gap
        simp_all
      subst same
      obtain ⟨rfl, rfl⟩ := ih rest rest'
      exact ⟨rfl, rfl⟩

end ClassRename
