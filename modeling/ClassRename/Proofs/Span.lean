import ClassRename.Span

/-! # What stands in a span

A span holds a text when the text stands there, between whole characters. All that is said of the
places of strings and edits comes down to this.
-/

namespace ClassRename

/-- The span of the source holds the text. -/
def Holds (source : List Char) (span : Span) (text : List Char) : Prop :=
  ∃ before after, source = before ++ (text ++ after) ∧
    span = ⟨byteLength before, byteLength (before ++ text)⟩

namespace Holds

variable {source text : List Char} {span : Span}

/-- What a span holds is the slice there. -/
theorem slice?_eq (holds : Holds source span text) : slice? source span = some text := by
  obtain ⟨before, after, rfl, rfl⟩ := holds
  exact slice?_append before text after

theorem unique {text' : List Char} (holds : Holds source span text)
    (holds' : Holds source span text') : text = text' :=
  Option.some.inj (holds.slice?_eq.symm.trans holds'.slice?_eq)

theorem stop_eq (holds : Holds source span text) : span.stop = span.start + byteLength text := by
  obtain ⟨before, after, rfl, rfl⟩ := holds
  exact byteLength_append before text

theorem start_le_stop (holds : Holds source span text) : span.start ≤ span.stop := by
  rw [holds.stop_eq]
  exact Nat.le_add_right ..

theorem start_lt_stop (holds : Holds source span text) (notEmpty : text ≠ []) :
    span.start < span.stop := by
  have size := Nat.pos_of_ne_zero (mt byteLength_eq_zero_iff.1 notEmpty)
  rw [holds.stop_eq]
  omega

theorem stop_le (holds : Holds source span text) : span.stop ≤ byteLength source := by
  obtain ⟨before, after, rfl, rfl⟩ := holds
  simp only [byteLength_append]
  omega

/-- A span that begins after a front is in what follows the front. -/
theorem exists_gap {front rest : List Char} (holds : Holds (front ++ rest) span text)
    (later : byteLength front ≤ span.start) :
    ∃ gap after, rest = gap ++ (text ++ after) ∧
      span = ⟨byteLength (front ++ gap), byteLength (front ++ gap ++ text)⟩ := by
  obtain ⟨before, after, same, rfl⟩ := holds
  obtain ⟨gap, rfl, rfl⟩ := exists_append_of_byteLength_le same later
  exact ⟨gap, after, rfl, rfl⟩

/-- What a span in a front holds does not depend on what follows the front. -/
theorem of_front {front rest rest' : List Char} (holds : Holds (front ++ rest) span text)
    (earlier : span.stop ≤ byteLength front) : Holds (front ++ rest') span text := by
  obtain ⟨before, after, same, rfl⟩ := holds
  rw [← List.append_assoc] at same
  obtain ⟨between, rfl, -⟩ := exists_append_of_byteLength_le same.symm earlier
  exact ⟨before, between ++ rest', by simp, rfl⟩

end Holds

/-- The offset is between two characters of the text, or at one of its ends. -/
def BetweenChars (text : List Char) (offset : Nat) : Prop :=
  ∃ front back, text = front ++ back ∧ byteLength front = offset

/-- A span that runs forwards holds a text when both of its ends are between characters. -/
theorem exists_holds_iff {source : List Char} {span : Span} : (∃ text, Holds source span text) ↔
    span.start ≤ span.stop ∧ BetweenChars source span.start ∧ BetweenChars source span.stop := by
  constructor
  · rintro ⟨text, before, after, rfl, rfl⟩
    refine ⟨byteLength_le_append .., ⟨before, _, rfl, rfl⟩, before ++ text, after, ?_, rfl⟩
    rw [List.append_assoc]
  · rintro ⟨forwards, ⟨before, rest, split, here⟩, front, after, split', there⟩
    rw [← here, ← there] at forwards
    obtain ⟨text, rfl, rfl⟩ := exists_append_of_byteLength_le (split.symm.trans split') forwards
    refine ⟨text, before, after, split, ?_⟩
    rw [here, there]

end ClassRename
