import ClassRename.Text.Position
import ClassRename.Proofs.Span
import Mathlib.Data.List.DropRight

/-! # Offsets in the order of their positions

The position of an offset is told by the text before it: the line by the line feeds there, the column
by the characters after the last of them. One more character leads further, along the line or to the
next one, so offsets between characters have different positions, in the order of the offsets.
-/

namespace ClassRename.Text

/-- What follows the last line feed of a text, or all of it if there is none. -/
def lastLine (front : List Char) : List Char := front.rtakeWhile (· ≠ '\n')

/-- A line feed begins a line, and any other character goes on with the last one. -/
theorem lastLine_concat (front : List Char) (c : Char) :
    lastLine (front ++ [c]) = if c = '\n' then [] else lastLine front ++ [c] := by
  rw [lastLine, List.rtakeWhile_concat, lastLine]
  by_cases feed : c = '\n' <;> simp [feed]

namespace Position

/-- The order of reading: by lines, and along a line by columns. -/
def Before (a b : Position) : Prop := a.line < b.line ∨ a.line = b.line ∧ a.column < b.column

instance : Std.Irrefl Before := ⟨fun _ first => by rcases first with first | first <;> omega⟩

instance : Trans Before Before Before where
  trans first second := by
    unfold Before at *
    omega

variable {position : Position} {front back text : List Char} {offset offset' : Nat}

/-- A character leads to a later position. -/
theorem before_next (position : Position) (c : Char) : position.Before (position.next c) := by
  rw [next]
  split
  · exact .inl (Nat.lt_succ_self _)
  · exact .inr ⟨rfl, Nat.lt_succ_self _⟩

/-- So do several. -/
theorem before_foldl_next (position : Position) (notEmpty : text ≠ []) :
    position.Before (text.foldl next position) := by
  induction text generalizing position with
  | nil => exact absurd rfl notEmpty
  | cons c rest ih =>
    have first := position.before_next c
    rw [List.foldl_cons]
    by_cases ends : rest = []
    · rwa [ends]
    · exact Trans.trans first (ih (position.next c) ends)

/-- Bytes that make up whole characters lead past these, whatever follows. -/
theorem advance_append (position : Position) (front back : List Char) :
    position.advance (byteLength front) (front ++ back) = front.foldl next position := by
  induction front generalizing position with
  | nil => cases back <;> rfl
  | cons c rest ih =>
    obtain ⟨size, eq⟩ := Nat.exists_eq_add_one_of_ne_zero (Nat.ne_of_gt (byteLength_cons_pos c rest))
    have left : size + 1 - c.utf8Size = byteLength rest := by
      rw [← eq, byteLength_cons, Nat.add_sub_cancel_left]
    rw [eq, List.cons_append, advance, left, ih, List.foldl_cons]

/-- Where a text ends is told by its line feeds and its last line. -/
theorem foldl_next_start (front : List Char) :
    front.foldl next start = ⟨1 + front.count '\n', 1 + (lastLine front).length⟩ := by
  induction front using List.reverseRecOn with
  | nil => rfl
  | append_singleton front c ih =>
    rw [List.foldl_concat, ih, next, lastLine_concat, List.count_append]
    by_cases feed : c = '\n' <;> simp [feed, Nat.add_assoc]

/-- The position of an offset by the text before it. -/
theorem ofOffset_append (front back : List Char) :
    ofOffset (front ++ back) (byteLength front) =
      ⟨1 + front.count '\n', 1 + (lastLine front).length⟩ := by
  rw [ofOffset, advance_append, foldl_next_start]

/-- A later offset has a later position. -/
theorem before_ofOffset (between : BetweenChars text offset) (between' : BetweenChars text offset')
    (earlier : offset < offset') : (ofOffset text offset).Before (ofOffset text offset') := by
  obtain ⟨front, back, rfl, rfl⟩ := between
  obtain ⟨front', back', same, rfl⟩ := between'
  obtain ⟨further, rfl, -⟩ := exists_append_of_byteLength_le same (Nat.le_of_lt earlier)
  have notEmpty : further ≠ [] := by
    rintro rfl
    rw [List.append_nil] at earlier
    exact Nat.lt_irrefl _ earlier
  rw [ofOffset, advance_append, ofOffset, same, advance_append, List.foldl_append]
  exact before_foldl_next _ notEmpty

/-- Offsets between characters are in the order of their positions. -/
theorem before_ofOffset_iff (between : BetweenChars text offset)
    (between' : BetweenChars text offset') :
    (ofOffset text offset).Before (ofOffset text offset') ↔ offset < offset' := by
  refine ⟨fun first => ?_, before_ofOffset between between'⟩
  by_contra notEarlier
  rcases Nat.eq_or_lt_of_le (Nat.le_of_not_lt notEarlier) with rfl | later
  · exact irrefl_of Before _ first
  · have second := before_ofOffset between' between later
    exact irrefl_of Before _ (Trans.trans first second)

/-- Different offsets between characters have different positions. -/
theorem ofOffset_inj (between : BetweenChars text offset) (between' : BetweenChars text offset') :
    ofOffset text offset = ofOffset text offset' ↔ offset = offset' := by
  refine ⟨fun same => ?_, congrArg _⟩
  by_contra different
  rcases Nat.lt_or_gt_of_ne different with earlier | later
  · exact irrefl_of Before _ (same ▸ before_ofOffset between between' earlier)
  · exact irrefl_of Before _ (same ▸ before_ofOffset between' between later)

end Position

end ClassRename.Text
