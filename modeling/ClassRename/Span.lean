/-!
# Spans of a text

Places in a text are counted in bytes of its UTF-8 form. A span is what lies between two places.
-/

namespace ClassRename

/-- The part of a text from the byte offset `start` up to the byte offset `stop`. -/
structure Span where
  /-- The offset of the first byte inside. -/
  start : Nat
  /-- The offset of the first byte after. -/
  stop : Nat
  deriving DecidableEq, Repr, Inhabited

/-- The UTF-8 size of a text. -/
def byteLength (text : List Char) : Nat :=
  text.foldl (fun size c => size + c.utf8Size) 0

@[simp]
theorem byteLength_nil : byteLength [] = 0 := rfl

private theorem foldl_utf8Size_add (text : List Char) (size : Nat) :
    text.foldl (fun size c => size + c.utf8Size) size = size + byteLength text := by
  induction text generalizing size with
  | nil => simp
  | cons c rest ih => simp only [byteLength, List.foldl_cons]; rw [ih, ih (0 + c.utf8Size)]; omega

@[simp]
theorem byteLength_cons (c : Char) (rest : List Char) :
    byteLength (c :: rest) = c.utf8Size + byteLength rest := by
  simp only [byteLength, List.foldl_cons]
  rw [foldl_utf8Size_add]
  simp [byteLength]

@[simp]
theorem byteLength_append (before after : List Char) :
    byteLength (before ++ after) = byteLength before + byteLength after := by
  induction before with
  | nil => simp
  | cons c rest ih => simp [ih, Nat.add_assoc]

theorem byteLength_le_append (before after : List Char) :
    byteLength before ≤ byteLength (before ++ after) := by
  rw [byteLength_append]
  exact Nat.le_add_right ..

theorem byteLength_cons_pos (c : Char) (rest : List Char) : 0 < byteLength (c :: rest) := by
  have size := c.utf8Size_pos
  rw [byteLength_cons]
  omega

/-- Only the empty text has no bytes. -/
theorem byteLength_eq_zero_iff {text : List Char} : byteLength text = 0 ↔ text = [] := by
  constructor
  · intro none
    cases text with
    | nil => rfl
    | cons c rest => exact absurd none (Nat.ne_of_gt (byteLength_cons_pos c rest))
  · rintro rfl
    rfl

/-- Of two ways to cut one text, the one that cuts earlier cuts the first part of the other. -/
theorem exists_append_of_byteLength_le {a b c d : List Char} (same : a ++ b = c ++ d)
    (shorter : byteLength a ≤ byteLength c) : ∃ between, c = a ++ between ∧ b = between ++ d := by
  rcases List.append_eq_append_iff.1 same with ⟨between, longer, rest⟩ | ⟨between, longer, rest⟩
  · exact ⟨between, longer, rest⟩
  · have none : byteLength between = 0 := by
      rw [longer, byteLength_append] at shorter
      omega
    obtain rfl := byteLength_eq_zero_iff.1 none
    exact ⟨[], by simpa using longer.symm, by simpa using rest.symm⟩

theorem append_inj_of_byteLength_eq {a b c d : List Char} (same : a ++ b = c ++ d)
    (size : byteLength a = byteLength c) : a = c ∧ b = d := by
  obtain ⟨between, longer, rest⟩ := exists_append_of_byteLength_le same (Nat.le_of_eq size)
  have none : byteLength between = 0 := by
    rw [longer, byteLength_append] at size
    omega
  obtain rfl := byteLength_eq_zero_iff.1 none
  exact ⟨by simpa using longer.symm, by simpa using rest⟩

/-- Split a text at a byte offset, which must not lie inside a character. -/
def splitAtByte? : Nat → List Char → Option (List Char × List Char)
  | 0, text => some ([], text)
  | _ + 1, [] => none
  | offset, c :: rest =>
    if c.utf8Size ≤ offset then do
      let (front, back) ← splitAtByte? (offset - c.utf8Size) rest
      return (c :: front, back)
    else none

@[simp]
theorem splitAtByte?_append (front back : List Char) :
    splitAtByte? (byteLength front) (front ++ back) = some (front, back) := by
  induction front with
  | nil => cases back <;> rfl
  | cons c rest ih =>
    obtain ⟨size, eq⟩ : ∃ size, byteLength (c :: rest) = size + 1 :=
      ⟨_, (Nat.succ_pred_eq_of_pos (byteLength_cons_pos c rest)).symm⟩
    have room : c.utf8Size ≤ size + 1 := by
      rw [← eq, byteLength_cons]
      exact Nat.le_add_right ..
    have left : size + 1 - c.utf8Size = byteLength rest := by
      rw [← eq, byteLength_cons]
      exact Nat.add_sub_cancel_left ..
    rw [eq, List.cons_append, splitAtByte?, if_pos room, left, ih]
    · rfl
    · exact Nat.succ_ne_zero size

/-- What a text is split into makes it up, and the first part has the wanted size. -/
theorem append_of_splitAtByte? {offset : Nat} {text front back : List Char}
    (split : splitAtByte? offset text = some (front, back)) :
    text = front ++ back ∧ byteLength front = offset := by
  induction text generalizing offset front with
  | nil =>
    cases offset with
    | zero => simp [splitAtByte?] at split; simp [split]
    | succ offset => simp [splitAtByte?] at split
  | cons c rest ih =>
    cases offset with
    | zero => simp [splitAtByte?] at split; simp [split]
    | succ offset =>
      simp only [splitAtByte?] at split
      split at split
      · next room =>
        obtain ⟨⟨front', back'⟩, later, eq⟩ := Option.bind_eq_some_iff.1 split
        obtain ⟨rfl, rfl⟩ : c :: front' = front ∧ back' = back := by simpa using eq
        obtain ⟨text, size⟩ := ih later
        refine ⟨by rw [text, List.cons_append], ?_⟩
        rw [byteLength_cons, size]
        omega
      · cases split

/-- What stands in a span of a text; nothing when the span runs backwards, leaves the text, or
begins or ends inside a character. -/
def slice? (text : List Char) (span : Span) : Option (List Char) := do
  if span.stop < span.start then none
  else
    let (_, rest) ← splitAtByte? span.start text
    let (inside, _) ← splitAtByte? (span.stop - span.start) rest
    return inside

@[simp]
theorem slice?_append (front inside back : List Char) :
    slice? (front ++ (inside ++ back)) ⟨byteLength front, byteLength (front ++ inside)⟩ =
      some inside := by
  have forwards : ¬byteLength front + byteLength inside < byteLength front := by omega
  simp [slice?, forwards]

end ClassRename
