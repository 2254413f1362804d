import ClassRename.Proofs.Edits.Splicing

/-! # One place of an edited text

Edits that are made together are made apart from one another: at a place of the text that no edit
reaches over, the text can be cut, and each side is what the edits on that side make of it. So what
becomes of a span is told by the edit there, whatever happens before and after it.
-/

namespace ClassRename.Edit

/-- In the source the span holds the old text, and in its place the result has the new one. Of the edits
those for the span itself are given apart; the others stand before and after it, and make there what the
result has before and after the new text. -/
def Turns (edits own : List Edit) (source result : List Char) (span : Span) (old new : List Char) :
    Prop :=
  ∃ before after front back front' back', edits = before ++ (own ++ after) ∧
    source = front ++ (old ++ back) ∧ span = ⟨byteLength front, byteLength (front ++ old)⟩ ∧
    result = front' ++ (new ++ back') ∧ Splices 0 before front front' ∧
    Splices span.stop after back back'

variable {edit : Edit} {edits : List Edit} {front back text result source old : List Char}
  {offset : Nat} {span : Span}

/-- No edit begins before the text. -/
theorem Splices.offset_le (splices : Splices offset edits text result) :
    ∀ edit ∈ edits, offset ≤ edit.span.start := by
  induction splices with
  | done => exact nofun
  | next here _ ih =>
    refine List.forall_mem_cons.2 ⟨?_, fun edit isLater => ?_⟩
    · rw [here]
      exact Nat.le_add_right ..
    · exact Nat.le_trans (Nat.le_add_right ..) (ih edit isLater)

/-- No edit ends behind the text. -/
theorem Splices.stop_le (splices : Splices offset edits text result) :
    ∀ edit ∈ edits, edit.span.stop ≤ offset + byteLength text := by
  induction splices with
  | done => exact nofun
  | next here _ ih =>
    simp only [byteLength_append] at here ih ⊢
    refine List.forall_mem_cons.2 ⟨?_, fun edit isLater => ?_⟩
    · rw [here]
      dsimp only
      omega
    · have := ih edit isLater
      omega

/-- Where no edit reaches over, the edits can be made on both sides apart. -/
theorem Splices.cut (splices : Splices offset edits (front ++ back) result)
    (clear : ∀ edit ∈ edits, edit.span.stop ≤ offset + byteLength front ∨
      offset + byteLength front ≤ edit.span.start) :
    ∃ before after front' back', edits = before ++ after ∧ result = front' ++ back' ∧
      Splices offset before front front' ∧ Splices (offset + byteLength front) after back back' := by
  generalize whole : front ++ back = text at splices
  induction splices generalizing front with
  | done offset text =>
    subst whole
    exact ⟨[], [], front, back, rfl, rfl, .done .., .done ..⟩
  | @next offset edit later gap old text result here splices ih =>
    obtain ⟨first, clearLater⟩ := List.forall_mem_cons.1 clear
    rw [here] at first
    rcases first with first | first
    · -- The edit is in front of the cut.
      rw [← List.append_assoc] at whole
      dsimp only at first
      obtain ⟨front, rfl, rfl⟩ := exists_append_of_byteLength_le whole.symm (by omega)
      have size : offset + byteLength (gap ++ old ++ front) =
          offset + byteLength (gap ++ old) + byteLength front := by
        rw [byteLength_append (gap ++ old), Nat.add_assoc]
      rw [size] at clearLater ⊢
      obtain ⟨before, after, front', back', rfl, rfl, splices, splices'⟩ := ih clearLater rfl
      refine ⟨edit :: before, after, gap ++ (edit.replacement.toList ++ front'), back', rfl, ?_, ?_,
        splices'⟩
      · simp only [List.append_assoc]
      · rw [List.append_assoc]
        exact .next here splices
    · -- All edits are behind it.
      dsimp only at first
      obtain ⟨gap, rfl, rfl⟩ := exists_append_of_byteLength_le whole (by omega)
      refine ⟨[], edit :: later, front, _, rfl, List.append_assoc .., .done .., ?_⟩
      have size : offset + byteLength (front ++ gap ++ old) =
          offset + byteLength front + byteLength (gap ++ old) := by
        rw [List.append_assoc, byteLength_append front, Nat.add_assoc]
      rw [size] at here splices
      refine .next ?_ splices
      rw [here, byteLength_append front gap, ← Nat.add_assoc]

/-- What stands apart from all edits stays. -/
theorem Splices.turns_self (splices : Splices 0 edits source result) (holds : Holds source span old)
    (notEmpty : ∀ edit ∈ edits, edit.span.start < edit.span.stop)
    (clear : ∀ edit ∈ edits, edit.span.stop ≤ span.start ∨ span.stop ≤ edit.span.start) :
    Turns edits [] source result span old old := by
  obtain ⟨front, back, rfl, rfl⟩ := holds
  dsimp only at clear
  rw [byteLength_append] at clear
  obtain ⟨before, rest, front', rest', rfl, rfl, ahead, following⟩ :=
    splices.cut fun edit isEdit => by
      have := clear edit isEdit
      omega
  obtain ⟨own, after, new, back', rfl, rfl, there, behind⟩ :=
    following.cut fun edit isEdit => by
      have := clear edit (List.mem_append_right _ isEdit)
      omega
  -- An edit between the two cuts would be empty.
  obtain rfl : own = [] := by
    refine List.eq_nil_iff_forall_not_mem.2 fun edit isOwn => ?_
    have isEdit : edit ∈ before ++ (own ++ after) :=
      List.mem_append_right _ (List.mem_append_left _ isOwn)
    have size := notEmpty edit isEdit
    have apart := clear edit isEdit
    have start := there.offset_le edit isOwn
    have stop := there.stop_le edit isOwn
    omega
  cases there
  rw [Nat.zero_add, ← byteLength_append] at behind
  exact ⟨before, after, front, back, front', back', rfl, rfl, rfl, rfl, ahead, behind⟩

/-- An edit parts the others into those before it and those after it. -/
theorem Splices.exists_split (splices : Splices offset edits text result) (isEdit : edit ∈ edits) :
    ∃ before after front old back front' back', edits = before ++ edit :: after ∧
      text = front ++ (old ++ back) ∧
      edit.span = ⟨offset + byteLength front, offset + byteLength (front ++ old)⟩ ∧
      result = front' ++ (edit.replacement.toList ++ back') ∧ Splices offset before front front' ∧
      Splices edit.span.stop after back back' := by
  induction splices with
  | done => cases isEdit
  | @next offset first later gap replaced text result here splices ih =>
    rcases List.mem_cons.1 isEdit with rfl | isLater
    · refine ⟨[], later, gap, replaced, text, gap, result, rfl, rfl, here, rfl, .done .., ?_⟩
      rwa [here]
    · obtain ⟨before, after, front, old, back, front', back', rfl, rfl, span, rfl, splices, splices'⟩ :=
        ih isLater
      refine ⟨first :: before, after, gap ++ (replaced ++ front), old, back,
        gap ++ (first.replacement.toList ++ front'), back', rfl, ?_, ?_, ?_, .next here splices,
        splices'⟩
      · simp only [List.append_assoc]
      · rw [span]
        simp only [byteLength_append, Nat.add_assoc]
      · simp only [List.append_assoc]

/-- What an edit is for gives way to its replacement. -/
theorem Splices.turns_replacement (splices : Splices 0 edits source result) (isEdit : edit ∈ edits) :
    ∃ old, Holds source edit.span old ∧
      Turns edits [edit] source result edit.span old edit.replacement.toList := by
  obtain ⟨before, after, front, old, back, front', back', rfl, rfl, span, rfl, splices, splices'⟩ :=
    splices.exists_split isEdit
  rw [Nat.zero_add, Nat.zero_add] at span
  exact ⟨old, ⟨front, back, rfl, span⟩, before, after, front, back, front', back', rfl, rfl, span, rfl,
    splices, splices'⟩

end ClassRename.Edit
