import ClassRename.Proofs.Edits.Checking
import ClassRename.Proofs.Span
import Mathlib.Data.List.Pairwise

/-! # Making edits

Edits are made from the last to the first. When they follow one another in the text, no check fails,
and what comes out is put together from left to right: what lies between the edits is kept, and in
the place of each stands its replacement.
-/

namespace ClassRename.Edit

/-- The text, which begins at a byte offset, becomes the result by the edits, one after the other from
left to right. -/
inductive Splices : (offset : Nat) → List Edit → (text result : List Char) → Prop where
  /-- What follows the last edit is kept. -/
  | done (offset : Nat) (text : List Char) : Splices offset [] text text
  /-- A gap is kept, and what stands in the span of the edit is replaced. -/
  | next {offset : Nat} {edit : Edit} {later : List Edit} {gap old text result : List Char} :
    edit.span = ⟨offset + byteLength gap, offset + byteLength (gap ++ old)⟩ →
    Splices (offset + byteLength (gap ++ old)) later text result →
    Splices offset (edit :: later) (gap ++ (old ++ text))
      (gap ++ (edit.replacement.toList ++ result))

variable {edit : Edit} {edits : List Edit} {front text result : List Char}

/-- Edits that follow one another and whose spans the text has can be put together. -/
theorem exists_splices (ordered : edits.Pairwise Precedes)
    (held : ∀ edit ∈ edits, ∃ old, Holds (front ++ text) edit.span old)
    (after : ∀ edit ∈ edits, byteLength front ≤ edit.span.start) :
    ∃ result, Splices (byteLength front) edits text result := by
  induction edits generalizing front text with
  | nil => exact ⟨text, .done _ _⟩
  | cons edit later ih =>
    obtain ⟨first, ordered⟩ := List.pairwise_cons.1 ordered
    obtain ⟨old, holds⟩ := held edit List.mem_cons_self
    obtain ⟨gap, rest, rfl, span⟩ := holds.exists_gap (after edit List.mem_cons_self)
    have regroup : front ++ (gap ++ (old ++ rest)) = front ++ (gap ++ old) ++ rest := by
      simp only [List.append_assoc]
    have follow : ∀ edit ∈ later, byteLength (front ++ (gap ++ old)) ≤ edit.span.start := by
      intro next isLater
      have follows := first next isLater
      rwa [Precedes, span, List.append_assoc] at follows
    obtain ⟨result, splices⟩ := ih ordered
      (fun edit isLater => regroup ▸ held edit (List.mem_cons_of_mem _ isLater)) follow
    rw [byteLength_append] at splices
    have here : edit.span = ⟨byteLength front + byteLength gap,
        byteLength front + byteLength (gap ++ old)⟩ := by
      rw [span, List.append_assoc, byteLength_append, byteLength_append front (gap ++ old)]
    exact ⟨_, .next here splices⟩

/-- One replacement in a text that is cut where the edit says. -/
theorem replace?_append {old back : List Char}
    (span : edit.span = ⟨byteLength front, byteLength (front ++ old)⟩) :
    replace? (front ++ (old ++ back)) edit = some (front ++ (edit.replacement.toList ++ back)) := by
  have size : byteLength front + byteLength old - byteLength front = byteLength old :=
    Nat.add_sub_cancel_left ..
  simp [replace?, span, size]

/-- Replacing from the last edit to the first gives what is put together from left to right. -/
theorem Splices.foldlM_reverse (splices : Splices (byteLength front) edits text result) :
    edits.reverse.foldlM replace? (front ++ text) = some (front ++ result) := by
  generalize start : byteLength front = offset at splices
  induction splices generalizing front with
  | done => rfl
  | @next offset edit later gap old text result span _ ih =>
    subst start
    have later := ih (byteLength_append front (gap ++ old))
    have edited : replace? (front ++ gap ++ (old ++ result)) edit =
        some (front ++ gap ++ (edit.replacement.toList ++ result)) := by
      apply replace?_append
      rw [span, byteLength_append front gap, List.append_assoc, byteLength_append front (gap ++ old)]
    simp only [List.append_assoc] at later edited ⊢
    rw [List.reverse_cons, List.foldlM_append, later]
    simpa using edited

/-- Of edits that all have one span only one can be made. -/
theorem Splices.eq_of_span_eq {old back : List Char} (notEmpty : old ≠ [])
    (splices : Splices 0 edits (front ++ (old ++ back)) result)
    (same : ∀ edit ∈ edits, edit.span = ⟨byteLength front, byteLength (front ++ old)⟩) :
    result = front ++ (old ++ back) ∨
      ∃ edit ∈ edits, result = front ++ (edit.replacement.toList ++ back) := by
  generalize whole : front ++ (old ++ back) = text at splices
  cases splices with
  | done => exact .inl rfl
  | @next _ edit later gap old' rest result here splices =>
    have span := same edit List.mem_cons_self
    rw [here, Span.mk.injEq, byteLength_append, byteLength_append] at span
    obtain ⟨rfl, followed⟩ := append_inj_of_byteLength_eq whole (by omega)
    obtain ⟨rfl, rfl⟩ := append_inj_of_byteLength_eq followed (by omega)
    cases splices with
    | done => exact .inr ⟨edit, List.mem_cons_self, rfl⟩
    | @next _ edit' _ gap' old' _ _ there _ =>
      -- A second edit would begin where the first one ends.
      have size := Nat.pos_of_ne_zero (mt byteLength_eq_zero_iff.1 notEmpty)
      have again := same edit' (List.mem_cons_of_mem _ List.mem_cons_self)
      rw [there, Span.mk.injEq, byteLength_append, byteLength_append] at again
      omega

/-- One replacement that can be made, and the text before and after it. -/
theorem exists_of_replace?_eq_some (forwards : edit.span.start ≤ edit.span.stop)
    (made : replace? text edit = some result) : ∃ front old back,
    text = front ++ (old ++ back) ∧ edit.span = ⟨byteLength front, byteLength (front ++ old)⟩ ∧
      result = front ++ (edit.replacement.toList ++ back) := by
  simp only [replace?, bind, Option.bind_eq_some_iff] at made
  obtain ⟨⟨front, rest⟩, opened, ⟨old, back⟩, closed, made⟩ := made
  obtain ⟨rfl, start⟩ := append_of_splitAtByte? opened
  obtain ⟨rfl, size⟩ := append_of_splitAtByte? closed
  refine ⟨front, old, back, rfl, ?_, by simpa using (Option.some.inj made).symm⟩
  rw [byteLength_append, start, size, Nat.add_sub_cancel' forwards]

/-- Edits that fit can be made from the first of the list on only if the text has all their spans. -/
theorem holds_of_foldlM {ordered : List Edit}
    (clear : ordered.Pairwise fun earlier edit => edit.Precedes earlier)
    (forwards : ∀ edit ∈ ordered, edit.span.start ≤ edit.span.stop)
    (made : ordered.foldlM replace? text = some result) :
    ∀ edit ∈ ordered, ∃ old, Holds text edit.span old := by
  induction ordered generalizing text with
  | nil => exact nofun
  | cons first later ih =>
    obtain ⟨clearFirst, clearLater⟩ := List.pairwise_cons.1 clear
    rw [List.foldlM_cons] at made
    obtain ⟨between, madeFirst, madeLater⟩ := Option.bind_eq_some_iff.1 made
    obtain ⟨front, old, back, rfl, span, rfl⟩ :=
      exists_of_replace?_eq_some (forwards first List.mem_cons_self) madeFirst
    have held := ih clearLater (fun edit isLater => forwards edit (List.mem_cons_of_mem _ isLater))
      madeLater
    intro edit isEdit
    rcases List.mem_cons.1 isEdit with rfl | isLater
    · exact ⟨old, front, back, rfl, span⟩
    · -- What comes later in the list is in front of the replacement.
      obtain ⟨old', holds⟩ := held edit isLater
      have earlier := clearFirst edit isLater
      rw [Precedes, span] at earlier
      exact ⟨old', holds.of_front earlier⟩

/-- Edits that fit and whose spans the text has are made. -/
theorem Fits.exists_foldlM {size : Nat} {ordered : List Edit} (fits : Fits size ordered)
    (held : ∀ edit ∈ ordered, ∃ old, Holds text edit.span old) :
    ∃ result, ordered.foldlM replace? text = some result ∧ Splices 0 ordered.reverse text result := by
  obtain ⟨result, splices⟩ : ∃ result, Splices (byteLength []) ordered.reverse text result :=
    exists_splices (List.pairwise_reverse.2 fits.pairwise)
      (fun edit isEdit => held edit (List.mem_reverse.1 isEdit)) (fun edit _ => Nat.zero_le _)
  have made := splices.foldlM_reverse
  rw [List.reverse_reverse] at made
  exact ⟨result, made, splices⟩

/-- Edits that start at different places are taken from the last to the first. -/
theorem latestFirst_eq_reverse (ordered : edits.Pairwise StartsBefore) :
    latestFirst edits = edits.reverse := by
  have order := latestFirst_ordered edits
  have reversed : edits.reverse.Pairwise fun a b => b.span.start ≤ a.span.start :=
    List.pairwise_reverse.2 (ordered.imp Nat.le_of_lt)
  refine List.Perm.eq_of_pairwise ?_ order.sorted reversed (order.perm.trans edits.reverse_perm.symm)
  intro a b isEdit isEdit' second first
  rw [List.mem_reverse] at isEdit'
  rw [order.perm.mem_iff] at isEdit
  have differ : edits.Pairwise fun a b => a.span.start ≠ b.span.start := ordered.imp Nat.ne_of_lt
  have : Std.Symm fun a b : Edit => a.span.start ≠ b.span.start := ⟨fun _ _ => Ne.symm⟩
  by_contra different
  refine differ.forall isEdit isEdit' different ?_
  exact Nat.le_antisymm first second

/-- Edits that follow one another and whose spans the text has are made, and what comes out is put
together from left to right. -/
theorem exists_applyAll_eq_ok {source : String} (ordered : edits.Pairwise Precedes)
    (held : ∀ edit ∈ edits, edit.span.start < edit.span.stop ∧ ∃ old, Holds source.toList edit.span old) :
    ∃ result, applyAll source edits = .ok (String.ofList result) ∧
      Splices 0 edits source.toList result := by
  have fits : Fits (byteLength source.toList) edits.reverse := by
    refine ⟨fun edit isEdit => ?_, (List.pairwise_reverse.2 ordered).isChain⟩
    obtain ⟨size, old, holds⟩ := held edit (List.mem_reverse.1 isEdit)
    exact ⟨Nat.le_of_lt size, holds.stop_le⟩
  have strict : edits.Pairwise StartsBefore :=
    ordered.imp_of_mem fun {a b} isEdit _ first => first.startsBefore (held a isEdit).1
  obtain ⟨result, made, splices⟩ :=
    fits.exists_foldlM fun edit isEdit => (held edit (List.mem_reverse.1 isEdit)).2
  rw [List.reverse_reverse] at splices
  refine ⟨result, ?_, splices⟩
  simp only [applyAll, latestFirst_eq_reverse strict, fits.check_eq_ok, made]
  rfl

end ClassRename.Edit
