import ClassRename.Proofs.Edits.Merging
import Mathlib.Data.List.Destutter

/-! # Copies of an edit

Edits with the same span and the same text for it are copies of one another. Merging drops a copy when
it comes right after the edit that is kept before it. Since edits are sorted by their spans alone, those
of one span stay in the order in which they came. So merging leaves no copies exactly when the copies
among the edits of a span came one right after the other; an edit with another text for the span that
came between two copies makes both of them stay.
-/

namespace ClassRename.Edit

variable {kept : Edit} {edits edits' later : List Edit}

/-- What an edit does: its span and the text for it. -/
def content (edit : Edit) : Span × String := (edit.span, edit.replacement)

theorem agrees_iff_content {a b : Edit} : a.agrees b = true ↔ a.content = b.content := by
  rw [agrees_iff, content, content, Prod.mk.injEq]

/-- Copies come one right after the other. -/
def CopiesAdjacent (edits : List Edit) : Prop :=
  ∀ first between last, [first, between, last].Sublist edits → first.content = last.content →
    first.content = between.content

/-- Among the edits of one span, copies come one right after the other. -/
def CopiesTogether (edits : List Edit) : Prop :=
  ∀ first between last, [first, between, last].Sublist edits → first.span = between.span →
    first.content = last.content → first.content = between.content

/-! ## Dropping copies -/

/-- Neighbours that agree are dropped but for the first. -/
theorem cons_collapseAfter_eq :
    kept :: collapseAfter kept later = later.destutter' (fun a b => a.content ≠ b.content) kept := by
  induction later generalizing kept with
  | nil => rfl
  | cons edit later ih =>
    rw [collapseAfter]
    split
    · next same => rw [ih, List.destutter'_cons_neg _ (not_not.2 (agrees_iff_content.1 same))]
    · next differs => rw [ih, List.destutter'_cons_pos _ (mt agrees_iff_content.2 differs)]

theorem collapse_eq_destutter :
    collapse edits = edits.destutter fun a b => a.content ≠ b.content := by
  cases edits with
  | nil => rfl
  | cons edit later => exact cons_collapseAfter_eq

/-- Copies are adjacent when they are so in the rest of the list and no copy of its first edit follows
another edit. -/
theorem copiesAdjacent_cons_iff : CopiesAdjacent (kept :: later) ↔
    (∀ between last, [between, last].Sublist later → kept.content = last.content →
      kept.content = between.content) ∧ CopiesAdjacent later := by
  constructor
  · intro adjacent
    constructor
    · intro between last stands
      exact adjacent kept between last (stands.cons_cons _)
    · intro first between last stands
      exact adjacent first between last (stands.cons _)
  · rintro ⟨alone, adjacent⟩ first between last stands
    rcases List.sublist_cons_iff.1 stands with stands | ⟨rest, split, stands⟩
    · exact adjacent first between last stands
    · obtain ⟨rfl, rfl⟩ := List.cons_eq_cons.1 split
      exact alone between last stands

/-- A second copy at the front makes no difference. -/
theorem copiesAdjacent_copy_iff {next : Edit} (copy : kept.content = next.content) :
    CopiesAdjacent (kept :: next :: later) ↔ CopiesAdjacent (kept :: later) := by
  rw [copiesAdjacent_cons_iff, copiesAdjacent_cons_iff, copiesAdjacent_cons_iff]
  constructor
  · rintro ⟨alone, -, adjacent⟩
    exact ⟨fun between last stands => alone between last (stands.cons _), adjacent⟩
  · rintro ⟨alone, adjacent⟩
    refine ⟨?_, ?_, adjacent⟩
    · intro between last stands copies
      rcases List.sublist_cons_iff.1 stands with stands | ⟨rest, split, -⟩
      · exact alone between last stands copies
      · obtain ⟨rfl, -⟩ := List.cons_eq_cons.1 split
        exact copy
    · intro between last stands copies
      rw [← copy] at copies ⊢
      exact alone between last stands copies

/-- Collapsing leaves no copies exactly when copies are adjacent. -/
theorem pairwise_collapseAfter_iff :
    (kept :: collapseAfter kept later).Pairwise (fun a b => a.content ≠ b.content) ↔
      CopiesAdjacent (kept :: later) := by
  induction later generalizing kept with
  | nil =>
    constructor
    · intro _ first between last stands
      exact absurd stands.length_le (by simp)
    · intro _
      exact List.pairwise_singleton ..
  | cons next later ih =>
    rw [collapseAfter]
    split
    · next same => rw [ih, copiesAdjacent_copy_iff (agrees_iff_content.1 same)]
    · next differs =>
      rw [agrees_iff_content] at differs
      rw [List.pairwise_cons, ih, @copiesAdjacent_cons_iff kept]
      refine and_congr_left fun _ => ⟨?_, ?_⟩
      · -- A copy that follows would have been kept, in some form.
        intro alone between last stands copies
        have isLater : last ∈ next :: later := stands.subset (by simp)
        obtain ⟨copy, isKept, same⟩ := exists_agrees_of_mem_cons isLater
        exact absurd (copies.trans (agrees_iff_content.1 same).symm) (alone copy isKept)
      · intro alone edit isKept copies
        rcases List.mem_cons.1 isKept with rfl | isLater
        · exact differs copies
        · have stands : [next, edit].Sublist (next :: later) :=
            (List.singleton_sublist.2 (collapseAfter_subset isLater)).cons_cons _
          exact differs (alone next edit stands copies)

theorem pairwise_collapse_iff :
    (collapse edits).Pairwise (fun a b => a.content ≠ b.content) ↔ CopiesAdjacent edits := by
  cases edits with
  | nil => simp [collapse, CopiesAdjacent]
  | cons edit later => exact pairwise_collapseAfter_iff

/-! ## Sorting keeps the edits of a span in order -/

/-- Three edits of one span stand in the sorted list as they do in the list. -/
theorem sublist_mergeSort_iff {first between last : Edit} (same : first.span = between.span)
    (same' : first.span = last.span) :
    [first, between, last].Sublist (edits.mergeSort before) ↔
      [first, between, last].Sublist edits := by
  have tied (a b : Edit) (here : (a.span == first.span) = true) (here' : (b.span == first.span) = true) :
      a.before b = true := by
    rw [beq_iff_eq] at here here'
    rw [before_iff, here, here']
    exact .inr ⟨rfl, Nat.le_refl _⟩
  have stable := filter_mergeSort_eq before_trans before_total tied edits
  have chosen : [first, between, last].filter (·.span == first.span) = [first, between, last] := by
    simp [← same, ← same']
  constructor
  · intro stands
    have inSpan := stands.filter (·.span == first.span)
    rw [chosen, stable] at inSpan
    exact inSpan.trans List.filter_sublist
  · intro stands
    have inSpan := stands.filter (·.span == first.span)
    rw [chosen, ← stable] at inSpan
    exact inSpan.trans List.filter_sublist

/-- In a sorted list, what stands between two edits of one span is of that span. -/
theorem span_eq_of_between {first between last : Edit}
    (sorted : edits.Pairwise fun a b => a.before b = true)
    (stands : [first, between, last].Sublist edits) (same : first.span = last.span) :
    first.span = between.span := by
  obtain ⟨beforeAll, beforeLast⟩ := List.pairwise_cons.1 (sorted.sublist stands)
  have opens := before_iff.1 (beforeAll between List.mem_cons_self)
  have closes := before_iff.1 (List.rel_of_pairwise_cons beforeLast List.mem_cons_self)
  rw [← same] at closes
  have start : first.span.start = between.span.start := by omega
  have stop : first.span.stop = between.span.stop := by omega
  exact (Span.mk.injEq ..).mpr ⟨start, stop⟩

/-- Merging leaves no copies exactly when those of each span came together. -/
theorem nodup_content_merge_iff : ((merge edits).map content).Nodup ↔ CopiesTogether edits := by
  rw [List.Nodup, List.pairwise_map, merge, pairwise_collapse_iff]
  have spans {a b : Edit} (copies : a.content = b.content) : a.span = b.span :=
    congrArg Prod.fst copies
  constructor
  · intro adjacent first between last stands same copies
    exact adjacent first between last ((sublist_mergeSort_iff same (spans copies)).2 stands) copies
  · intro together first between last stands copies
    have same := span_eq_of_between (mergeSort_before_pairwise edits) stands (spans copies)
    exact together first between last ((sublist_mergeSort_iff same (spans copies)).1 stands) same copies

/-- What is done by the merged edits is what is done by the edits. -/
theorem mem_content_merge_iff {done : Span × String} :
    done ∈ (merge edits).map content ↔ done ∈ edits.map content := by
  constructor
  · intro isDone
    obtain ⟨edit, isMerged, rfl⟩ := List.mem_map.1 isDone
    exact List.mem_map_of_mem (mem_of_mem_merge isMerged)
  · intro isDone
    obtain ⟨edit, isEdit, rfl⟩ := List.mem_map.1 isDone
    obtain ⟨copy, isMerged, same⟩ := exists_mem_merge_agrees isEdit
    exact List.mem_map.2 ⟨copy, isMerged, agrees_iff_content.1 same⟩

/-- Merged edits are sorted by their spans, no two neighbours are copies, none is made up, and of every
edit a copy is kept. There are no copies among them exactly when those of each span came one right after
the other; then the merged edits do, for every such order of the edits, the same. -/
theorem merge_copies (edits : List Edit) :
    (merge edits).Pairwise (fun a b => a.before b = true) ∧
    (merge edits).IsChain (fun a b => a.content ≠ b.content) ∧
    (∀ edit ∈ merge edits, edit ∈ edits) ∧
    (∀ edit ∈ edits, ∃ copy ∈ merge edits, copy.content = edit.content) ∧
    (((merge edits).map content).Nodup ↔ CopiesTogether edits) ∧
    ∀ edits' : List Edit, edits'.Perm edits →
      (∀ done, done ∈ (merge edits').map content ↔ done ∈ (merge edits).map content) ∧
      (CopiesTogether edits → CopiesTogether edits' →
        ((merge edits').map content).Perm ((merge edits).map content)) := by
  refine ⟨?_, ?_, fun edit => mem_of_mem_merge, ?_, nodup_content_merge_iff, ?_⟩
  · rw [merge, collapse_eq_destutter]
    exact (mergeSort_before_pairwise edits).sublist (List.destutter_sublist _ _)
  · rw [merge, collapse_eq_destutter]
    exact List.isChain_destutter _ _
  · intro edit isEdit
    obtain ⟨copy, isMerged, same⟩ := exists_mem_merge_agrees isEdit
    exact ⟨copy, isMerged, agrees_iff_content.1 same⟩
  · intro edits' perm
    have members (done : Span × String) :
        done ∈ (merge edits').map content ↔ done ∈ (merge edits).map content := by
      rw [mem_content_merge_iff, mem_content_merge_iff]
      exact (perm.map content).mem_iff
    refine ⟨members, fun together together' => ?_⟩
    rw [List.perm_ext_iff_of_nodup (nodup_content_merge_iff.2 together')
      (nodup_content_merge_iff.2 together)]
    exact members

/-- Between two copies stands an edit with another text for their span: all three are kept. -/
theorem merge_keeps_copies :
    merge [⟨⟨0, 3⟩, "x", "first"⟩, ⟨⟨0, 3⟩, "y", "second"⟩, ⟨⟨0, 3⟩, "x", "third"⟩] =
      [⟨⟨0, 3⟩, "x", "first"⟩, ⟨⟨0, 3⟩, "y", "second"⟩, ⟨⟨0, 3⟩, "x", "third"⟩] := by
  have sorted : List.Pairwise (fun a b => before a b = true)
      [⟨⟨0, 3⟩, "x", "first"⟩, ⟨⟨0, 3⟩, "y", "second"⟩, ⟨⟨0, 3⟩, "x", "third"⟩] := by decide
  rw [merge, List.mergeSort_of_pairwise sorted]
  decide

end ClassRename.Edit
