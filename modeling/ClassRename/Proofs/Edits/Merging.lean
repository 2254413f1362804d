import ClassRename.Edit
import Mathlib.Data.List.Sort

/-! # Merging edits

Merging puts edits in order and keeps one of neighbours that agree. It loses no edit but for copies.
When different edits do not touch, the merged edits follow one another in the text, and they do not
depend on the order in which they came.
-/

namespace ClassRename.Edit

/-- The first edit ends before the second begins. -/
def Precedes (a b : Edit) : Prop := a.span.stop ≤ b.span.start

/-- The first edit starts before the second starts. -/
def StartsBefore (a b : Edit) : Prop := a.span.start < b.span.start

instance : Std.Irrefl StartsBefore := ⟨fun _ => Nat.lt_irrefl _⟩

instance : Std.Antisymm StartsBefore :=
  ⟨fun _ _ first second => absurd first (Nat.not_lt_of_lt second)⟩

/-- No edit is empty, and of two different edits one ends before the other begins. -/
structure Apart (edits : List Edit) : Prop where
  nonempty : ∀ edit ∈ edits, edit.span.start < edit.span.stop
  precedes : ∀ a ∈ edits, ∀ b ∈ edits, a = b ∨ a.Precedes b ∨ b.Precedes a

variable {a b edit kept : Edit} {edits later : List Edit}

theorem Precedes.startsBefore (first : a.Precedes b) (nonempty : a.span.start < a.span.stop) :
    a.StartsBefore b :=
  Nat.lt_of_lt_of_le nonempty first

theorem agrees_iff : a.agrees b = true ↔ a.span = b.span ∧ a.replacement = b.replacement := by
  simp [agrees]

theorem before_iff :
    a.before b = true ↔
      a.span.start < b.span.start ∨ a.span.start = b.span.start ∧ a.span.stop ≤ b.span.stop := by
  simp [before]

/-- Sorting keeps the order of those that count as equal. -/
theorem filter_mergeSort_eq {α : Type} {le : α → α → Bool} {keep : α → Bool}
    (trans : ∀ a b c, le a b = true → le b c = true → le a c = true)
    (total : ∀ a b, (le a b || le b a) = true)
    (tied : ∀ a b, keep a = true → keep b = true → le a b = true) (list : List α) :
    (list.mergeSort le).filter keep = list.filter keep := by
  -- They are sorted as they are, so sorting keeps them as a sublist.
  have sorted : (list.filter keep).Pairwise fun a b => le a b = true := by
    apply List.pairwise_of_forall_mem_list
    intro a isKept b isKept'
    exact tied a b (List.mem_filter.1 isKept).2 (List.mem_filter.1 isKept').2
  have kept : (list.filter keep).Sublist (list.mergeSort le) :=
    List.sublist_mergeSort trans total sorted List.filter_sublist
  have kept' := kept.filter keep
  simp only [List.filter_filter, Bool.and_self] at kept'
  exact (kept'.eq_of_length ((List.mergeSort_perm list le).filter keep).symm.length_eq).symm

theorem before_trans (a b c : Edit) (first : a.before b = true) (second : b.before c = true) :
    a.before c = true := by
  rw [before_iff] at *
  omega

theorem before_total (a b : Edit) : (a.before b || b.before a) = true := by
  rw [Bool.or_eq_true, before_iff, before_iff]
  omega

/-- Sorting puts every edit before those that come later in the text. -/
theorem mergeSort_before_pairwise (edits : List Edit) :
    (edits.mergeSort before).Pairwise fun a b => a.before b = true :=
  List.pairwise_mergeSort before_trans before_total edits

theorem collapseAfter_subset : collapseAfter kept later ⊆ later := by
  induction later generalizing kept with
  | nil => exact List.Subset.refl _
  | cons edit later ih =>
    rw [collapseAfter]
    split
    · exact List.subset_cons_of_subset _ ih
    · exact List.cons_subset_cons _ ih

/-- Of every edit a copy is kept. -/
theorem exists_agrees_of_mem_cons (isEdit : edit ∈ kept :: later) :
    ∃ copy ∈ kept :: collapseAfter kept later, copy.agrees edit = true := by
  induction later generalizing kept with
  | nil =>
    obtain rfl := List.mem_singleton.1 isEdit
    exact ⟨edit, List.mem_cons_self, agrees_iff.2 ⟨rfl, rfl⟩⟩
  | cons next later ih =>
    rw [collapseAfter]
    split
    · next same =>
      rcases List.mem_cons.1 isEdit with rfl | isLater
      · exact ⟨edit, List.mem_cons_self, agrees_iff.2 ⟨rfl, rfl⟩⟩
      · rcases List.mem_cons.1 isLater with rfl | isLater
        · exact ⟨kept, List.mem_cons_self, same⟩
        · exact ih (List.mem_cons_of_mem _ isLater)
    · rcases List.mem_cons.1 isEdit with rfl | isLater
      · exact ⟨edit, List.mem_cons_self, agrees_iff.2 ⟨rfl, rfl⟩⟩
      · obtain ⟨copy, isKept, same⟩ := ih isLater
        exact ⟨copy, List.mem_cons_of_mem _ isKept, same⟩

/-- Merging makes no edit up. -/
theorem mem_of_mem_merge (isMerged : edit ∈ merge edits) : edit ∈ edits := by
  rw [merge] at isMerged
  rw [← (List.mergeSort_perm edits before).mem_iff]
  generalize edits.mergeSort before = sorted at isMerged ⊢
  cases sorted with
  | nil => exact isMerged
  | cons first later =>
    rcases List.mem_cons.1 isMerged with rfl | isLater
    · exact List.mem_cons_self
    · exact List.mem_cons_of_mem _ (collapseAfter_subset isLater)

/-- Of every edit, merging keeps one with the same span and replacement. -/
theorem exists_mem_merge_agrees (isEdit : edit ∈ edits) :
    ∃ copy ∈ merge edits, copy.agrees edit = true := by
  rw [← (List.mergeSort_perm edits before).mem_iff] at isEdit
  rw [merge]
  generalize edits.mergeSort before = sorted at isEdit ⊢
  cases sorted with
  | nil => cases isEdit
  | cons first later => exact exists_agrees_of_mem_cons isEdit

namespace Apart

theorem subset (apart : Apart edits) {some : List Edit} (fewer : some ⊆ edits) : Apart some where
  nonempty edit isEdit := apart.nonempty edit (fewer isEdit)
  precedes a inSome b inSome' := apart.precedes a (fewer inSome) b (fewer inSome')

/-- Edits of one span are one edit. -/
theorem eq_of_span_eq (apart : Apart edits) (isEdit : a ∈ edits) (isEdit' : b ∈ edits)
    (same : a.span = b.span) : a = b := by
  have size := apart.nonempty a isEdit
  rcases apart.precedes a isEdit b isEdit' with equal | earlier | later
  · exact equal
  · rw [Precedes, ← same] at earlier
    omega
  · rw [Precedes, ← same] at later
    omega

/-- Merging loses and adds nothing. -/
theorem mem_merge_iff (apart : Apart edits) : edit ∈ merge edits ↔ edit ∈ edits := by
  constructor
  · exact mem_of_mem_merge
  · intro isEdit
    obtain ⟨copy, isMerged, same⟩ := exists_mem_merge_agrees isEdit
    have isEdit' := mem_of_mem_merge isMerged
    rwa [← apart.eq_of_span_eq isEdit' isEdit (agrees_iff.1 same).1]

/-- What is kept of sorted edits follows one another in the text. -/
theorem collapseAfter_pairwise (apart : Apart (kept :: later))
    (sorted : (kept :: later).Pairwise fun a b => a.before b = true) :
    (kept :: collapseAfter kept later).Pairwise Precedes := by
  induction later generalizing kept with
  | nil => exact List.pairwise_singleton ..
  | cons next later ih =>
    have isKept : kept ∈ kept :: next :: later := List.mem_cons_self
    have isNext : next ∈ kept :: next :: later := List.mem_cons_of_mem _ List.mem_cons_self
    rw [collapseAfter]
    split
    · next same =>
      obtain rfl := apart.eq_of_span_eq isKept isNext (agrees_iff.1 same).1
      exact ih (apart.subset (List.subset_cons_self ..)) (List.pairwise_cons.1 sorted).2
    · next differs =>
      obtain ⟨beforeAll, sorted⟩ := List.pairwise_cons.1 sorted
      have rest := ih (apart.subset (List.subset_cons_self ..)) sorted
      refine List.pairwise_cons.2 ⟨fun edit isLater => ?_, rest⟩
      have size := apart.nonempty next isNext
      -- The next edit is another one, so it begins after the one that is kept.
      have first : kept.Precedes next := by
        rcases apart.precedes kept isKept next isNext with rfl | first | second
        · exact absurd (agrees_iff.2 ⟨rfl, rfl⟩) differs
        · exact first
        · have order := before_iff.1 (beforeAll next List.mem_cons_self)
          rw [Precedes] at second
          omega
      rcases List.mem_cons.1 isLater with rfl | isLater
      · exact first
      · have order := (List.pairwise_cons.1 sorted).1 edit (collapseAfter_subset isLater)
        rw [before_iff] at order
        rw [Precedes] at first ⊢
        omega

/-- Merged edits follow one another in the text. -/
theorem merge_pairwise (apart : Apart edits) : (merge edits).Pairwise Precedes := by
  have sorted := mergeSort_before_pairwise edits
  have apart : Apart (edits.mergeSort before) := apart.subset fun edit => List.mem_mergeSort.1
  rw [merge]
  generalize edits.mergeSort before = all at sorted apart
  cases all with
  | nil => exact List.Pairwise.nil
  | cons first later => exact collapseAfter_pairwise apart sorted

end Apart

/-- Merged edits start at different places. -/
theorem Apart.merge_startsBefore (apart : Apart edits) : (merge edits).Pairwise StartsBefore := by
  refine apart.merge_pairwise.imp_of_mem fun {a b} isMerged _ first => ?_
  exact first.startsBefore (apart.nonempty a (mem_of_mem_merge isMerged))

/-- Merging does not depend on the order of the edits, nor on how often each is given. -/
theorem Apart.merge_eq (apart : Apart edits) {edits' : List Edit}
    (same : ∀ edit, edit ∈ edits ↔ edit ∈ edits') : merge edits = merge edits' := by
  have apart' : Apart edits' := apart.subset fun edit => (same edit).2
  refine apart.merge_startsBefore.eq_of_mem_iff apart'.merge_startsBefore fun edit => ?_
  rw [apart.mem_merge_iff, apart'.mem_merge_iff, same]

end ClassRename.Edit
