import ClassRename.Proofs.Edits.Weaving
import Mathlib.Data.List.Permutation

/-! # The order of edits

Edits are sorted by where they start, with the later starts first, and those with one start are taken in
the order in which they came. An edit that only inserts text has no bytes of its own. When it comes
before an edit that replaces text from the same place on, the other one is found to reach into it, and
the edits are refused; when it comes after that one, they are made. So whether edits are made depends on
their order exactly when they could all be made and one inserts text where another begins to replace
some. The text that comes out does not depend on the order unless several are inserted at one place.
-/

namespace ClassRename.Edit

variable {source : String} {a b : Edit} {edits edits' ordered : List Edit}

/-- The first edit only inserts text, at the place where the second begins to replace some. -/
def InsertsAt (a b : Edit) : Prop :=
  a.span.start = b.span.start ∧ a.span.stop = a.span.start ∧ b.span.start < b.span.stop

/-- The source has the span of each edit, and of any two edits one ends before the other begins. -/
structure Compatible (source : String) (edits : List Edit) : Prop where
  held : ∀ edit ∈ edits, ∃ old, Holds source.toList edit.span old
  clear : edits.Pairwise fun a b => a.Precedes b ∨ b.Precedes a

/-! ## Two edits in the order in which they are taken -/

/-- A pair of a list stands in another order of the list as it is or turned round. -/
theorem pair_sublist_of_perm (perm : edits.Perm edits') (stands : [a, b].Sublist edits) :
    [a, b].Sublist edits' ∨ [b, a].Sublist edits' := by
  obtain ⟨pair, same, stands'⟩ := stands.subperm.trans perm.subperm
  rcases List.perm_pair.1 same with rfl | rfl
  · exact .inl stands'
  · exact .inr stands'

/-- Of two edits the one with the later start is taken first, and of two with one start the one that
came first. -/
theorem LatestFirst.pair_sublist_iff (order : LatestFirst edits ordered) :
    [a, b].Sublist ordered ↔
      b.span.start < a.span.start ∧ ([a, b].Sublist edits ∨ [b, a].Sublist edits) ∨
      b.span.start = a.span.start ∧ [a, b].Sublist edits := by
  have descends {first second : Edit} (stands : [first, second].Sublist ordered) :
      second.span.start ≤ first.span.start :=
    List.pairwise_iff_forall_sublist.1 order.sorted stands
  have pairOfTied (list : List Edit) (same : b.span.start = a.span.start)
      (stands : [a, b].Sublist list) : [a, b].Sublist (list.filter (·.span.start == a.span.start)) := by
    simpa [same] using stands.filter (·.span.start == a.span.start)
  constructor
  · intro stands
    rcases Nat.lt_or_eq_of_le (descends stands) with later | same
    · exact .inl ⟨later, pair_sublist_of_perm order.perm stands⟩
    · have tied := pairOfTied ordered same stands
      rw [order.stable] at tied
      exact .inr ⟨same, tied.trans List.filter_sublist⟩
  · rintro (⟨later, stands⟩ | ⟨same, stands⟩)
    · have found : [a, b].Sublist ordered ∨ [b, a].Sublist ordered := by
        rcases stands with stands | stands
        · exact pair_sublist_of_perm order.perm.symm stands
        · exact (pair_sublist_of_perm order.perm.symm stands).symm
      rcases found with stands' | stands'
      · exact stands'
      · exact absurd (descends stands') (Nat.not_le_of_lt later)
    · have tied := pairOfTied edits same stands
      rw [← order.stable] at tied
      exact tied.trans List.filter_sublist

/-- Each edit ends before the ones taken earlier start, exactly if any two of them are clear of each
other and none that inserts text comes before one that replaces text from there on. -/
theorem LatestFirst.pairwise_precedes_iff (order : LatestFirst edits ordered)
    (forwards : ∀ edit ∈ edits, edit.span.start ≤ edit.span.stop) :
    (ordered.Pairwise fun earlier edit => edit.Precedes earlier) ↔
      edits.Pairwise fun a b => (a.Precedes b ∨ b.Precedes a) ∧ ¬a.InsertsAt b := by
  rw [List.pairwise_iff_forall_sublist, List.pairwise_iff_forall_sublist]
  constructor
  · intro precedes a b stands
    rcases Nat.lt_trichotomy a.span.start b.span.start with earlier | same | later
    · have taken : [b, a].Sublist ordered := order.pair_sublist_iff.2 (.inl ⟨earlier, .inr stands⟩)
      exact ⟨.inl (precedes taken), fun inserts => Nat.ne_of_lt earlier inserts.1⟩
    · have taken : [a, b].Sublist ordered := order.pair_sublist_iff.2 (.inr ⟨same.symm, stands⟩)
      have clear := precedes taken
      refine ⟨.inr clear, fun inserts => ?_⟩
      obtain ⟨-, -, replaces⟩ := inserts
      rw [Precedes] at clear
      omega
    · have taken : [a, b].Sublist ordered := order.pair_sublist_iff.2 (.inl ⟨later, .inl stands⟩)
      exact ⟨.inr (precedes taken), fun inserts => Nat.ne_of_gt later inserts.1⟩
  · intro clear a b taken
    have isEdit : a ∈ edits := order.perm.subset (taken.subset List.mem_cons_self)
    have forwards := forwards a isEdit
    rcases order.pair_sublist_iff.1 taken with ⟨later, stands⟩ | ⟨same, stands⟩
    · have apart : a.Precedes b ∨ b.Precedes a := by
        rcases stands with stands | stands
        · exact (clear stands).1
        · exact (clear stands).1.symm
      rcases apart with first | second
      · rw [Precedes] at first
        omega
      · exact second
    · obtain ⟨first | second, noInsertion⟩ := clear stands
      · rw [Precedes] at first ⊢
        by_contra reaches
        exact noInsertion ⟨same.symm, by omega, by omega⟩
      · exact second

/-! ## Which edits are made -/

/-- Edits are made exactly if the source has their spans and they fit. -/
theorem exists_applyAll_iff_fits : (∃ result, applyAll source edits = .ok result) ↔
    (∀ edit ∈ edits, ∃ old, Holds source.toList edit.span old) ∧
      Fits (byteLength source.toList) (latestFirst edits) := by
  have member (edit : Edit) : edit ∈ latestFirst edits ↔ edit ∈ edits :=
    (latestFirst_ordered edits).perm.mem_iff
  constructor
  · rintro ⟨result, made⟩
    rcases fits_or_firstMisfit (byteLength source.toList) (latestFirst edits) with
      fits | ⟨error, misfit⟩
    · rcases applyAll_of_fits fits with ⟨-, -, between, -⟩ | ⟨failed, -⟩
      · refine ⟨fun edit isEdit => exists_holds_iff.2 ?_, fits⟩
        exact ⟨(fits.inside edit ((member edit).2 isEdit)).1, between edit isEdit⟩
      · cases failed.symm.trans made
    · cases misfit.applyAll_eq.symm.trans made
  · rintro ⟨held, fits⟩
    rcases applyAll_of_fits fits with ⟨result, made, -⟩ | ⟨-, edit, isEdit, inside⟩
    · exact ⟨result, made⟩
    · exact absurd (exists_holds_iff.1 (held edit isEdit)).2 inside

theorem forwards_of_held (held : ∀ edit ∈ edits, ∃ old, Holds source.toList edit.span old) :
    ∀ edit ∈ edits, edit.span.start ≤ edit.span.stop := by
  intro edit isEdit
  obtain ⟨old, holds⟩ := held edit isEdit
  exact holds.start_le_stop

/-- Edits are made exactly if they are compatible and none that inserts text comes before one that
replaces text from there on. -/
theorem exists_applyAll_iff : (∃ result, applyAll source edits = .ok result) ↔
    Compatible source edits ∧ edits.Pairwise fun a b => ¬a.InsertsAt b := by
  have order := latestFirst_ordered edits
  rw [exists_applyAll_iff_fits]
  constructor
  · rintro ⟨held, fits⟩
    have clear := (order.pairwise_precedes_iff (forwards_of_held held)).1 fits.pairwise
    exact ⟨⟨held, clear.imp And.left⟩, clear.imp And.right⟩
  · rintro ⟨⟨held, clear⟩, noInsertion⟩
    have taken :=
      (order.pairwise_precedes_iff (forwards_of_held held)).2 (clear.and noInsertion)
    refine ⟨held, ?_, taken.isChain⟩
    intro edit isEdit
    obtain ⟨old, holds⟩ := held edit (order.perm.subset isEdit)
    exact ⟨holds.start_le_stop, holds.stop_le⟩

/-- Whether edits are compatible does not depend on their order. -/
theorem Compatible.perm (compatible : Compatible source edits) (perm : edits'.Perm edits) :
    Compatible source edits' where
  held edit isEdit := compatible.held edit (perm.subset isEdit)
  clear := compatible.clear.perm perm.symm Or.symm

theorem compatible_perm_iff (perm : edits'.Perm edits) :
    Compatible source edits' ↔ Compatible source edits :=
  ⟨fun compatible => compatible.perm perm.symm, fun compatible => compatible.perm perm⟩

/-- With those that replace text put first, none that inserts text comes before one of them. -/
theorem exists_perm_insertsLast (edits : List Edit) : ∃ edits' : List Edit, edits'.Perm edits ∧
    edits'.Pairwise fun a b => ¬a.InsertsAt b := by
  refine ⟨_, List.filter_append_perm (fun edit => decide (edit.span.start < edit.span.stop)) edits, ?_⟩
  rw [List.pairwise_append]
  have replaces {edit : Edit}
      (isFirst : edit ∈ edits.filter fun edit => decide (edit.span.start < edit.span.stop)) :
      edit.span.start < edit.span.stop :=
    of_decide_eq_true (List.mem_filter.1 isFirst).2
  refine ⟨?_, ?_, ?_⟩
  · apply List.pairwise_of_forall_mem_list
    rintro a isFirst b - ⟨-, inserts, -⟩
    have notEmpty := replaces isFirst
    omega
  · apply List.pairwise_of_forall_mem_list
    rintro a - b isLast ⟨-, -, notEmpty⟩
    have empty := (List.mem_filter.1 isLast).2
    simp only [Bool.not_eq_true', decide_eq_false_iff_not] at empty
    exact empty notEmpty
  · rintro a isFirst b - ⟨-, inserts, -⟩
    have notEmpty := replaces isFirst
    omega

/-- An edit that inserts text can be put before one that replaces text from there on. -/
theorem exists_perm_insertsFirst (isEdit : a ∈ edits) (isEdit' : b ∈ edits) (inserts : a.InsertsAt b) :
    ∃ edits' : List Edit, edits'.Perm edits ∧ ¬edits'.Pairwise fun a b => ¬a.InsertsAt b := by
  have different : b ≠ a := by
    rintro rfl
    obtain ⟨-, empty, notEmpty⟩ := inserts
    omega
  have isLater : b ∈ edits.erase a := (List.mem_erase_of_ne different).2 isEdit'
  refine ⟨a :: b :: (edits.erase a).erase b, ?_, ?_⟩
  · exact ((List.perm_cons_erase isEdit).trans ((List.perm_cons_erase isLater).cons a)).symm
  · intro none
    exact List.rel_of_pairwise_cons none List.mem_cons_self inserts

/-! ## What comes out -/

/-- Edits that are made are taken in one order, if those that insert text at one place are the same. -/
theorem latestFirst_eq_of_perm (perm : edits'.Perm edits)
    (single : ∀ a ∈ edits, ∀ b ∈ edits, a.span = b.span → a.span.start = a.span.stop → a = b)
    (fits : Fits (byteLength source.toList) (latestFirst edits))
    (fits' : Fits (byteLength source.toList) (latestFirst edits')) :
    latestFirst edits' = latestFirst edits := by
  have order := latestFirst_ordered edits
  have order' := latestFirst_ordered edits'
  apply List.Perm.eq_of_pairwise _ fits'.pairwise fits.pairwise
    (order'.perm.trans (perm.trans order.perm.symm))
  intro a b isEdit isEdit' second first
  have forwards := (fits'.inside a isEdit).1
  have forwards' := (fits.inside b isEdit').1
  -- Each ends before the other begins, so both are empty and in one place.
  rw [Precedes] at first second
  have start : a.span.start = b.span.start := by omega
  have stop : a.span.stop = b.span.stop := by omega
  apply single a (perm.subset (order'.perm.subset isEdit)) b (order.perm.subset isEdit')
  · exact (Span.mk.injEq ..).mpr ⟨start, stop⟩
  · omega

/-- How the order of edits counts. In an order the edits are made exactly if they are compatible and
none that inserts text comes before one that replaces text from there on. So all orders are alike in
this exactly if, where the edits are compatible, none inserts text where another begins to replace some.
The text that comes out of two orders is the same if those that insert text at one place are the same. -/
theorem applyAll_orders (source : String) (edits : List Edit) :
    (∀ edits' : List Edit, edits'.Perm edits →
      ((∃ result, applyAll source edits' = .ok result) ↔
        Compatible source edits ∧ edits'.Pairwise fun a b => ¬a.InsertsAt b)) ∧
    ((∀ edits' : List Edit, edits'.Perm edits →
        ((∃ result, applyAll source edits' = .ok result) ↔
          ∃ result, applyAll source edits = .ok result)) ↔
      (Compatible source edits → ∀ a ∈ edits, ∀ b ∈ edits, ¬a.InsertsAt b)) ∧
    ((∀ a ∈ edits, ∀ b ∈ edits, a.span = b.span → a.span.start = a.span.stop → a = b) →
      ∀ (edits' : List Edit) (result result' : String), edits'.Perm edits →
        applyAll source edits = .ok result → applyAll source edits' = .ok result' →
          result' = result) := by
  have accepted (edits' : List Edit) (perm : edits'.Perm edits) :
      (∃ result, applyAll source edits' = .ok result) ↔
        Compatible source edits ∧ edits'.Pairwise fun a b => ¬a.InsertsAt b := by
    rw [exists_applyAll_iff, compatible_perm_iff perm]
  refine ⟨accepted, ⟨?_, ?_⟩, ?_⟩
  · intro alike compatible a isEdit b isEdit' inserts
    obtain ⟨last, perm, insertsLast⟩ := exists_perm_insertsLast edits
    obtain ⟨first, perm', insertsFirst⟩ := exists_perm_insertsFirst isEdit isEdit' inserts
    have made := (alike last perm).1 ((accepted last perm).2 ⟨compatible, insertsLast⟩)
    exact insertsFirst ((accepted first perm').1 ((alike first perm').2 made)).2
  · intro none edits' perm
    rw [accepted edits' perm, accepted edits (.refl _)]
    refine and_congr_right fun compatible => ?_
    have never := none compatible
    constructor
    · intro _
      exact List.pairwise_of_forall_mem_list fun a isEdit b isEdit' => never a isEdit b isEdit'
    · intro _
      exact List.pairwise_of_forall_mem_list fun a isEdit b isEdit' =>
        never a (perm.subset isEdit) b (perm.subset isEdit')
  · intro single edits' result result' perm made made'
    have fits := (exists_applyAll_iff_fits.1 ⟨result, made⟩).2
    have fits' := (exists_applyAll_iff_fits.1 ⟨result', made'⟩).2
    have taken := latestFirst_eq_of_perm perm single fits fits'
    rw [applyAll, taken, ← applyAll, made] at made'
    exact (Except.ok.inj made').symm

/-- One edit inserts text where another begins to replace some: after that one it is made, and before it
both are refused. -/
theorem applyAll_refuses_insertion_first :
    applyAll "abcdef" [⟨⟨3, 5⟩, "Y", "replace"⟩, ⟨⟨3, 3⟩, "X", "insert"⟩] = .ok "abcXYf" ∧
    applyAll "abcdef" [⟨⟨3, 3⟩, "X", "insert"⟩, ⟨⟨3, 5⟩, "Y", "replace"⟩] =
      .error (.overlapping 3) := by
  have taken (edits : List Edit) (sorted : edits.Pairwise fun a b =>
      decide (b.span.start ≤ a.span.start) = true) : latestFirst edits = edits :=
    List.mergeSort_of_pairwise sorted
  constructor
  · rw [applyAll, taken _ (by decide)]
    decide +kernel
  · rw [applyAll, taken _ (by decide)]
    decide +kernel

end ClassRename.Edit
