import ClassRename.Proofs.Edits.Merging
import Mathlib.Data.List.Chain

/-! # Checking edits

Edits are taken with the later starts first; edits with one start are taken in the order in which they
came. They fit a text when each lies in the text and ends no later than the one taken before it starts.
The check passes the edits that fit, and of others it tells the first that does not.
-/

namespace ClassRename.Edit

variable {size : Nat} {edit : Edit} {edits before later ordered : List Edit} {previous : Option Edit}
  {error : EditError}

/-! ## The order in which edits are taken -/

/-- The same edits with the later starts first, where edits with one start keep their order. -/
structure LatestFirst (edits ordered : List Edit) : Prop where
  perm : ordered.Perm edits
  sorted : ordered.Pairwise fun a b => b.span.start ≤ a.span.start
  stable : ∀ start, ordered.filter (·.span.start == start) = edits.filter (·.span.start == start)

/-- The edits are taken in this order. -/
theorem latestFirst_ordered (edits : List Edit) : LatestFirst edits (latestFirst edits) := by
  have trans (a b c : Edit) : decide (b.span.start ≤ a.span.start) = true →
      decide (c.span.start ≤ b.span.start) = true → decide (c.span.start ≤ a.span.start) = true := by
    simp only [decide_eq_true_eq]
    omega
  have total (a b : Edit) :
      (decide (b.span.start ≤ a.span.start) || decide (a.span.start ≤ b.span.start)) = true := by
    simp only [Bool.or_eq_true, decide_eq_true_eq]
    omega
  refine ⟨List.mergeSort_perm edits _,
    (List.pairwise_mergeSort trans total edits).imp of_decide_eq_true, fun start => ?_⟩
  apply filter_mergeSort_eq trans total
  intro a b here here'
  rw [beq_iff_eq] at here here'
  exact decide_eq_true (Nat.le_of_eq (here'.trans here.symm))

/-! ## Edits that fit -/

/-- Each edit lies in a text of the size, and ends no later than the one before it in the list starts. -/
structure Fits (size : Nat) (ordered : List Edit) : Prop where
  inside : ∀ edit ∈ ordered, edit.span.start ≤ edit.span.stop ∧ edit.span.stop ≤ size
  clear : ordered.IsChain fun earlier edit => edit.Precedes earlier

/-- What is wrong with an edit after the previous one: it does not lie in the text, or else it reaches
into the previous one. -/
inductive Misfit (size : Nat) (previous : Option Edit) (edit : Edit) : EditError → Prop where
  | outOfBounds : ¬(edit.span.start ≤ edit.span.stop ∧ edit.span.stop ≤ size) →
    Misfit size previous edit (.outOfBounds edit.span size)
  | overlapping {earlier : Edit} : edit.span.start ≤ edit.span.stop ∧ edit.span.stop ≤ size →
    previous = some earlier → ¬edit.Precedes earlier →
    Misfit size previous edit (.overlapping edit.span.start)

/-- What is wrong with the first edit that does not fit. -/
def FirstMisfit (size : Nat) (ordered : List Edit) (error : EditError) : Prop :=
  ∃ before edit later, ordered = before ++ edit :: later ∧ Fits size before ∧
    Misfit size before.getLast? edit error

/-- An edit after those that fit is wrong, or fits too. -/
theorem Fits.concat (fits : Fits size before) (edit : Edit) :
    (∃ error, Misfit size before.getLast? edit error) ∨ Fits size (before ++ [edit]) := by
  by_cases within : edit.span.start ≤ edit.span.stop ∧ edit.span.stop ≤ size
  · by_cases clear : ∀ earlier ∈ before.getLast?, edit.Precedes earlier
    · refine .inr ⟨fun other isEdit => ?_, ?_⟩
      · rcases List.mem_append.1 isEdit with isBefore | isLast
        · exact fits.inside other isBefore
        · rwa [List.mem_singleton.1 isLast]
      · rw [List.isChain_append]
        refine ⟨fits.clear, List.isChain_singleton _, fun earlier isLast other isHead => ?_⟩
        obtain rfl : edit = other := by simpa using isHead
        exact clear earlier isLast
    · push Not at clear
      obtain ⟨earlier, isLast, touches⟩ := clear
      exact .inl ⟨_, .overlapping within isLast touches⟩
  · exact .inl ⟨_, .outOfBounds within⟩

/-- Edits fit, or there is a first that does not. -/
theorem fits_or_firstMisfit (size : Nat) (ordered : List Edit) :
    Fits size ordered ∨ ∃ error, FirstMisfit size ordered error := by
  induction ordered using List.reverseRecOn with
  | nil => exact .inl ⟨nofun, List.isChain_nil⟩
  | append_singleton before edit ih =>
    rcases ih with fits | ⟨error, front, first, later, rfl, fits, misfit⟩
    · rcases fits.concat edit with ⟨error, misfit⟩ | fits'
      · exact .inr ⟨error, before, edit, [], rfl, fits, misfit⟩
      · exact .inl fits'
    · exact .inr ⟨error, front, first, later ++ [edit], by simp, fits, misfit⟩

/-- Among edits that fit none is wrong. -/
theorem Fits.not_misfit (fits : Fits size (before ++ edit :: later)) :
    ¬Misfit size before.getLast? edit error := by
  intro misfit
  cases misfit with
  | outOfBounds outside =>
    exact outside (fits.inside edit (List.mem_append_right _ List.mem_cons_self))
  | overlapping _ isLast touches =>
    exact touches ((List.isChain_append.1 fits.clear).2.2 _ isLast edit rfl)

theorem Fits.front (fits : Fits size (before ++ later)) : Fits size before where
  inside edit isEdit := fits.inside edit (List.mem_append_left _ isEdit)
  clear := (List.isChain_append.1 fits.clear).1

/-- Each edit that fits ends before all those earlier in the list start. -/
theorem Fits.pairwise (fits : Fits size ordered) :
    ordered.Pairwise fun earlier edit => edit.Precedes earlier := by
  have chain : ordered.IsChain fun earlier edit =>
      edit.Precedes earlier ∧ edit.span.start ≤ edit.span.stop := by
    refine fits.clear.imp_of_mem_imp fun earlier edit _ isEdit clear => ⟨clear, ?_⟩
    exact (fits.inside edit isEdit).1
  have : IsTrans Edit fun earlier edit => edit.Precedes earlier ∧ edit.span.start ≤ edit.span.stop := by
    refine ⟨fun a b c first second => ?_⟩
    unfold Precedes at *
    omega
  exact chain.pairwise.imp And.left

/-! ## The check -/

/-- The check goes on after an edit that is not wrong. -/
theorem check_of_not_misfit (fits : ∀ error, ¬Misfit size previous edit error) (later : List Edit) :
    check size (previous.map (·.span.start)) (edit :: later) =
      check size (some edit.span.start) later := by
  have within : edit.span.start ≤ edit.span.stop ∧ edit.span.stop ≤ size :=
    not_not.1 fun outside => fits _ (.outOfBounds outside)
  rw [check, if_neg (by omega), if_neg]
  cases previous with
  | none => exact Bool.false_ne_true
  | some earlier =>
    have clear : edit.Precedes earlier := not_not.1 fun touches => fits _ (.overlapping within rfl touches)
    rw [Precedes] at clear
    simpa using clear

/-- The check tells of an edit that is wrong. -/
theorem check_of_misfit (misfit : Misfit size previous edit error) (later : List Edit) :
    check size (previous.map (·.span.start)) (edit :: later) = .error error := by
  cases misfit with
  | outOfBounds outside => rw [check, if_pos (by omega)]
  | overlapping within isPrevious touches =>
    subst isPrevious
    rw [Precedes] at touches
    rw [check, if_neg (by omega), if_pos (by simpa using touches)]

/-- The check passes over edits that fit. -/
theorem Fits.check_append (fits : Fits size before) (later : List Edit) :
    check size none (before ++ later) = check size (before.getLast?.map (·.span.start)) later := by
  induction before using List.reverseRecOn generalizing later with
  | nil => rfl
  | append_singleton before edit ih =>
    rw [List.append_assoc, List.singleton_append, ih fits.front,
      check_of_not_misfit (fun _ => fits.not_misfit), List.getLast?_concat]
    rfl

theorem Fits.check_eq_ok (fits : Fits size ordered) : check size none ordered = .ok () := by
  have passed := fits.check_append []
  rwa [List.append_nil, check] at passed

theorem FirstMisfit.check_eq_error (misfit : FirstMisfit size ordered error) :
    check size none ordered = .error error := by
  obtain ⟨before, edit, later, rfl, fits, misfit⟩ := misfit
  rw [fits.check_append, check_of_misfit misfit]

end ClassRename.Edit
