import ClassRename.Proofs.Files.Faults
import Mathlib.Data.List.Basic

/-! # Collecting source files

To collect source files is to look at files and folders, which changes none of them. The files come in
the order of their paths.
-/

namespace ClassRename

/-! ## The order of paths -/

namespace PathStep

variable {a b c : PathStep}

@[simp] theorem before_name {first second : String} :
    (name first).before (name second) = true ↔ first < second :=
  decide_eq_true_iff

theorem before_irrefl (a : PathStep) : a.before a = false := by
  cases a with
  | name text => exact Bool.eq_false_iff.2 fun less => String.lt_irrefl text (before_name.1 less)
  | _ => rfl

theorem before_trans (first : a.before b = true) (second : b.before c = true) : a.before c = true := by
  cases a <;> cases b <;> cases c
  case name.name.name =>
    exact before_name.2 (String.lt_trans (before_name.1 first) (before_name.1 second))
  all_goals simp_all [before, rank]

theorem before_asymm (first : a.before b = true) : b.before a = false := by
  refine Bool.eq_false_iff.2 fun second => ?_
  have itself := before_trans first second
  rw [before_irrefl] at itself
  cases itself

theorem eq_of_not_before (first : a.before b = false) (second : b.before a = false) : a = b := by
  cases a <;> cases b
  case name.name one other =>
    have notLess := fun less => Bool.eq_false_iff.1 first (before_name.2 less)
    have notMore := fun more => Bool.eq_false_iff.1 second (before_name.2 more)
    rw [String.le_antisymm notMore notLess]
  all_goals simp_all [before, rank]

end PathStep

namespace Path

theorem stepsUpTo_total (as bs : List PathStep) :
    stepsUpTo as bs = true ∨ stepsUpTo bs as = true := by
  induction as generalizing bs with
  | nil => exact .inl rfl
  | cons a as ih =>
    cases bs with
    | nil => exact .inr rfl
    | cons b bs =>
      by_cases same : a = b
      · subst same
        simpa [stepsUpTo] using ih bs
      · simp only [stepsUpTo, same, Ne.symm same, if_false]
        by_contra neither
        simp only [not_or, Bool.not_eq_true] at neither
        exact same (PathStep.eq_of_not_before neither.1 neither.2)

theorem stepsUpTo_trans {as bs cs : List PathStep} (first : stepsUpTo as bs = true)
    (second : stepsUpTo bs cs = true) : stepsUpTo as cs = true := by
  induction as generalizing bs cs with
  | nil => rfl
  | cons a as ih =>
    cases bs with
    | nil => cases first
    | cons b bs =>
      cases cs with
      | nil => cases second
      | cons c cs =>
        by_cases same : a = b
        · subst same
          by_cases same' : a = c
          · subst same'
            simp only [stepsUpTo, if_true] at first second ⊢
            exact ih first second
          · simpa [stepsUpTo, same'] using second
        · simp only [stepsUpTo, same, if_false] at first
          by_cases same' : b = c
          · subst same'
            simpa [stepsUpTo, same] using first
          · simp only [stepsUpTo, same', if_false] at second
            have earlier := PathStep.before_trans first second
            have different : a ≠ c := by
              rintro rfl
              rw [PathStep.before_irrefl] at earlier
              cases earlier
            simpa [stepsUpTo, different] using earlier

theorem stepsUpTo_append_left (front as bs : List PathStep) :
    stepsUpTo (front ++ as) (front ++ bs) = stepsUpTo as bs := by
  induction front with
  | nil => rfl
  | cons step front ih => simpa [stepsUpTo] using ih

theorem stepsUpTo_antisymm {as bs : List PathStep} (first : stepsUpTo as bs = true)
    (second : stepsUpTo bs as = true) : as = bs := by
  induction as generalizing bs with
  | nil =>
    cases bs with
    | nil => rfl
    | cons => cases second
  | cons a as ih =>
    cases bs with
    | nil => cases first
    | cons b bs =>
      by_cases same : a = b
      · subst same
        simp only [stepsUpTo, if_true] at first second
        rw [ih first second]
      · simp only [stepsUpTo, same, Ne.symm same, if_false] at first second
        rw [PathStep.before_asymm first] at second
        cases second

/-- Sorted paths come in their order. -/
theorem pairwise_mergeSort_upTo (paths : List String) :
    (paths.mergeSort upTo).Pairwise fun a b => upTo a b = true := by
  refine List.pairwise_mergeSort (fun a b c => ?_) (fun a b => ?_) paths
  · exact stepsUpTo_trans
  · rw [Bool.or_eq_true]
    exact stepsUpTo_total (steps a) (steps b)

end Path

/-! ## Programs that keep what there is -/

/-- The program leaves as it is what `shown` tells of a state. -/
def Keeps {σ δ ε α : Type} (shown : σ → δ) (program : ExceptT ε (StateM σ) α) : Prop :=
  ∀ state, shown (execOn state program).2 = shown state

namespace Keeps

variable {σ δ ε ε' α β : Type} {shown : σ → δ}

theorem pure (a : α) : Keeps shown (Pure.pure a : ExceptT ε (StateM σ) α) := fun _ => rfl

theorem throw (error : ε) : Keeps shown (throw error : ExceptT ε (StateM σ) α) := fun _ => rfl

theorem bind {program : ExceptT ε (StateM σ) α} {next : α → ExceptT ε (StateM σ) β}
    (first : Keeps shown program) (then_ : ∀ a, Keeps shown (next a)) :
    Keeps shown (program >>= next) := by
  intro state
  have same := first state
  rw [execOn_bind]
  cases ran : execOn state program with
  | mk result after =>
  rw [ran] at same
  cases result with
  | error error => exact same
  | ok a => exact (then_ a after).trans same

theorem tryCatch {program : ExceptT ε (StateM σ) α} {handler : ε → ExceptT ε (StateM σ) α}
    (first : Keeps shown program) (then_ : ∀ error, Keeps shown (handler error)) :
    Keeps shown (tryCatch program handler) := by
  intro state
  have same := first state
  rw [execOn_tryCatch]
  cases ran : execOn state program with
  | mk result after =>
  rw [ran] at same
  cases result with
  | error error => exact (then_ error after).trans same
  | ok a => exact same

theorem adapt {tell : ε → ε'} {program : ExceptT ε (StateM σ) α} (keeps : Keeps shown program) :
    Keeps shown (ExceptT.adapt tell program) := fun state => keeps state

end Keeps

/-- The program changes nothing. -/
def LooksOnly {σ ε α : Type} (program : ExceptT ε (StateM σ) α) : Prop :=
  ∀ state, (execOn state program).2 = state

/-- What a program gives. -/
def answerOn {σ ε α : Type} (state : σ) (program : ExceptT ε (StateM σ) α) : Except ε α :=
  (execOn state program).1

namespace LooksOnly

variable {σ ε α β : Type}

theorem pure (a : α) : LooksOnly (Pure.pure a : ExceptT ε (StateM σ) α) := fun _ => rfl

theorem throw (error : ε) : LooksOnly (throw error : ExceptT ε (StateM σ) α) := fun _ => rfl

theorem bind {program : ExceptT ε (StateM σ) α} {next : α → ExceptT ε (StateM σ) β}
    (first : LooksOnly program) (then_ : ∀ a, LooksOnly (next a)) : LooksOnly (program >>= next) :=
  (Keeps.bind first then_ : Keeps id (program >>= next))

theorem mapM {f : α → ExceptT ε (StateM σ) β} (each : ∀ a, LooksOnly (f a)) (as : List α) :
    LooksOnly (as.mapM f) := by
  induction as with
  | nil => exact pure []
  | cons a as ih =>
    rw [List.mapM_cons]
    exact bind (each a) fun b => bind ih fun bs => pure (b :: bs)

/-- The state after is the state before. -/
theorem state_eq {program : ExceptT ε (StateM σ) α} {state after : σ} {result : Except ε α}
    (looks : LooksOnly program) (ran : execOn state program = (result, after)) : after = state := by
  rw [← looks state, ran]

theorem trying [FileAccess (StateM σ)] {activity : FileActivity} {path : String}
    {run : ExceptT FileError (StateM σ) α} (looks : LooksOnly run) :
    LooksOnly (Sources.trying activity path run) := fun state => looks state

/-- What a program that looks only gives goes into what follows, on the same state. -/
theorem answerOn_bind {program : ExceptT ε (StateM σ) α} (looks : LooksOnly program)
    (next : α → ExceptT ε (StateM σ) β) (state : σ) :
    answerOn state (program >>= next) = answerOn state program >>= fun a => answerOn state (next a) := by
  unfold answerOn
  rw [execOn_bind]
  cases ran : execOn state program with
  | mk result after =>
  obtain rfl := looks.state_eq ran
  cases result <;> rfl

theorem answerOn_mapM {f : α → ExceptT ε (StateM σ) β} (each : ∀ a, LooksOnly (f a)) (as : List α)
    (state : σ) : answerOn state (as.mapM f) = as.mapM fun a => answerOn state (f a) := by
  induction as with
  | nil => rfl
  | cons a as ih =>
    rw [List.mapM_cons, List.mapM_cons, answerOn_bind (each a)]
    congr 1
    funext b
    rw [answerOn_bind (.mapM each as), ih]
    rfl

end LooksOnly

namespace Sources

theorem looksOnly_followed (ancestors : List String) (path : String) (kind : FileKind) :
    LooksOnly (followed (m := StateM FileSystem) ancestors path kind) := by
  unfold followed
  split
  · refine .bind (.trying fun _ => rfl) fun kind => ?_
    dsimp only
    split
    · refine .bind (.trying fun _ => rfl) fun folder => ?_
      split
      · exact .bind (.throw _) fun _ => .pure kind
      · exact .pure kind
    · exact .pure kind
  · exact .pure _

theorem looksOnly_below (config : Config) (depth : Nat) (ancestors : List String) (folder : String) :
    LooksOnly (below (m := StateM FileSystem) config depth ancestors folder) := by
  induction depth generalizing ancestors folder with
  | zero => exact .throw _
  | succ depth ih =>
    refine .bind (.trying fun _ => rfl) fun entries => .bind (.trying fun _ => rfl) fun here => ?_
    refine .bind (.mapM (fun entry => ?_) entries) fun found => .pure _
    refine .bind (looksOnly_followed _ _ _) fun kind => ?_
    cases kind with
    | folder => exact ih _ _
    | _ => exact .pure _

/-- Collecting changes nothing. -/
theorem looksOnly_collect (config : Config) (root : String) :
    LooksOnly (collect (m := StateM FileSystem) config root) := by
  refine .bind (.trying fun _ => rfl) fun kind => ?_
  cases kind with
  | folder => exact .bind (looksOnly_below config _ _ _) fun found => .pure _
  | _ => exact .pure _

/-! ## What is collected -/

/-- What is collected of an entry. -/
def entryBelow (config : Config) (depth : Nat) (ancestors : List String) (path : String)
    (kind : FileKind) : ExceptT FileFailure (StateM FileSystem) (List String) := do
  match ← followed ancestors path kind with
  | .folder => below config depth ancestors path
  | .file => return if config.isEligible path then [path] else []
  | _ => return []

theorem looksOnly_entryBelow (config : Config) (depth : Nat) (ancestors : List String) (path : String)
    (kind : FileKind) : LooksOnly (entryBelow config depth ancestors path kind) := by
  refine .bind (looksOnly_followed _ _ _) fun kind => ?_
  cases kind with
  | folder => exact looksOnly_below _ _ _ _
  | _ => exact .pure _

/-- What is collected below a folder, entry by entry. -/
theorem answerOn_below (files : FileSystem) (config : Config) (depth : Nat) (ancestors : List String)
    (folder : String) :
    answerOn files (below config (depth + 1) ancestors folder) =
      ((files.entriesOf folder).mapError (⟨.list, folder, ·⟩) >>= fun entries =>
        (files.canonical folder).mapError (⟨.list, folder, ·⟩) >>= fun here =>
          entries.mapM (fun entry => answerOn files
            (entryBelow config depth (here :: ancestors) (Path.join folder entry.1) entry.2)) >>=
              fun found => .ok found.flatten) := by
  have listed : answerOn files (trying .list folder (FileAccess.entriesOf folder)) =
      (files.entriesOf folder).mapError (⟨.list, folder, ·⟩) := rfl
  have named : answerOn files (trying .list folder (FileAccess.canonical folder)) =
      (files.canonical folder).mapError (⟨.list, folder, ·⟩) := rfl
  rw [← listed, ← named, below, LooksOnly.answerOn_bind (.trying fun _ => rfl)]
  congr 1
  funext entries
  rw [LooksOnly.answerOn_bind (.trying fun _ => rfl)]
  congr 1
  funext here
  have each (entry : String × FileKind) : LooksOnly
      (entryBelow config depth (here :: ancestors) (Path.join folder entry.1) entry.2) :=
    looksOnly_entryBelow _ _ _ _ _
  rw [← LooksOnly.answerOn_mapM each]
  exact LooksOnly.answerOn_bind (.mapM each entries) (fun found => pure found.flatten) files

theorem answerOn_followed_link (files : FileSystem) (ancestors : List String) (path : String) :
    answerOn files (followed ancestors path .link) =
      ((files.kindOf path).mapError (⟨.list, path, ·⟩) >>= fun kind =>
        if kind = .folder then
          (files.canonical path).mapError (⟨.list, path, ·⟩) >>= fun folder =>
            if ancestors.contains folder then .error ⟨.list, path, .folderLoop⟩ else .ok kind
        else .ok kind) := by
  have looked : answerOn files (trying .list path (FileAccess.kindOf path)) =
      (files.kindOf path).mapError (⟨.list, path, ·⟩) := rfl
  have named : answerOn files (trying .list path (FileAccess.canonical path)) =
      (files.canonical path).mapError (⟨.list, path, ·⟩) := rfl
  rw [← looked, ← named, followed, LooksOnly.answerOn_bind (.trying fun _ => rfl)]
  congr 1
  funext kind
  split
  · rw [LooksOnly.answerOn_bind (.trying fun _ => rfl)]
    congr 1
    funext folder
    split <;> rfl
  · rfl

theorem answerOn_entryBelow (files : FileSystem) (config : Config) (depth : Nat)
    (ancestors : List String) (path : String) (kind : FileKind) :
    answerOn files (entryBelow config depth ancestors path kind) =
      answerOn files (followed ancestors path kind) >>= fun
        | .folder => answerOn files (below config depth ancestors path)
        | .file => .ok (if config.isEligible path then [path] else [])
        | _ => .ok [] := by
  rw [entryBelow, LooksOnly.answerOn_bind (looksOnly_followed _ _ _)]
  congr 1
  funext kind
  cases kind <;> rfl

/-- The files of a folder are those found below it, sorted. -/
theorem answerOn_collect_folder {config : Config} {root : String} {files : FileSystem}
    (folder : files.kindOf root = .ok .folder) :
    answerOn files (collect config root) =
      answerOn files (below config depthLimit [] root) >>= fun found => .ok (found.mergeSort Path.upTo) := by
  have looked : answerOn files (trying .look root (FileAccess.kindOf root)) =
      (files.kindOf root).mapError (⟨.look, root, ·⟩) := rfl
  rw [collect, LooksOnly.answerOn_bind (.trying fun _ => rfl), looked, folder]
  exact LooksOnly.answerOn_bind (looksOnly_below _ _ _ _) (fun found => pure (found.mergeSort Path.upTo)) files

/-- A file stands for itself, if it may be changed. -/
theorem answerOn_collect_file {config : Config} {root : String} {files : FileSystem}
    (file : files.kindOf root = .ok .file) :
    answerOn files (collect config root) = .ok (if config.isEligible root then [root] else []) := by
  have looked : answerOn files (trying .look root (FileAccess.kindOf root)) =
      (files.kindOf root).mapError (⟨.look, root, ·⟩) := rfl
  rw [collect, LooksOnly.answerOn_bind (.trying fun _ => rfl), looked, file]
  rfl

theorem collect_folder {config : Config} {root : String} {files : FileSystem} {found : List String}
    (folder : files.kindOf root = .ok .folder)
    (below : (execOn files (below config depthLimit [] root)).1 = .ok found) :
    (execOn files (collect config root)).1 = .ok (found.mergeSort Path.upTo) := by
  have found' : answerOn files (Sources.below config depthLimit [] root) = .ok found := below
  exact (answerOn_collect_folder folder).trans (by rw [found']; rfl)

/-- The files come in the order of their paths. -/
theorem pairwise_of_collect {config : Config} {root : String} {files : FileSystem}
    {paths : List String} (collected : (execOn files (collect config root)).1 = .ok paths) :
    paths.Pairwise fun a b => Path.upTo a b = true := by
  have single (eligible : Bool) :
      (if eligible then [root] else []).Pairwise fun a b => Path.upTo a b = true := by
    cases eligible <;> simp
  unfold collect at collected
  rw [execOn_bind] at collected
  split at collected
  · next kind after _ =>
    cases kind with
    | folder =>
      rw [execOn_bind] at collected
      split at collected
      · cases collected
        exact Path.pairwise_mergeSort_upTo _
      · cases collected
    | _ =>
      cases collected
      exact single _
  · cases collected

end Sources

end ClassRename
