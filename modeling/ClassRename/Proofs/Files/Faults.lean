import ClassRename.Sources
import ClassRename.Proofs.Files.Places

/-! # Accesses that fail

On a disk an access may fail at any time and for causes that no path tells. A plan of such failures
stands for all that may happen: a program that is run on a file system with a plan meets each failure at
the access for which it is planned, and what fails leaves the files as they are.
-/

namespace ClassRename

open Text (Utf8.Bytes)

/-! ## Running a program -/

/-- What a program gives, and the state after it. -/
def execOn {σ ε α : Type} (state : σ) (program : ExceptT ε (StateM σ) α) : Except ε α × σ :=
  program state

section

variable {σ ε α β : Type} {state : σ}

/-- A program goes on where another ends, unless that fails. -/
theorem execOn_bind (program : ExceptT ε (StateM σ) α) (next : α → ExceptT ε (StateM σ) β) :
    execOn state (program >>= next) = match execOn state program with
      | (.ok a, after) => execOn after (next a)
      | (.error error, after) => (.error error, after) := by
  simp only [execOn, bind, ExceptT.bind, ExceptT.mk, StateT.bind]
  obtain ⟨result, after⟩ := program state
  cases result <;> rfl

theorem execOn_bind_of_error {program : ExceptT ε (StateM σ) α} {error : ε}
    (failed : (execOn state program).1 = .error error) (next : α → ExceptT ε (StateM σ) β) :
    execOn state (program >>= next) = (.error error, (execOn state program).2) := by
  rw [execOn_bind]
  cases ran : execOn state program with
  | mk result after =>
  rw [ran] at failed
  cases failed
  rfl

/-- A failure is caught where the program ends. -/
theorem execOn_tryCatch (program : ExceptT ε (StateM σ) α) (handler : ε → ExceptT ε (StateM σ) α) :
    execOn state (tryCatch program handler) = match execOn state program with
      | (.ok a, after) => (.ok a, after)
      | (.error error, after) => execOn after (handler error) := by
  simp only [execOn, tryCatch, tryCatchThe, MonadExceptOf.tryCatch, ExceptT.tryCatch, ExceptT.mk, bind,
    StateT.bind]
  obtain ⟨result, after⟩ := program state
  cases result <;> rfl

/-- What goes well goes well in both parts. -/
theorem execOn_bind_eq_ok {program : ExceptT ε (StateM σ) α} {next : α → ExceptT ε (StateM σ) β}
    {b : β} {after : σ} : execOn state (program >>= next) = (.ok b, after) ↔
      ∃ a between, execOn state program = (.ok a, between) ∧
        execOn between (next a) = (.ok b, after) := by
  rw [execOn_bind]
  cases ran : execOn state program with
  | mk result between => cases result <;> simp

/-- What fails fails in the first part, or in the second when the first goes well. -/
theorem execOn_bind_eq_error_iff {program : ExceptT ε (StateM σ) α}
    {next : α → ExceptT ε (StateM σ) β} {error : ε} :
    (execOn state (program >>= next)).1 = .error error ↔
      (execOn state program).1 = .error error ∨
      ∃ a between, execOn state program = (.ok a, between) ∧
        (execOn between (next a)).1 = .error error := by
  rw [execOn_bind]
  cases ran : execOn state program with
  | mk result between => cases result <;> simp

/-- A failure may be told in other words. -/
theorem execOn_adapt {ε' : Type} (tell : ε → ε') (program : ExceptT ε (StateM σ) α) :
    execOn state (ExceptT.adapt tell program) =
      ((execOn state program).1.mapError tell, (execOn state program).2) :=
  rfl

theorem mapError_eq_ok_iff {ε' : Type} {tell : ε → ε'} {result : Except ε α} {a : α} :
    result.mapError tell = .ok a ↔ result = .ok a := by
  cases result <;> simp [Except.mapError]

theorem bind_eq_ok_iff {first : Except ε α} {next : α → Except ε β} {b : β} :
    first >>= next = .ok b ↔ ∃ a, first = .ok a ∧ next a = .ok b := by
  cases first <;> simp [bind, Except.bind]

/-- What runs over a list pairs each member with what it gives. -/
theorem mapM_eq_ok_iff {f : α → Except ε β} {as : List α} {bs : List β} :
    as.mapM f = .ok bs ↔ ∃ pairs : List (α × β), pairs.map Prod.fst = as ∧ pairs.map Prod.snd = bs ∧
      ∀ pair ∈ pairs, f pair.1 = .ok pair.2 := by
  constructor
  · intro went
    induction as generalizing bs with
    | nil =>
      cases went
      exact ⟨[], rfl, rfl, List.forall_mem_nil _⟩
    | cons a as ih =>
      rw [List.mapM_cons] at went
      obtain ⟨b, first, went⟩ := bind_eq_ok_iff.1 went
      obtain ⟨bs', later, rest⟩ := bind_eq_ok_iff.1 went
      cases rest
      obtain ⟨pairs, rfl, rfl, each⟩ := ih later
      exact ⟨(a, b) :: pairs, rfl, rfl, List.forall_mem_cons.2 ⟨first, each⟩⟩
  · rintro ⟨pairs, rfl, rfl, each⟩
    induction pairs with
    | nil => rfl
    | cons pair pairs ih =>
      obtain ⟨first, later⟩ := List.forall_mem_cons.1 each
      rw [List.map_cons, List.mapM_cons]
      exact bind_eq_ok_iff.2 ⟨_, first, bind_eq_ok_iff.2 ⟨_, ih later, rfl⟩⟩

/-- It goes well on all of them when it does on each. -/
theorem exists_mapM_iff {f : α → Except ε β} {as : List α} :
    (∃ bs, as.mapM f = .ok bs) ↔ ∀ a ∈ as, ∃ b, f a = .ok b := by
  constructor
  · rintro ⟨bs, went⟩
    obtain ⟨pairs, rfl, rfl, each⟩ := mapM_eq_ok_iff.1 went
    exact List.forall_mem_map.2 fun pair member => ⟨pair.2, each pair member⟩
  · intro each
    induction as with
    | nil => exact ⟨[], rfl⟩
    | cons a as ih =>
      obtain ⟨⟨b, first⟩, rest⟩ := List.forall_mem_cons.1 each
      obtain ⟨bs, later⟩ := ih rest
      rw [List.mapM_cons]
      exact ⟨b :: bs, bind_eq_ok_iff.2 ⟨b, first, bind_eq_ok_iff.2 ⟨bs, later, rfl⟩⟩⟩

theorem execOn_adapt_eq_ok {ε' : Type} {tell : ε → ε'} {program : ExceptT ε (StateM σ) α} {a : α}
    {after : σ} : execOn state (ExceptT.adapt tell program) = (.ok a, after) ↔
      execOn state program = (.ok a, after) := by
  rw [execOn_adapt]
  cases ran : execOn state program with
  | mk result between => rw [Prod.mk.injEq, Prod.mk.injEq, mapError_eq_ok_iff]

theorem execOn_adapt_eq_error_iff {ε' : Type} {tell : ε → ε'} {program : ExceptT ε (StateM σ) α}
    {error : ε'} : (execOn state (ExceptT.adapt tell program)).1 = .error error ↔
      ∃ cause, (execOn state program).1 = .error cause ∧ tell cause = error := by
  rw [execOn_adapt]
  cases (execOn state program).1 <;> simp [Except.mapError]

/-- The failure of an operation is told with the path. -/
theorem execOn_trying [FileAccess (StateM σ)] (activity : FileActivity) (path : String)
    (run : ExceptT FileError (StateM σ) α) :
    execOn state (Sources.trying activity path run) =
      ((execOn state run).1.mapError fun cause => ⟨activity, path, cause⟩, (execOn state run).2) :=
  rfl

end

/-! ## Planned failures -/

/-- A file system on which accesses may fail. -/
structure FaultyFileSystem where
  files : FileSystem
  /-- For each access to come the cause by which it fails, if it does. Accesses after those planned do
  not fail by plan. -/
  plan : List (Option FileError)

namespace FaultyFileSystem

/-- An access that fails when it is planned to. -/
def faulty {α : Type} (access : ExceptT FileError (StateM FileSystem) α) :
    ExceptT FileError (StateM FaultyFileSystem) α := fun state =>
  match state.plan.head?.join with
  | some cause => (.error cause, { state with plan := state.plan.tail })
  | none =>
    let (result, files) := execOn state.files access
    (result, { files, plan := state.plan.tail })

instance : FileAccess (StateM FaultyFileSystem) where
  kindOf path := faulty (FileAccess.kindOf path)
  entriesOf path := faulty (FileAccess.entriesOf path)
  canonical path := faulty (FileAccess.canonical path)
  read path := faulty (FileAccess.read path)
  write path content := faulty (FileAccess.write path content)
  makeFolder path := faulty (FileAccess.makeFolder path)
  currentFolder := faulty FileAccess.currentFolder

variable {α : Type} {path : String} {content : Utf8.Bytes}

/-- An access fails by plan, or does what it does on the files. -/
theorem execOn_faulty (state : FaultyFileSystem) (access : ExceptT FileError (StateM FileSystem) α) :
    (∃ cause, some cause ∈ state.plan ∧
      execOn state (faulty access) = (.error cause, { state with plan := state.plan.tail })) ∨
    execOn state (faulty access) =
      ((execOn state.files access).1, ⟨(execOn state.files access).2, state.plan.tail⟩) := by
  obtain ⟨files, plan⟩ := state
  cases plan with
  | nil => exact .inr rfl
  | cons fault later =>
    cases fault with
    | none => exact .inr rfl
    | some cause => exact .inl ⟨cause, List.mem_cons_self, rfl⟩

/-- Reading leaves the files as they are. -/
theorem execOn_read (state : FaultyFileSystem) (path : String) :
    (∃ cause, (some cause ∈ state.plan ∨ state.files.read path = .error cause) ∧
      execOn state (FileAccess.read path) = (.error cause, { state with plan := state.plan.tail })) ∨
    ∃ content, state.files.read path = .ok content ∧
      execOn state (FileAccess.read path) = (.ok content, { state with plan := state.plan.tail }) := by
  rcases execOn_faulty state (FileAccess.read path) with ⟨cause, planned, failed⟩ | worked
  · exact .inl ⟨cause, .inl planned, failed⟩
  · have plain : execOn state.files (FileAccess.read path) = (state.files.read path, state.files) := rfl
    rw [plain] at worked
    cases content : state.files.read path with
    | error cause => exact .inl ⟨cause, .inr rfl, by rw [← content]; exact worked⟩
    | ok content' => exact .inr ⟨content', rfl, by rw [← content]; exact worked⟩

/-- A file that can be read is written, unless it is planned otherwise. -/
theorem execOn_write (state : FaultyFileSystem) (readable : state.files.read path = .ok content)
    (new : Utf8.Bytes) :
    (∃ cause, some cause ∈ state.plan ∧ execOn state (FileAccess.write path new) =
      (.error cause, { state with plan := state.plan.tail })) ∨
    ∃ location, state.files.find path = .ok location ∧
      state.files.node? location = some (.file content) ∧
      execOn state (FileAccess.write path new) =
        (.ok (), ⟨state.files.put location (.file new), state.plan.tail⟩) := by
  obtain ⟨location, found, held⟩ := FileSystem.read_eq_ok_iff.1 readable
  rcases execOn_faulty state (FileAccess.write path new) with failed | worked
  · exact .inl failed
  · refine .inr ⟨location, found, held, worked.trans ?_⟩
    have plain : execOn state.files (FileAccess.write path new) =
        (.ok (), state.files.put location (.file new)) := by
      have written := FileSystem.write_eq found held new
      simp only [execOn, FileAccess.write, FileSystem.changing, written]
    rw [plain]

end FaultyFileSystem

/-! ## Without planned failures -/

/-- With no failure planned the second program does what the first does. -/
def Mirrors {ε α : Type} (plain : ExceptT ε (StateM FileSystem) α)
    (faulty : ExceptT ε (StateM FaultyFileSystem) α) : Prop :=
  ∀ files, execOn ⟨files, []⟩ faulty = ((execOn files plain).1, ⟨(execOn files plain).2, []⟩)

namespace Mirrors

variable {ε α β : Type}

theorem pure (a : α) : Mirrors (Pure.pure a : ExceptT ε (StateM FileSystem) α) (Pure.pure a) :=
  fun _ => rfl

theorem bind {plain : ExceptT ε (StateM FileSystem) α} {faulty : ExceptT ε (StateM FaultyFileSystem) α}
    {next : α → ExceptT ε (StateM FileSystem) β} {next' : α → ExceptT ε (StateM FaultyFileSystem) β}
    (first : Mirrors plain faulty) (then_ : ∀ a, Mirrors (next a) (next' a)) :
    Mirrors (plain >>= next) (faulty >>= next') := by
  intro files
  rw [execOn_bind, execOn_bind, first files]
  cases execOn files plain with
  | mk result after =>
  cases result with
  | error error => rfl
  | ok a => exact then_ a after

theorem mapM {f : α → ExceptT ε (StateM FileSystem) β} {f' : α → ExceptT ε (StateM FaultyFileSystem) β}
    (each : ∀ a, Mirrors (f a) (f' a)) (as : List α) : Mirrors (as.mapM f) (as.mapM f') := by
  induction as with
  | nil => exact pure []
  | cons a as ih =>
    rw [List.mapM_cons, List.mapM_cons]
    exact bind (each a) fun b => bind ih fun bs => pure (b :: bs)

theorem trying {plain : ExceptT FileError (StateM FileSystem) α}
    {faulty : ExceptT FileError (StateM FaultyFileSystem) α} (mirrors : Mirrors plain faulty)
    (activity : FileActivity) (path : String) :
    Mirrors (Sources.trying activity path plain) (Sources.trying activity path faulty) := by
  intro files
  rw [execOn_trying, execOn_trying, mirrors files]

theorem faulty (access : ExceptT FileError (StateM FileSystem) α) :
    Mirrors access (FaultyFileSystem.faulty access) := fun _ => rfl

end Mirrors

end ClassRename
