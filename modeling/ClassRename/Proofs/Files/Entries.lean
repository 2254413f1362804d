import ClassRename.Proofs.Files.Ways

/-! # Paths to entries

What a way comes to is settled by its end, whatever the segments before that: a segment that is empty or a
dot can be left out of it, and a name after a path to a folder leads to what the folder holds.
-/

namespace ClassRename.FileSystem

variable {files : FileSystem} {here place spot : Location} {segment : List Char}
  {front segments more more' : List (List Char)} {path folder entry : String} {node : FileNode}
  {links : Nat} {kind : FileKind}

/-! ## Ends of ways -/

/-- A way over a front comes to a stand behind it, and from there whatever follows the front goes on. -/
theorem Comes.split (comes : files.Comes links (here, front ++ more) (.found place)) :
    ∃ rest mid, files.Comes rest (mid, more) (.found place) ∧
      ∀ {more' spot}, files.Comes rest (mid, more') (.found spot) →
        files.Comes links (here, front ++ more') (.found spot) := by
  generalize stands : (here, front ++ more) = stand at comes
  generalize ends : PathEnd.found place = ending at comes
  induction comes generalizing here front with
  | @found links =>
    obtain ⟨rfl, empty⟩ := Prod.mk.inj stands
    obtain ⟨rfl, rfl⟩ := List.append_eq_nil_iff.1 empty
    cases ends
    exact ⟨links, _, .found, fun comes => comes⟩
  | vacant => cases ends
  | @stay links _ _ _ _ isFolder stays comes ih =>
    subst ends
    rcases front with _ | ⟨head, front⟩
    · cases stands
      exact ⟨links, _, .stay isFolder stays comes, fun comes => comes⟩
    · cases stands
      obtain ⟨rest, mid, later, onward⟩ := ih rfl rfl
      exact ⟨rest, mid, later, fun comes => .stay isFolder stays (onward comes)⟩
  | @up links _ _ _ isFolder comes ih =>
    subst ends
    rcases front with _ | ⟨head, front⟩
    · cases stands
      exact ⟨links, _, .up isFolder comes, fun comes => comes⟩
    · cases stands
      obtain ⟨rest, mid, later, onward⟩ := ih rfl rfl
      exact ⟨rest, mid, later, fun comes => .up isFolder (onward comes)⟩
  | @enter links _ _ _ _ _ isFolder names held noLink comes ih =>
    subst ends
    rcases front with _ | ⟨head, front⟩
    · cases stands
      exact ⟨links, _, .enter isFolder names held noLink comes, fun comes => comes⟩
    · cases stands
      obtain ⟨rest, mid, later, onward⟩ := ih rfl rfl
      exact ⟨rest, mid, later, fun comes => .enter isFolder names held noLink (onward comes)⟩
  | @follow links stop _ _ target _ isFolder names held comes ih =>
    subst ends
    rcases front with _ | ⟨head, front⟩
    · cases stands
      exact ⟨links + 1, _, .follow isFolder names held comes, fun comes => comes⟩
    · cases stands
      -- What the link stands for comes before what is left of the front.
      have joined := List.append_assoc (linkStand stop target).2 front more
      obtain ⟨rest, mid, later, onward⟩ := ih (congrArg (Prod.mk (linkStand stop target).1) joined) rfl
      refine ⟨rest, mid, later, fun comes => .follow isFolder names held ?_⟩
      have whole := onward comes
      rwa [List.append_assoc] at whole

/-- A way begins in a folder, unless it has ended. -/
theorem Comes.isFolder (comes : files.Comes links (here, more) (.found place))
    (ended : more = [] → files.node? place = some .folder) : files.node? here = some .folder := by
  cases comes with
  | found => exact ended rfl
  | stay isFolder => exact isFolder
  | up isFolder => exact isFolder
  | enter isFolder => exact isFolder
  | follow isFolder => exact isFolder

/-- The way of the front of a longer one comes to a folder. -/
theorem Comes.exists_front (comes : files.Comes links (here, front ++ more) (.found place)) (onward : more ≠ []) :
    ∃ mid, files.Comes links (here, front) (.found mid) ∧ files.node? mid = some .folder := by
  obtain ⟨rest, mid, later, joins⟩ := comes.split
  have whole := joins .found
  rw [List.append_nil] at whole
  exact ⟨mid, whole, later.isFolder fun ended => absurd ended onward⟩

/-- A segment that does not move makes no difference where a folder is. -/
theorem comes_stay_iff (stays : ¬Path.Moves segment)
    (ended : more = [] → files.node? place = some .folder) :
    files.Comes links (here, front ++ segment :: more) (.found place) ↔
      files.Comes links (here, front ++ more) (.found place) := by
  have stays := not_not.1 stays
  constructor
  · intro comes
    obtain ⟨rest, mid, later, joins⟩ := comes.split
    refine joins ?_
    cases later with
    | stay _ _ later => exact later
    | up => simp at stays
    | enter _ names => exact absurd stays names.moves
    | follow _ names => exact absurd stays names.moves
  · intro comes
    obtain ⟨rest, mid, later, joins⟩ := comes.split
    exact joins (.stay (later.isFolder ended) stays later)

/-- Segments that do not move make no difference where folders are. -/
theorem comes_filter_iff (ended : more = [] → files.node? place = some .folder) :
    files.Comes links (here, segments ++ more) (.found place) ↔
      files.Comes links (here, segments.filter Path.Moves ++ more) (.found place) := by
  -- Those that move are left in front, so the front grows with them.
  have behind (front : List (List Char)) :
      files.Comes links (here, front ++ (segments ++ more)) (.found place) ↔
        files.Comes links (here, front ++ (segments.filter Path.Moves ++ more)) (.found place) := by
    induction segments generalizing front with
    | nil => rfl
    | cons segment segments ih =>
      by_cases moves : Path.Moves segment
      · rw [List.filter_cons_of_pos (by simpa using moves), List.cons_append, List.cons_append,
          List.append_cons, ih, ← List.append_cons]
      · rw [List.filter_cons_of_neg (by simpa using moves), List.cons_append, comes_stay_iff moves, ih]
        intro empty
        exact ended (List.append_eq_nil_iff.1 empty).2
  exact behind []

/-! ## Paths to entries -/

theorem find_iff_comes : files.find path = .ok place ↔
    ('\x00' ∉ path.toList ∧ path ≠ "") ∧ files.Comes linkLimit (files.startOf path) (.found place) := by
  rw [find_eq_ok_iff, locate_eq_ok_iff, ← and_assoc]
  simp

theorem kindOf_eq_ok_iff : files.kindOf path = .ok kind ↔
    ∃ place node, files.find path = .ok place ∧ files.node? place = some node ∧ node.kind = kind := by
  unfold kindOf
  cases files.find path with
  | error error => simp [bind, Except.bind]
  | ok place =>
    cases held : files.node? place with
    | none => simp [bind, Except.bind, throw, throwThe, MonadExceptOf.throw, held]
    | some node => simp [bind, Except.bind, pure, Except.pure, held]

/-- A path to what a folder holds under a name, other than a link. -/
theorem find_join (found : files.find folder = .ok place) (isFolder : files.node? place = some .folder)
    (isName : isFileName entry = true) (held : files.node? (entry :: place) = some node)
    (noLink : node.kind ≠ .link) : files.find (Path.join folder entry) = .ok (entry :: place) := by
  obtain ⟨⟨noNul, filled⟩, comes⟩ := find_iff_comes.1 found
  obtain ⟨before, joined, segments⟩ := Path.exists_segments_join filled isName
  have noNul' : '\x00' ∉ (Path.join folder entry).toList := by
    intro member
    rcases Path.mem_join filled isName member with slash | inFolder | inName
    · cases slash
    · exact noNul inFolder
    · obtain ⟨-, -, -, -, plain⟩ := isFileName_iff.1 isName
      exact (plain _ inName).2 rfl
  refine find_iff_comes.2 ⟨⟨noNul', Path.join_ne_empty filled isName⟩, ?_⟩
  have comes' : files.Comes linkLimit ((files.startOf folder).1, before ++ []) (.found place) := by
    rw [startOf] at comes
    rcases segments with same | slashed
    · rw [same] at comes
      rwa [List.append_nil]
    · rw [slashed] at comes
      exact (comes_stay_iff (by decide) fun _ => isFolder).1 comes
  rw [startOf, Path.isAbsolute_join filled isName, joined]
  obtain ⟨rest, mid, later, joins⟩ := comes'.split
  refine joins ?_
  cases later
  have back : String.ofList entry.toList = entry := String.ofList_toList
  have names := namesEntry_toList isName
  generalize entry.toList = segment at back names ⊢
  subst back
  exact .enter isFolder names held noLink .found

/-- What a path to an entry leads to is held by the folder under the name. -/
theorem exists_node_of_find_join (found : files.find folder = .ok place)
    (isName : isFileName entry = true) (found' : files.find (Path.join folder entry) = .ok spot) :
    ∃ node, files.node? (entry :: place) = some node := by
  rcases leads_join found isName (leads_of_find found') with ⟨more, -⟩ | leads
  · exact absurd rfl more
  · rcases leads_entry isName leads with same | ⟨node, held, -⟩ | ⟨target, linked, -⟩
    · cases same
    · exact ⟨node, held⟩
    · exact ⟨.link target, linked⟩

/-- What a folder holds under a name is listed. -/
theorem mem_entriesOf {entries : List (String × FileKind)} (found : files.find path = .ok place)
    (listed : files.entriesOf path = .ok entries) (isName : isFileName entry = true)
    (held : files.node? (entry :: place) = some node) : (entry, node.kind) ∈ entries := by
  rw [entriesOf, found] at listed
  simp only [bind, Except.bind] at listed
  split at listed
  · cases listed
  obtain rfl := Except.ok.inj listed
  exact List.mem_filterMap.2
    ⟨entry, mem_namesIn_iff.2 ⟨isName, Option.isSome_of_eq_some held⟩, by rw [held]; rfl⟩

/-- No name is listed twice. -/
theorem pairwise_entriesOf {entries : List (String × FileKind)}
    (listed : files.entriesOf path = .ok entries) : entries.Pairwise fun a b => a.1 ≠ b.1 := by
  rw [entriesOf] at listed
  cases found : files.find path with
  | error error =>
    rw [found] at listed
    cases listed
  | ok place =>
    rw [found] at listed
    simp only [bind, Except.bind] at listed
    split at listed
    · cases listed
    obtain rfl := Except.ok.inj listed
    refine List.Pairwise.filterMap _ (fun name name' distinct entry made entry' made' => ?_)
      (files.nodup_namesIn place)
    obtain ⟨_, -, rfl⟩ := Option.map_eq_some_iff.1 made
    obtain ⟨_, -, rfl⟩ := Option.map_eq_some_iff.1 made'
    exact distinct

end ClassRename.FileSystem
