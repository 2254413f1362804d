import ClassRename.Proofs.Files.Ways

/-! # Ways that stay outside

Two file systems may differ in what lies beneath folders of one name. A path whose way neither leads to
such a folder nor through one leads to the same place in both, and there lies the same.
-/

namespace ClassRename.FileSystem

variable {files files' : FileSystem} {name root folder path entry target : String}
  {top place location : Location}

/-! ## Places -/

/-- At or beneath a folder of the name under the top. -/
def Within (name : String) (top location : Location) : Prop :=
  ∃ inner outer, location = inner ++ name :: (outer ++ top)

/-- Beneath a folder of the name under the top. -/
def Beneath (name : String) (top : Location) : Location → Prop
  | [] => False
  | _ :: folder => Within name top folder

/-- The file systems differ beneath folders of the name alone: elsewhere they hold the same, and list the
same in the same order. -/
structure DifferBeneath (name : String) (top : Location) (files files' : FileSystem) : Prop where
  current : files.current = files'.current
  elsewhere : ∀ location, ¬Beneath name top location → files.node? location = files'.node? location
  listed : ∀ folder, ¬Within name top folder → files.namesIn folder = files'.namesIn folder

/-- What is entered below a folder of the name is within it. -/
theorem Within.cons (within : Within name top location) (entry : String) :
    Within name top (entry :: location) := by
  obtain ⟨inner, outer, rfl⟩ := within
  exact ⟨entry :: inner, outer, rfl⟩

/-- From outside, a folder of the name is entered by its name. -/
theorem Within.eq_name (within : Within name top (entry :: location))
    (outside : ¬Within name top location) : entry = name := by
  obtain ⟨inner, outer, split⟩ := within
  cases inner with
  | nil => exact (List.cons.inj split).1
  | cons head inner => exact absurd ⟨inner, outer, (List.cons.inj split).2⟩ outside

theorem not_within_top : ¬Within name top top := by
  rintro ⟨inner, outer, split⟩
  have lengths := congrArg List.length split
  simp only [List.length_append, List.length_cons] at lengths
  omega

/-- Outside of the folders all is the same, and so is what is entered from there. -/
theorem DifferBeneath.sameAt (differ : DifferBeneath name top files files')
    (outside : ¬Within name top place) : SameAt files files' place where
  here := by
    refine differ.elsewhere place ?_
    cases place with
    | nil => exact id
    | cons head rest => exact fun beneath => outside (Within.cons beneath head)
  inside _ := differ.elsewhere _ outside
  listed := differ.listed place outside

/-- The file system with further entries, which count first. -/
def adding (files : FileSystem) (added : List (Location × FileNode)) : FileSystem :=
  { files with nodes := added ++ files.nodes }

/-- What is added beneath folders of the name makes no difference elsewhere. -/
theorem differBeneath_adding {added : List (Location × FileNode)}
    (beneath : ∀ entry ∈ added, Beneath name top entry.1) :
    DifferBeneath name top files (adding files added) where
  current := rfl
  elsewhere location outside := by
    have absent : added.lookup location = none := by
      refine List.lookup_eq_none_iff.2 fun entry member => ?_
      rw [bne_iff_ne]
      rintro rfl
      exact outside (beneath entry member)
    rw [node?, node?, adding, List.lookup_append, absent, Option.none_or]
  listed folder outside := by
    have absent : (added.filterMap fun entry => nameIn? folder entry.1) = [] := by
      refine List.filterMap_eq_nil_iff.2 fun entry member => ?_
      have inside := beneath entry member
      cases isPlace : entry.1 with
      | nil => rfl
      | cons last parent =>
        rw [isPlace] at inside
        rw [nameIn?, if_neg]
        rintro ⟨rfl, -⟩
        exact outside inside
    rw [namesIn, namesIn, adding, List.filterMap_append, absent, List.nil_append]

/-- The folders that a collection comes to, those within folders of the name left out. -/
inductive Met (files : FileSystem) (name : String) (top : Location) : Location → Prop
  | top : Met files name top top
  | enter {folder : Location} {entry : String} : Met files name top folder →
    files.node? (entry :: folder) = some .folder → ¬Within name top (entry :: folder) →
    Met files name top (entry :: folder)
  | follow {folder place : Location} {entry target : String} : Met files name top folder →
    files.node? (entry :: folder) = some (.link target) →
    files.Leads (linkStand folder target) (place, []) → files.node? place = some .folder →
    Met files name top place

/-- Neither the way of the root nor that of a link which the collection meets leads to or through a
folder of the name. -/
structure StaysOutside (files : FileSystem) (name : String) (top : Location) (root : String) :
    Prop where
  root : ∀ place rest, files.Leads (files.startOf root) (place, rest) → ¬Within name top place
  links : ∀ folder entry target, Met files name top folder →
    files.node? (entry :: folder) = some (.link target) →
    ∀ place rest, files.Leads (linkStand folder target) (place, rest) → ¬Within name top place

/-- The way of a path stays outside and comes to a folder of the collection, if to any. -/
structure Tracked (files : FileSystem) (name : String) (top : Location) (path : String) : Prop where
  outside : ∀ place rest, files.Leads (files.startOf path) (place, rest) → ¬Within name top place
  met : ∀ place, files.Leads (files.startOf path) (place, []) → files.node? place = some .folder →
    Met files name top place

theorem StaysOutside.tracked_root (stays : StaysOutside files name top root)
    (found : files.find root = .ok top) : Tracked files name top root where
  outside := stays.root
  met place leads _ := by
    rw [← (leads_of_find found).eq_of_ends leads]
    exact .top

/-- The way of a tracked path ends outside. -/
theorem Tracked.not_within (tracked : Tracked files name top path)
    (found : files.find path = .ok place) : ¬Within name top place :=
  tracked.outside place [] (leads_of_find found)

/-- What is entered from a tracked folder is tracked, unless it is a folder of the name. -/
theorem Tracked.enter (tracked : Tracked files name top folder)
    (found : files.find folder = .ok place) (isFolder : files.node? place = some .folder)
    (isName : isFileName entry = true) (held : files.node? (entry :: place) = some .folder)
    (outside : ¬Within name top (entry :: place)) :
    Tracked files name top (Path.join folder entry) where
  outside spot rest leads := by
    rcases leads_join_of_node found isName held nofun leads with ⟨-, left, leads⟩ | same
    · exact tracked.outside spot left leads
    · cases same
      exact outside
  met spot leads _ := by
    rcases leads_join_of_node found isName held nofun leads with ⟨more, -⟩ | same
    · exact absurd rfl more
    · cases same
      exact .enter (tracked.met place (leads_of_find found) isFolder) held outside

/-- What a link in a tracked folder leads to is tracked. -/
theorem Tracked.follow (tracked : Tracked files name top folder)
    (stays : StaysOutside files name top root) (found : files.find folder = .ok place)
    (isFolder : files.node? place = some .folder) (isName : isFileName entry = true)
    (linked : files.node? (entry :: place) = some (.link target)) :
    Tracked files name top (Path.join folder entry) where
  outside spot rest leads := by
    rcases leads_join_of_link found isName linked leads with ⟨-, left, leads⟩ | leads
    · exact tracked.outside spot left leads
    · have met := tracked.met place (leads_of_find found) isFolder
      exact stays.links place entry target met linked spot rest leads
  met spot leads isFolder' := by
    rcases leads_join_of_link found isName linked leads with ⟨more, -⟩ | leads
    · exact absurd rfl more
    · exact .follow (tracked.met place (leads_of_find found) isFolder) linked leads isFolder'

/-- The path of a tracked folder leads to the same place in both. -/
theorem Tracked.find_eq (tracked : Tracked files name top path)
    (differ : DifferBeneath name top files files') : files.find path = files'.find path :=
  SameAlong.find_eq differ.current fun place rest leads _ =>
    differ.sameAt (tracked.outside place rest leads)

theorem Tracked.canonical_eq (tracked : Tracked files name top path)
    (differ : DifferBeneath name top files files') : files.canonical path = files'.canonical path := by
  rw [canonical, canonical, tracked.find_eq differ]

/-- A tracked path leads to the same kind of thing in both. -/
theorem Tracked.kindOf_eq (tracked : Tracked files name top path)
    (differ : DifferBeneath name top files files') : files.kindOf path = files'.kindOf path := by
  rw [kindOf, kindOf, ← tracked.find_eq differ]
  cases found : files.find path with
  | error cause => rfl
  | ok place =>
    have same := (differ.sameAt (tracked.not_within found)).here
    simp only [bind, Except.bind, same]

/-- The same is listed of a tracked folder in both. -/
theorem Tracked.entriesOf_eq (tracked : Tracked files name top path)
    (differ : DifferBeneath name top files files') : files.entriesOf path = files'.entriesOf path := by
  have same := tracked.find_eq differ
  cases found : files.find path with
  | error cause =>
    rw [entriesOf, entriesOf, ← same, found]
    rfl
  | ok place =>
    exact (differ.sameAt (tracked.not_within found)).entriesOf_eq found (same ▸ found)

/-- A folder of the name is found in both where it is found in one. -/
theorem Tracked.find_join_eq (tracked : Tracked files name top folder)
    (differ : DifferBeneath name top files files') (found : files.find folder = .ok place)
    (isName : isFileName entry = true) (held : files.node? (entry :: place) = some .folder) :
    files.find (Path.join folder entry) = files'.find (Path.join folder entry) := by
  refine SameAlong.find_eq differ.current fun spot rest leads more => differ.sameAt ?_
  rcases leads_join_of_node found isName held nofun leads with ⟨-, left, leads⟩ | same
  · exact tracked.outside spot left leads
  · cases same
    exact absurd rfl more

end ClassRename.FileSystem
