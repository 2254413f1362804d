import ClassRename.Proofs.Files.Places
import ClassRename.Proofs.Path
import Mathlib.Data.List.Nodup
import Mathlib.Logic.Relation

/-! # The ways of paths

A path is followed from place to place: along names, links, and dots. Where a way stands and what is left
of it settle how it goes on, so a path to an entry goes the way of its folder first. Two file systems that
hold the same wherever a way looks give it the same end.
-/

namespace ClassRename.FileSystem

/-- Where a way stands, and the segments that are left. -/
abbrev Stand := Location × List (List Char)

/-- The segment is that of an entry, and not too long. -/
structure NamesEntry (segment : List Char) : Prop where
  moves : ¬(segment = [] ∨ segment = ['.'])
  notUp : segment ≠ ['.', '.']
  short : ¬255 < (String.ofList segment).utf8ByteSize

/-- Where the target of a link in a folder is followed from. -/
def linkStand (folder : Location) (target : String) : Stand :=
  (if Path.isAbsolute target then [] else folder, Path.segments target.toList)

/-- One step of a way. -/
inductive Onward (files : FileSystem) : Stand → Stand → Prop
  | stay {here : Location} {segment : List Char} {rest : List (List Char)} :
    files.node? here = some .folder → segment = [] ∨ segment = ['.'] →
    Onward files (here, segment :: rest) (here, rest)
  | up {here : Location} {rest : List (List Char)} :
    files.node? here = some .folder → Onward files (here, ['.', '.'] :: rest) (here.tail, rest)
  | enter {here : Location} {segment : List Char} {rest : List (List Char)} {node : FileNode} :
    files.node? here = some .folder → NamesEntry segment →
    files.node? (String.ofList segment :: here) = some node → node.kind ≠ .link →
    Onward files (here, segment :: rest) (String.ofList segment :: here, rest)
  | follow {here : Location} {segment : List Char} {rest : List (List Char)} {target : String} :
    files.node? here = some .folder → NamesEntry segment →
    files.node? (String.ofList segment :: here) = some (.link target) →
    Onward files (here, segment :: rest)
      ((linkStand here target).1, (linkStand here target).2 ++ rest)

/-- A way goes from one stand to another. -/
abbrev Leads (files : FileSystem) : Stand → Stand → Prop := Relation.ReflTransGen files.Onward

/-- Where the way of a path begins. -/
def startOf (files : FileSystem) (path : String) : Stand :=
  (if Path.isAbsolute path then [] else files.current, Path.segments path.toList)

variable {files files' : FileSystem} {here place spot : Location} {stand stand' : Stand}
  {segment : List Char} {segments rest more : List (List Char)} {path folder entry target : String}
  {node : FileNode} {links : Nat}

/-! ## Ends -/

/-- A way comes to an end over at most so many links. -/
inductive Comes (files : FileSystem) : Nat → Stand → PathEnd → Prop
  | found {links : Nat} {here : Location} : Comes files links (here, []) (.found here)
  | vacant {links : Nat} {here : Location} {segment : List Char} {rest : List (List Char)} :
    files.node? here = some .folder → NamesEntry segment →
    files.node? (String.ofList segment :: here) = none → rest.all (·.isEmpty) = true →
    Comes files links (here, segment :: rest) (.vacant here (String.ofList segment) (!rest.isEmpty))
  | stay {links : Nat} {here : Location} {segment : List Char} {rest : List (List Char)}
      {ending : PathEnd} :
    files.node? here = some .folder → segment = [] ∨ segment = ['.'] →
    Comes files links (here, rest) ending → Comes files links (here, segment :: rest) ending
  | up {links : Nat} {here : Location} {rest : List (List Char)} {ending : PathEnd} :
    files.node? here = some .folder → Comes files links (here.tail, rest) ending →
    Comes files links (here, ['.', '.'] :: rest) ending
  | enter {links : Nat} {here : Location} {segment : List Char} {rest : List (List Char)}
      {node : FileNode} {ending : PathEnd} :
    files.node? here = some .folder → NamesEntry segment →
    files.node? (String.ofList segment :: here) = some node → node.kind ≠ .link →
    Comes files links (String.ofList segment :: here, rest) ending →
    Comes files links (here, segment :: rest) ending
  | follow {links : Nat} {here : Location} {segment : List Char} {rest : List (List Char)}
      {target : String} {ending : PathEnd} :
    files.node? here = some .folder → NamesEntry segment →
    files.node? (String.ofList segment :: here) = some (.link target) →
    Comes files links ((linkStand here target).1, (linkStand here target).2 ++ rest) ending →
    Comes files (links + 1) (here, segment :: rest) ending

/-- What is no link is entered by its name. -/
theorem kind_ne_link (noLink : ∀ target, node = .link target → False) : node.kind ≠ .link := by
  cases node with
  | link target => exact (noLink target rfl).elim
  | _ => nofun

/-- A way ends where its steps lead. -/
theorem comes_of_walk {follow : Location → List (List Char) → Except FileError PathEnd}
    {ending : PathEnd}
    (onward : ∀ {here segment rest target}, files.node? here = some .folder → NamesEntry segment →
      files.node? (String.ofList segment :: here) = some (.link target) →
      follow (linkStand here target).1 ((linkStand here target).2 ++ rest) = .ok ending →
      files.Comes links (here, segment :: rest) ending)
    (ends : files.walk true follow here segments = .ok ending) :
    files.Comes links (here, segments) ending := by
  induction segments generalizing here with
  | nil =>
    obtain rfl := Except.ok.inj ends
    exact .found
  | cons segment rest ih =>
    by_cases isFolder : files.node? here = some .folder
    · by_cases stays : segment = [] ∨ segment = ['.']
      · rw [walk_stay isFolder stays] at ends
        exact .stay isFolder stays (ih ends)
      by_cases up : segment = ['.', '.']
      · subst up
        rw [walk_up isFolder] at ends
        exact .up isFolder (ih ends)
      rw [walk_name isFolder stays up] at ends
      split at ends
      · cases ends
      next short =>
      split at ends
      · next target held =>
        simp only [Bool.not_true, Bool.false_eq_true, and_false, if_false] at ends
        exact onward isFolder ⟨stays, up, short⟩ held ends
      · next node noLink held =>
        exact .enter isFolder ⟨stays, up, short⟩ held (kind_ne_link noLink) (ih ends)
      · next free =>
        split at ends
        · next ended =>
          obtain rfl := Except.ok.inj ends
          exact .vacant isFolder ⟨stays, up, short⟩ free ended
        · cases ends
    · rw [walk_eq_error isFolder] at ends
      cases ends

theorem resolve_eq_walk (files : FileSystem) (links : Nat) :
    files.resolve true links = files.walk true (match links with
      | 0 => fun _ _ => .error .tooManyLinks
      | links + 1 => files.resolve true links) := by
  cases links <;> rfl

/-- Segments are resolved to the end of their way. -/
theorem resolve_eq_ok_iff {ending : PathEnd} :
    files.resolve true links here segments = .ok ending ↔ files.Comes links (here, segments) ending := by
  constructor
  · intro ends
    induction links generalizing here segments with
    | zero => exact comes_of_walk (fun _ _ _ none => by cases none) ends
    | succ links ih =>
      exact comes_of_walk (fun isFolder names held later => .follow isFolder names held (ih later)) ends
  · intro comes
    generalize stands : (here, segments) = stand at comes
    induction comes generalizing here segments with
    | found =>
      cases stands
      rw [resolve_eq_walk]
      rfl
    | vacant isFolder names free ended =>
      cases stands
      rw [resolve_eq_walk, walk_name isFolder names.moves names.notUp, if_neg names.short, free]
      exact if_pos ended
    | stay isFolder stays _ ih =>
      cases stands
      rw [resolve_eq_walk, walk_stay isFolder stays, ← resolve_eq_walk]
      exact ih rfl
    | up isFolder _ ih =>
      cases stands
      rw [resolve_eq_walk, walk_up isFolder, ← resolve_eq_walk]
      exact ih rfl
    | @enter _ _ _ _ node _ isFolder names held noLink _ ih =>
      cases stands
      rw [resolve_eq_walk, walk_name isFolder names.moves names.notUp, if_neg names.short, held,
        ← resolve_eq_walk]
      cases node with
      | link target => exact absurd rfl noLink
      | _ => exact ih rfl
    | follow isFolder names held _ ih =>
      cases stands
      rw [resolve_eq_walk, walk_name isFolder names.moves names.notUp, if_neg names.short, held]
      simp only [Bool.not_true, Bool.false_eq_true, and_false, if_false]
      exact ih rfl

/-- A path is followed to the end of its way. -/
theorem locate_eq_ok_iff {ending : PathEnd} : files.locate true path = .ok ending ↔
    ¬path.toList.contains '\x00' ∧ ¬path.isEmpty ∧
      files.Comes linkLimit (files.startOf path) ending := by
  unfold locate
  by_cases hasNul : path.toList.contains '\x00' = true
  · rw [if_pos hasNul]
    exact ⟨nofun, fun ⟨noNul, _⟩ => absurd hasNul noNul⟩
  by_cases isEmpty : path.isEmpty = true
  · rw [if_neg hasNul, if_pos isEmpty]
    exact ⟨nofun, fun ⟨_, notEmpty, _⟩ => absurd isEmpty notEmpty⟩
  rw [if_neg hasNul, if_neg isEmpty, resolve_eq_ok_iff]
  exact ⟨fun ends => ⟨hasNul, isEmpty, ends⟩, fun ⟨_, _, ends⟩ => ends⟩

/-- Where a path leads. -/
theorem find_eq_ok_iff : files.find path = .ok place ↔ files.locate true path = .ok (.found place) := by
  unfold find
  cases files.locate true path with
  | error error => simp [bind, Except.bind]
  | ok ending =>
    cases ending <;> simp [bind, Except.bind, pure, Except.pure, throw, throwThe, MonadExceptOf.throw]

/-! ## Steps -/

theorem not_onward_nil : ¬files.Onward (here, []) stand := nofun

/-- A way goes on in one way. -/
theorem onward_rightUnique (files : FileSystem) : Relator.RightUnique files.Onward := by
  intro stand next next' step step'
  cases step with
  | stay _ stays =>
    cases step' with
    | stay => rfl
    | up => simp at stays
    | enter _ names => exact absurd stays names.moves
    | follow _ names => exact absurd stays names.moves
  | up =>
    cases step' with
    | stay _ stays => simp at stays
    | up => rfl
    | enter _ names => exact absurd rfl names.notUp
    | follow _ names => exact absurd rfl names.notUp
  | enter _ names held noLink =>
    cases step' with
    | stay _ stays => exact absurd stays names.moves
    | up => exact absurd rfl names.notUp
    | enter => rfl
    | follow _ _ held' =>
      obtain rfl := Option.some.inj (held.symm.trans held')
      exact absurd rfl noLink
  | follow _ names held =>
    cases step' with
    | stay _ stays => exact absurd stays names.moves
    | up => exact absurd rfl names.notUp
    | enter _ _ held' noLink =>
      obtain rfl := Option.some.inj (held.symm.trans held')
      exact absurd rfl noLink
    | follow _ _ held' =>
      obtain rfl := FileNode.link.inj (Option.some.inj (held.symm.trans held'))
      rfl

/-- What follows later makes no difference to a step. -/
theorem Onward.append (step : files.Onward (here, segments) (place, rest)) (more : List (List Char)) :
    files.Onward (here, segments ++ more) (place, rest ++ more) := by
  cases step with
  | stay isFolder stays => exact .stay isFolder stays
  | up isFolder => exact .up isFolder
  | enter isFolder names held noLink => exact .enter isFolder names held noLink
  | follow isFolder names held =>
    rw [List.append_assoc]
    exact .follow isFolder names held

/-- A step takes the first segment alone. -/
theorem Onward.exists_append (step : files.Onward (here, segment :: rest ++ more) stand) :
    ∃ left, stand.2 = left ++ more ∧ files.Onward (here, segment :: rest) (stand.1, left) := by
  cases step with
  | stay isFolder stays => exact ⟨rest, rfl, .stay isFolder stays⟩
  | up isFolder => exact ⟨rest, rfl, .up isFolder⟩
  | enter isFolder names held noLink => exact ⟨rest, rfl, .enter isFolder names held noLink⟩
  | follow isFolder names held =>
    exact ⟨_, (List.append_assoc ..).symm, .follow isFolder names held⟩

/-! ## Ways -/

/-- A way that has come to its end has one end. -/
theorem Leads.end_unique (first : files.Leads stand (here, [])) (second : files.Leads stand stand') :
    files.Leads stand' (here, []) := by
  rcases Relation.ReflTransGen.total_of_right_unique (onward_rightUnique files) first second with
    past | before
  · rcases Relation.ReflTransGen.cases_head past with same | ⟨next, step, -⟩
    · rw [← same]
    · exact absurd step not_onward_nil
  · exact before

theorem Leads.eq_of_ends (first : files.Leads stand (here, [])) (second : files.Leads stand (place, [])) :
    here = place := by
  rcases Relation.ReflTransGen.cases_head (first.end_unique second) with same | ⟨next, step, -⟩
  · exact (Prod.mk.inj same).1.symm
  · exact absurd step not_onward_nil

theorem Leads.append (leads : files.Leads (here, segments) (place, rest)) (more : List (List Char)) :
    files.Leads (here, segments ++ more) (place, rest ++ more) := by
  have longer : ∀ stand stand', files.Onward stand stand' →
      files.Onward (stand.1, stand.2 ++ more) (stand'.1, stand'.2 ++ more) :=
    fun _ _ step => step.append more
  exact Relation.ReflTransGen.lift (fun stand : Stand => (stand.1, stand.2 ++ more)) longer _ _ leads

/-- A way over further segments first goes the way without them. -/
theorem Leads.split (leads : files.Leads (here, segments ++ more) stand) :
    (∃ left, stand.2 = left ++ more ∧ files.Leads (here, segments) (stand.1, left)) ∨
      ∃ mid, files.Leads (here, segments) (mid, []) ∧ files.Leads (mid, more) stand := by
  induction leads with
  | refl => exact .inl ⟨segments, rfl, .refl⟩
  | @tail between next _ step ih =>
    rcases ih with ⟨left, rest, before⟩ | ⟨mid, before, after⟩
    · obtain ⟨spot, _⟩ := between
      obtain rfl := rest
      cases left with
      | nil => exact .inr ⟨spot, before, .single step⟩
      | cons segment left =>
        obtain ⟨left', rest', step'⟩ := step.exists_append
        exact .inl ⟨left', rest', before.tail step'⟩
    · exact .inr ⟨mid, before, after.tail step⟩

/-- A name in a folder is that of an entry. -/
theorem namesEntry_toList (isName : isFileName entry = true) : NamesEntry entry.toList := by
  obtain ⟨-, -, notUp, short, -⟩ := isFileName_iff.1 isName
  refine ⟨Path.moves_of_isFileName isName, fun up => notUp (String.toList_inj.1 up), ?_⟩
  rw [String.ofList_toList]
  omega

/-- From a folder one segment leads to an entry of the name, or on to where a link leads. -/
theorem leads_entry (isName : isFileName entry = true)
    (leads : files.Leads (place, [entry.toList]) stand) :
    stand = (place, [entry.toList]) ∨
      (∃ node, files.node? (entry :: place) = some node ∧ node.kind ≠ .link ∧
        stand = (entry :: place, [])) ∨
      ∃ target, files.node? (entry :: place) = some (.link target) ∧
        files.Leads (linkStand place target) stand := by
  have names := namesEntry_toList isName
  rcases Relation.ReflTransGen.cases_head leads with same | ⟨next, step, later⟩
  · exact .inl same.symm
  · have back : String.ofList entry.toList = entry := String.ofList_toList
    generalize entry.toList = segment at *
    cases step with
    | stay _ stays => exact absurd stays names.moves
    | up => exact absurd rfl names.notUp
    | enter _ _ held noLink =>
      rw [back] at held later
      refine .inr (.inl ⟨_, held, noLink, ?_⟩)
      rcases Relation.ReflTransGen.cases_head later with same | ⟨next, step, -⟩
      · exact same.symm
      · exact absurd step not_onward_nil
    | follow _ _ held =>
      rw [back] at held
      rw [List.append_nil] at later
      exact .inr (.inr ⟨_, held, later⟩)

/-! ## Ways of paths -/

/-- A way that comes to a place leads there. -/
theorem Comes.leads {ending : PathEnd} (comes : files.Comes links stand ending)
    (found : ending = .found place) : files.Leads stand (place, []) := by
  induction comes with
  | found =>
    obtain rfl := PathEnd.found.inj found
    exact .refl
  | vacant => cases found
  | stay isFolder stays _ ih => exact .head (.stay isFolder stays) (ih found)
  | up isFolder _ ih => exact .head (.up isFolder) (ih found)
  | enter isFolder names held noLink _ ih => exact .head (.enter isFolder names held noLink) (ih found)
  | follow isFolder names held _ ih => exact .head (.follow isFolder names held) (ih found)

theorem leads_of_find (found : files.find path = .ok place) :
    files.Leads (files.startOf path) (place, []) := by
  obtain ⟨-, -, comes⟩ := locate_eq_ok_iff.1 (find_eq_ok_iff.1 found)
  exact comes.leads rfl

/-- The path of a folder is not empty. -/
theorem ne_empty_of_find (found : files.find path = .ok place) : path ≠ "" := by
  rintro rfl
  obtain ⟨-, filled, -⟩ := locate_eq_ok_iff.1 (find_eq_ok_iff.1 found)
  exact filled rfl

/-- A path to an entry goes the way of its folder, and then from the folder on. -/
theorem leads_join (found : files.find folder = .ok place) (isName : isFileName entry = true)
    (leads : files.Leads (files.startOf (Path.join folder entry)) stand) :
    (stand.2 ≠ [] ∧ ∃ left, files.Leads (files.startOf folder) (stand.1, left)) ∨
      files.Leads (place, [entry.toList]) stand := by
  have filled := ne_empty_of_find found
  have ends := leads_of_find found
  obtain ⟨before, joined, segments⟩ := Path.exists_segments_join filled isName
  unfold startOf at leads ends ⊢
  rw [Path.isAbsolute_join filled isName, joined] at leads
  rcases leads.split with ⟨left, rest, leads⟩ | ⟨mid, leads, after⟩
  · refine .inl ⟨by simp [rest], ?_⟩
    rcases segments with same | slashed
    · exact ⟨left, same ▸ leads⟩
    · rw [slashed]
      exact ⟨left ++ [[]], leads.append [[]]⟩
  · refine .inr ?_
    rcases segments with same | slashed
    · rw [same] at ends
      rwa [ends.eq_of_ends leads]
    · -- A slash at the end of the folder's path leaves an empty segment, which leads nowhere else.
      rw [slashed] at ends
      rcases Relation.ReflTransGen.cases_head (ends.end_unique (leads.append [[]])) with
        same | ⟨next, step, later⟩
      · cases same
      · cases step with
        | stay isFolder _ =>
          have ended : files.Leads (mid, []) (mid, []) := .refl
          rwa [Leads.eq_of_ends later ended]
        | enter _ names => exact absurd (.inl rfl) names.moves
        | follow _ names => exact absurd (.inl rfl) names.moves

/-- The way of a path to what is no link goes to the folder first, and then ends at the entry. -/
theorem leads_join_of_node (found : files.find folder = .ok place) (isName : isFileName entry = true)
    (held : files.node? (entry :: place) = some node) (noLink : node.kind ≠ .link)
    (leads : files.Leads (files.startOf (Path.join folder entry)) stand) :
    (stand.2 ≠ [] ∧ ∃ left, files.Leads (files.startOf folder) (stand.1, left)) ∨
      stand = (entry :: place, []) := by
  rcases leads_join found isName leads with before | leads
  · exact .inl before
  · rcases leads_entry isName leads with rfl | ⟨_, -, -, same⟩ | ⟨target, linked, -⟩
    · exact .inl ⟨List.cons_ne_nil _ _, [], leads_of_find found⟩
    · exact .inr same
    · cases held.symm.trans linked
      exact absurd rfl noLink

/-- The way of a path to a link goes to the folder first, and then where the link leads. -/
theorem leads_join_of_link (found : files.find folder = .ok place) (isName : isFileName entry = true)
    (linked : files.node? (entry :: place) = some (.link target))
    (leads : files.Leads (files.startOf (Path.join folder entry)) stand) :
    (stand.2 ≠ [] ∧ ∃ left, files.Leads (files.startOf folder) (stand.1, left)) ∨
      files.Leads (linkStand place target) stand := by
  rcases leads_join found isName leads with before | leads
  · exact .inl before
  · rcases leads_entry isName leads with rfl | ⟨node, held, noLink, -⟩ | ⟨target', linked', leads⟩
    · exact .inl ⟨List.cons_ne_nil _ _, [], leads_of_find found⟩
    · cases held.symm.trans linked
      exact absurd rfl noLink
    · obtain rfl := FileNode.link.inj (Option.some.inj (linked.symm.trans linked'))
      exact .inr leads

/-! ## Ways in two file systems -/

/-- What is at a place, and at each name in it, is the same, and the names are listed in one order. -/
structure SameAt (files files' : FileSystem) (place : Location) : Prop where
  here : files.node? place = files'.node? place
  inside : ∀ name, files.node? (name :: place) = files'.node? (name :: place)
  listed : files.namesIn place = files'.namesIn place

/-- What a way looks at is the same. -/
def SameAlong (files files' : FileSystem) (stand : Stand) : Prop :=
  ∀ place rest, files.Leads stand (place, rest) → rest ≠ [] → SameAt files files' place

theorem SameAlong.onward (same : SameAlong files files' stand) (step : files.Onward stand stand') :
    SameAlong files files' stand' :=
  fun place rest leads => same place rest (.head step leads)

/-- A way that looks at the same has the same end. -/
theorem SameAlong.resolve_eq (same : SameAlong files files' (here, segments)) (links : Nat) :
    files.resolve true links here segments = files'.resolve true links here segments := by
  have walk {follow follow' : Location → List (List Char) → Except FileError PathEnd}
      (onward : ∀ here segments, SameAlong files files' (here, segments) →
        follow here segments = follow' here segments) :
      ∀ segments here, SameAlong files files' (here, segments) →
        files.walk true follow here segments = files'.walk true follow' here segments := by
    intro segments
    induction segments with
    | nil => exact fun here _ => rfl
    | cons segment rest ih =>
      intro here same
      have now := same here (segment :: rest) .refl (List.cons_ne_nil _ _)
      by_cases isFolder : files.node? here = some .folder
      · have isFolder' := now.here.symm.trans isFolder
        by_cases stays : segment = [] ∨ segment = ['.']
        · rw [walk_stay isFolder stays, walk_stay isFolder' stays]
          exact ih here (same.onward (.stay isFolder stays))
        by_cases up : segment = ['.', '.']
        · subst up
          rw [walk_up isFolder, walk_up isFolder']
          exact ih _ (same.onward (.up isFolder))
        rw [walk_name isFolder stays up, walk_name isFolder' stays up, ← now.inside]
        split
        · rfl
        next short =>
        split
        · next target held =>
          simp only [Bool.not_true, Bool.false_eq_true, and_false, if_false]
          exact onward _ _ (same.onward (.follow isFolder ⟨stays, up, short⟩ held))
        · next node noLink held =>
          exact ih _ (same.onward (.enter isFolder ⟨stays, up, short⟩ held (kind_ne_link noLink)))
        · rfl
      · rw [walk_eq_error isFolder, walk_eq_error fun isFolder' => isFolder (now.here.trans isFolder')]
  induction links generalizing here segments with
  | zero => exact walk (fun _ _ _ => rfl) segments here same
  | succ links ih => exact walk (fun _ _ same => ih same) segments here same

/-- A path whose way looks at the same leads to the same place. -/
theorem SameAlong.find_eq (current : files.current = files'.current)
    (same : SameAlong files files' (files.startOf path)) : files.find path = files'.find path := by
  have resolved := same.resolve_eq linkLimit
  have located : files.locate true path = files'.locate true path := by
    rw [locate, locate, ← current, resolved]
  rw [find, find, located]

/-! ## Names in a folder -/

/-- The names in a folder are those under which it holds something. -/
theorem mem_namesIn_iff {name : String} {folder : Location} :
    name ∈ files.namesIn folder ↔
      isFileName name = true ∧ (files.node? (name :: folder)).isSome = true := by
  have collected (names : List String) : name ∈ names.foldr List.insert [] ↔ name ∈ names := by
    induction names with
    | nil => rfl
    | cons head later ih => rw [List.foldr_cons, List.mem_insert_iff, ih, List.mem_cons]
  have held : (files.node? (name :: folder)).isSome = true ↔
      ∃ node, (name :: folder, node) ∈ files.nodes := by
    rw [node?, if_neg (List.cons_ne_nil _ _), List.lookup_isSome_iff]
    constructor
    · rintro ⟨⟨location, node⟩, member, same⟩
      exact ⟨node, (beq_iff_eq.1 same : _ = location) ▸ member⟩
    · rintro ⟨node, member⟩
      exact ⟨_, member, by simp⟩
  rw [namesIn, collected, List.mem_filterMap, held]
  constructor
  · rintro ⟨⟨location, node⟩, member, named⟩
    cases location with
    | nil => cases named
    | cons first parent =>
      simp only [nameIn?] at named
      split at named
      · next fits =>
        obtain ⟨rfl, isName⟩ := fits
        obtain rfl := Option.some.inj named
        exact ⟨isName, node, member⟩
      · cases named
  · rintro ⟨isName, node, member⟩
    exact ⟨_, member, by simp [nameIn?, isName]⟩

/-- No name is listed twice. -/
theorem nodup_namesIn (files : FileSystem) (folder : Location) : (files.namesIn folder).Nodup := by
  unfold namesIn
  induction files.nodes.filterMap fun entry => nameIn? folder entry.1 with
  | nil => exact .nil
  | cons head later ih => exact List.Nodup.insert ih

/-- What can be listed is found. -/
theorem exists_find_of_entriesOf {entries : List (String × FileKind)}
    (listed : files.entriesOf path = .ok entries) : ∃ place, files.find path = .ok place := by
  rw [entriesOf] at listed
  cases found : files.find path with
  | error error =>
    rw [found] at listed
    cases listed
  | ok place => exact ⟨place, rfl⟩

/-- A folder can be listed. -/
theorem exists_entriesOf (found : files.find path = .ok place)
    (isFolder : files.node? place = some .folder) : ∃ entries, files.entriesOf path = .ok entries := by
  rw [entriesOf, found]
  simp [bind, Except.bind, isFolder, pure, Except.pure]

/-- What can be listed is a folder. -/
theorem isFolder_of_entriesOf {entries : List (String × FileKind)} (found : files.find path = .ok place)
    (listed : files.entriesOf path = .ok entries) : files.node? place = some .folder := by
  by_contra noFolder
  rw [entriesOf, found] at listed
  simp [bind, Except.bind, noFolder, throw, throwThe, MonadExceptOf.throw] at listed

/-- What is listed of a folder is what it holds under a name. -/
theorem of_mem_entriesOf {entries : List (String × FileKind)} {kind : FileKind}
    (found : files.find path = .ok place) (listed : files.entriesOf path = .ok entries)
    (member : (entry, kind) ∈ entries) : files.node? place = some .folder ∧
      isFileName entry = true ∧ ∃ node, files.node? (entry :: place) = some node ∧ kind = node.kind := by
  rw [entriesOf, found] at listed
  simp only [bind, Except.bind] at listed
  split at listed
  · cases listed
  next isFolder =>
  obtain rfl := Except.ok.inj listed
  obtain ⟨name, isListed, made⟩ := List.mem_filterMap.1 member
  obtain ⟨node, held, same⟩ := Option.map_eq_some_iff.1 made
  obtain ⟨rfl, rfl⟩ := Prod.mk.inj same
  exact ⟨not_not.1 isFolder, (mem_namesIn_iff.1 isListed).1, node, held, rfl⟩

/-- Of a folder that is the same the same is listed. -/
theorem SameAt.entriesOf_eq (same : SameAt files files' place) (found : files.find path = .ok place)
    (found' : files'.find path = .ok place) : files.entriesOf path = files'.entriesOf path := by
  rw [entriesOf, entriesOf, found, found']
  simp only [bind, Except.bind, same.here, same.listed, same.inside]

end ClassRename.FileSystem
