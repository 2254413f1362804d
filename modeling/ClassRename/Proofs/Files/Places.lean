import ClassRename.FileSystem
import Mathlib.Data.List.Basic

/-! # Writing a file leaves the rest

A path is followed by the folders and links on its way alone, so new bytes in a file change no way. A
file that is written reads as what was written, and all that lies elsewhere stays as it is.
-/

namespace ClassRename

open Text (Utf8.Bytes)

/-- What a place holds, the bytes of a file left out. -/
def FileNode.shape : FileNode → FileNode
  | .file _ => .file []
  | node => node

namespace FileSystem

/-- The file systems differ in the bytes of files alone. -/
structure SameShape (files files' : FileSystem) : Prop where
  current : files.current = files'.current
  shape : ∀ location,
    (files.node? location).map FileNode.shape = (files'.node? location).map FileNode.shape

variable {files files' files'' : FileSystem} {location other : Location} {path path' : String}
  {content new : Utf8.Bytes}

theorem SameShape.refl (files : FileSystem) : SameShape files files := ⟨rfl, fun _ => rfl⟩

theorem SameShape.trans (same : SameShape files files') (same' : SameShape files' files'') :
    SameShape files files'' :=
  ⟨same.current.trans same'.current, fun location => (same.shape location).trans (same'.shape location)⟩

/-! ## One step of a way -/

section

variable {last : Bool} {follow : Location → List (List Char) → Except FileError PathEnd}
  {here : Location} {segment : List Char} {rest : List (List Char)}

/-- A way goes on in folders only. -/
theorem walk_eq_error (noFolder : files.node? here ≠ some .folder) :
    files.walk last follow here (segment :: rest) = .error .notFolder := by
  rw [walk, if_pos noFolder]

/-- An empty segment, or a dot, leads nowhere else. -/
theorem walk_stay (isFolder : files.node? here = some .folder) (stays : segment = [] ∨ segment = ['.']) :
    files.walk last follow here (segment :: rest) = files.walk last follow here rest := by
  rw [walk, if_neg (not_not.2 isFolder), if_pos stays]

/-- Two dots lead to the folder around. -/
theorem walk_up (isFolder : files.node? here = some .folder) :
    files.walk last follow here (['.', '.'] :: rest) = files.walk last follow here.tail rest := by
  rw [walk, if_neg (not_not.2 isFolder), if_neg (by decide), if_pos rfl]

/-- A name leads on by what it stands for. -/
theorem walk_name (isFolder : files.node? here = some .folder)
    (moves : ¬(segment = [] ∨ segment = ['.'])) (notUp : segment ≠ ['.', '.']) :
    files.walk last follow here (segment :: rest) =
      if 255 < (String.ofList segment).utf8ByteSize then .error .nameTooLong
      else match files.node? (String.ofList segment :: here) with
        | some (.link target) =>
          if rest = [] ∧ !last then .ok (.found (String.ofList segment :: here))
          else follow (if Path.isAbsolute target then [] else here)
            (Path.segments target.toList ++ rest)
        | some _ => files.walk last follow (String.ofList segment :: here) rest
        | none =>
          if rest.all (·.isEmpty) then .ok (.vacant here (String.ofList segment) (!rest.isEmpty))
          else .error .missing := by
  rw [walk, if_neg (not_not.2 isFolder), if_neg moves]
  exact if_neg notUp

end

/-! ## New bytes in files -/

/-- A place is free in both, holds a file in both, or holds the same folder or link. -/
theorem SameShape.node?_cases (same : SameShape files files') (location : Location) :
    files.node? location = files'.node? location ∨
      ∃ content content', files.node? location = some (.file content) ∧
        files'.node? location = some (.file content') := by
  have shape := same.shape location
  cases node : files.node? location with
  | none =>
    rw [node] at shape
    exact .inl (Option.map_eq_none_iff.1 shape.symm).symm
  | some held =>
    rw [node] at shape
    obtain ⟨held', node', sameHeld⟩ := Option.map_eq_some_iff.1 shape.symm
    rw [node']
    cases held <;> cases held' <;> simp_all [FileNode.shape]

/-- Segments lead the same way. -/
theorem SameShape.walk_eq (same : SameShape files files') {last : Bool}
    {follow : Location → List (List Char) → Except FileError PathEnd} (here : Location)
    (segments : List (List Char)) :
    files.walk last follow here segments = files'.walk last follow here segments := by
  induction segments generalizing here with
  | nil => rfl
  | cons segment rest ih =>
    have folder : files.node? here ≠ some .folder ↔ files'.node? here ≠ some .folder := by
      rcases same.node?_cases here with node | ⟨_, _, node, node'⟩
      · rw [node]
      · simp [node, node']
    rw [walk, walk]
    simp only [folder, ih]
    rcases same.node?_cases (String.ofList segment :: here) with node | ⟨_, _, node, node'⟩
    · simp only [node]
    · simp only [node, node']

/-- Paths lead to the same places. -/
theorem SameShape.find_eq (same : SameShape files files') (path : String) :
    files.find path = files'.find path := by
  have resolve (last : Bool) (links : Nat) :
      files.resolve last links = files'.resolve last links := by
    induction links with
    | zero => funext here segments; exact same.walk_eq here segments
    | succ links ih =>
      funext here segments
      rw [FileSystem.resolve, ih]
      exact same.walk_eq here segments
  have locate : files.locate true path = files'.locate true path := by
    rw [FileSystem.locate, resolve, same.current]
    rfl
  rw [FileSystem.find, locate]
  rfl

/-- What a file reads as. -/
theorem read_eq_ok_iff : files.read path = .ok content ↔
    ∃ location, files.find path = .ok location ∧ files.node? location = some (.file content) := by
  unfold read
  cases found : files.find path with
  | error error => simp [bind, Except.bind]
  | ok location =>
    simp only [bind, Except.bind, Except.ok.injEq, exists_eq_left']
    cases node : files.node? location with
    | none => simp [throw, throwThe, MonadExceptOf.throw]
    | some held => cases held <;> simp [throw, throwThe, MonadExceptOf.throw, pure, Except.pure]

/-- What places hold once a node was put at one of them. -/
theorem node?_put (notRoot : location ≠ []) (node : FileNode) (other : Location) :
    (files.put location node).node? other = if other = location then some node else files.node? other := by
  unfold node? put
  by_cases here : other = location
  · subst here
    simp [notRoot]
  · simp [here, List.lookup_cons, beq_eq_false_iff_ne.2 here]

theorem node?_put_self (notRoot : location ≠ []) (node : FileNode) :
    (files.put location node).node? location = some node := by
  rw [node?_put notRoot, if_pos rfl]

/-- A file lies below the root. -/
theorem ne_nil_of_node?_file (held : files.node? location = some (.file content)) : location ≠ [] := by
  rintro rfl
  simp [node?] at held

/-- New bytes in a file leave the shape. -/
theorem sameShape_put (held : files.node? location = some (.file content)) (new : Utf8.Bytes) :
    SameShape files (files.put location (.file new)) where
  current := rfl
  shape other := by
    rw [node?_put (ne_nil_of_node?_file held)]
    split
    · next here => simp [here, held, FileNode.shape]
    · rfl

/-- A file is written in its place. -/
theorem write_eq (found : files.find path = .ok location)
    (held : files.node? location = some (.file content)) (new : Utf8.Bytes) :
    files.write path new = .ok (files.put location (.file new)) := by
  unfold find at found
  unfold write
  cases ending : files.locate true path with
  | error error =>
    rw [ending] at found
    cases found
  | ok ending' =>
    rw [ending] at found
    cases ending' with
    | found location' =>
      cases found
      simp only [bind, Except.bind, held]
      rfl
    | vacant folder name slashed => cases found

/-- A file that was written reads as what was written. -/
theorem read_put (found : files.find path = .ok location)
    (held : files.node? location = some (.file content)) (new : Utf8.Bytes) :
    (files.put location (.file new)).read path = .ok new := by
  refine read_eq_ok_iff.2 ⟨location, ?_, node?_put_self (ne_nil_of_node?_file held) _⟩
  rw [← (sameShape_put held new).find_eq, found]

/-- What is read depends on what the path leads to. -/
theorem SameShape.read_eq (same : SameShape files files')
    (kept : ∀ location, files.find path = .ok location → files'.node? location = files.node? location) :
    files'.read path = files.read path := by
  unfold read
  rw [← same.find_eq]
  cases found : files.find path with
  | error error => rfl
  | ok location => simp only [bind, Except.bind, kept location found]

end FileSystem

end ClassRename
