import ClassRename.Proofs.Files.Ways
import ClassRename.Proofs.Text.Utf8

/-! # What was written is read

A path that may be written leads to a file, or to a free name in a folder. Once bytes are written there,
the path leads to them.
-/

namespace ClassRename.FileSystem

open Text (Utf8.Bytes)

variable {files after : FileSystem} {path other name : String} {folder location place : Location}
  {content new : Utf8.Bytes}

/-- The path leads to a file, or to a free name in a folder that no slash follows. -/
def Writable (files : FileSystem) (path : String) : Prop :=
  (∃ location content, files.locate true path = .ok (.found location) ∧
    files.node? location = some (.file content)) ∨
  ∃ folder name, files.locate true path = .ok (.vacant folder name false)

/-! ## Ways after a file was made -/

/-- Where a way ends at a free name, nothing is there. -/
theorem Comes.node?_eq_none {links : Nat} {stand : Stand} {ending : PathEnd} {slashed : Bool}
    (comes : files.Comes links stand ending) (free : ending = .vacant folder name slashed) :
    files.node? (name :: folder) = none := by
  induction comes with
  | found => cases free
  | vacant _ _ none _ =>
    obtain ⟨rfl, rfl, -⟩ := PathEnd.vacant.inj free
    exact none
  | stay _ _ _ ih => exact ih free
  | up _ _ ih => exact ih free
  | enter _ _ _ _ _ ih => exact ih free
  | follow _ _ _ _ ih => exact ih free

/-- What was there is still there when a file is made at a free name. -/
theorem node?_put_of_free (free : files.node? location = none) {node : FileNode}
    (held : files.node? place = some node) (new : Utf8.Bytes) :
    (files.put location (.file new)).node? place = some node := by
  have notRoot : location ≠ [] := by
    rintro rfl
    cases free
  rw [node?_put notRoot, if_neg, held]
  rintro rfl
  cases free.symm.trans held

/-- A way that leads anywhere leads there still when a file is made at a free name, and one that ended at
the name leads to the file. -/
theorem Comes.put {links : Nat} {stand : Stand} {ending : PathEnd}
    (comes : files.Comes links stand ending) (free : files.node? location = none) (new : Utf8.Bytes)
    (ends : ending = .found place ∨
      ∃ folder name, ending = .vacant folder name false ∧ place = location ∧ name :: folder = location) :
    (files.put location (.file new)).Comes links stand (.found place) := by
  have there {other : Location} {node : FileNode} (held : files.node? other = some node) :=
    node?_put_of_free free held new
  induction comes with
  | found =>
    rcases ends with same | ⟨folder, name, none, -⟩
    · obtain rfl := PathEnd.found.inj same
      exact .found
    · cases none
  | @vacant _ here segment rest isFolder names _ _ =>
    rcases ends with none | ⟨folder, name, same, rfl, made⟩
    · cases none
    · -- The name is the last segment, since no slash follows it.
      obtain ⟨rfl, rfl, noSlash⟩ := PathEnd.vacant.inj same
      obtain rfl : rest = [] := by simpa using noSlash
      subst made
      have held : (files.put (String.ofList segment :: here) (.file new)).node?
          (String.ofList segment :: here) = some (.file new) :=
        node?_put_self (List.cons_ne_nil _ _) _
      exact .enter (there isFolder) names held nofun .found
  | stay isFolder stays _ ih => exact .stay (there isFolder) stays (ih ends)
  | up isFolder _ ih => exact .up (there isFolder) (ih ends)
  | enter isFolder names held noLink _ ih =>
    exact .enter (there isFolder) names (there held) noLink (ih ends)
  | follow isFolder names held _ ih => exact .follow (there isFolder) names (there held) (ih ends)

/-- Where a path ends at a free name, nothing is there. -/
theorem node?_of_locate_eq_vacant
    (ends : files.locate true path = .ok (.vacant folder name false)) :
    files.node? (name :: folder) = none := by
  obtain ⟨-, -, comes⟩ := locate_eq_ok_iff.1 ends
  exact comes.node?_eq_none rfl

/-- A path that leads anywhere leads there still when a file is made at a free name. -/
theorem find_put_of_free (free : files.node? location = none) (leads : files.find path = .ok place)
    (new : Utf8.Bytes) : (files.put location (.file new)).find path = .ok place := by
  obtain ⟨noNul, notEmpty, comes⟩ := locate_eq_ok_iff.1 (find_eq_ok_iff.1 leads)
  exact find_eq_ok_iff.2 (locate_eq_ok_iff.2 ⟨noNul, notEmpty, comes.put free new (.inl rfl)⟩)

/-- A file that is made at a free name is found where it was made. -/
theorem find_put_of_vacant (ends : files.locate true path = .ok (.vacant folder name false))
    (new : Utf8.Bytes) :
    (files.put (name :: folder) (.file new)).find path = .ok (name :: folder) := by
  have free := node?_of_locate_eq_vacant ends
  obtain ⟨noNul, notEmpty, comes⟩ := locate_eq_ok_iff.1 ends
  have made := comes.put free new (.inr ⟨folder, name, rfl, rfl, rfl⟩)
  exact find_eq_ok_iff.2 (locate_eq_ok_iff.2 ⟨noNul, notEmpty, made⟩)

/-! ## Writing -/

/-- What can be written at all was at a path that may be written. -/
theorem writable_of_write (written : files.write path new = .ok after) : files.Writable path := by
  unfold write at written
  cases ends : files.locate true path with
  | error error =>
    rw [ends] at written
    cases written
  | ok ending =>
    rw [ends] at written
    cases ending with
    | found location =>
      simp only [bind, Except.bind] at written
      split at written
      · next content held => exact .inl ⟨location, content, ends, held⟩
      · cases written
    | vacant folder name slashed =>
      cases slashed with
      | true => cases written
      | false => exact .inr ⟨folder, name, ends⟩

/-- Where a path may be written, the bytes come to one place, to which the path leads from then on. Paths
that led anywhere lead there still. -/
theorem Writable.exists_put (writable : files.Writable path) (new : Utf8.Bytes) :
    ∃ location, files.write path new = .ok (files.put location (.file new)) ∧ location ≠ [] ∧
      (files.put location (.file new)).find path = .ok location ∧
      ∀ other place, files.find other = .ok place →
        (files.put location (.file new)).find other = .ok place := by
  rcases writable with ⟨location, content, ends, held⟩ | ⟨folder, name, ends⟩
  · have found : files.find path = .ok location := by
      rw [find, ends]
      rfl
    have kept := (sameShape_put held new).find_eq
    refine ⟨location, write_eq found held new, ne_nil_of_node?_file held, ?_,
      fun other place leads => ?_⟩
    · rw [← kept, found]
    · rw [← kept, leads]
  · refine ⟨name :: folder, ?_, List.cons_ne_nil _ _, find_put_of_vacant ends new,
      fun other place leads => ?_⟩
    · rw [write, ends]
      rfl
    · exact find_put_of_free (node?_of_locate_eq_vacant ends) leads new

/-- Where a path may be written, writing succeeds, and then the path reads as what was written. -/
theorem Writable.exists_write (writable : files.Writable path) (new : Utf8.Bytes) :
    ∃ after, files.write path new = .ok after ∧ after.read path = .ok new := by
  obtain ⟨location, written, notRoot, found, -⟩ := writable.exists_put new
  exact ⟨_, written, read_eq_ok_iff.2 ⟨location, found, node?_put_self notRoot _⟩⟩

/-- A path that was written reads as what was written. -/
theorem read_of_write (written : files.write path new = .ok after) : after.read path = .ok new := by
  obtain ⟨after', written', readable⟩ := (writable_of_write written).exists_write new
  obtain rfl := Except.ok.inj (written'.symm.trans written)
  exact readable

/-- What a path that leads elsewhere reads as is not changed by writing. -/
theorem read_eq_of_write (written : files.write path new = .ok after)
    (elsewhere : after.find other ≠ after.find path) (readable : files.read other = .ok content) :
    after.read other = .ok content := by
  obtain ⟨location, written', notRoot, found, kept⟩ := (writable_of_write written).exists_put new
  obtain rfl := Except.ok.inj (written'.symm.trans written)
  obtain ⟨place, leads, held⟩ := read_eq_ok_iff.1 readable
  have leads' := kept other place leads
  refine read_eq_ok_iff.2 ⟨place, leads', ?_⟩
  rw [node?_put notRoot, if_neg, held]
  rintro rfl
  exact elsewhere (leads'.trans found.symm)

end ClassRename.FileSystem
