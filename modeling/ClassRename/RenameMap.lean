/-!
# Rename maps

A rename map gives new names for old ones. It is kept in ascending order of the old names, each of
which occurs once, so two maps with the same entries are equal.
-/

namespace ClassRename

/-- Entries of a rename map: old names with new ones. -/
abbrev RenameEntries := List (String × String)

namespace RenameEntries

/-- Old names ascend, so none occurs twice. -/
def Ascending (entries : RenameEntries) : Prop :=
  entries.Pairwise (·.1 < ·.1)

/-- Put an entry in its place; an entry with the same old name gives way. -/
def insert (old new : String) : RenameEntries → RenameEntries
  | [] => [(old, new)]
  | (old', new') :: later =>
    if old < old' then (old, new) :: (old', new') :: later
    else if old = old' then (old, new) :: later
    else (old', new') :: insert old new later

def get? (entries : RenameEntries) (old : String) : Option String :=
  entries.lookup old

theorem mem_insert {old new : String} {entry : String × String} {entries : RenameEntries}
    (member : entry ∈ insert old new entries) : entry = (old, new) ∨ entry ∈ entries := by
  induction entries with
  | nil => simpa [insert] using member
  | cons head later ih =>
    rw [insert] at member
    split at member
    · simpa using member
    · split at member
      · rcases List.mem_cons.1 member with here | there
        · exact .inl here
        · exact .inr (List.mem_cons_of_mem _ there)
      · rcases List.mem_cons.1 member with here | there
        · exact .inr (here ▸ List.mem_cons_self)
        · exact (ih there).imp id (List.mem_cons_of_mem _)

theorem ascending_insert {old new : String} {entries : RenameEntries}
    (ascending : entries.Ascending) : (insert old new entries).Ascending := by
  induction entries with
  | nil => simp [insert, Ascending]
  | cons head later ih =>
    have tail : Ascending later := List.Pairwise.of_cons ascending
    have above : ∀ entry ∈ later, head.1 < entry.1 := fun entry member =>
      List.rel_of_pairwise_cons ascending member
    rw [insert]
    split
    · next first =>
      refine List.Pairwise.cons (fun entry member => ?_) ascending
      rcases List.mem_cons.1 member with here | there
      · exact here ▸ first
      · exact String.lt_trans first (above entry there)
    · next notFirst =>
      split
      · next same => exact List.Pairwise.cons (fun entry member => same ▸ above entry member) tail
      · next different =>
        refine List.Pairwise.cons (fun entry member => ?_) (ih tail)
        rcases mem_insert member with here | there
        · subst here
          exact Std.lt_of_le_of_ne (String.not_lt.1 notFirst) (Ne.symm different)
        · exact above entry there

end RenameEntries

/-- New names for old ones. -/
structure RenameMap where
  entries : RenameEntries
  ascending : entries.Ascending
  deriving DecidableEq

namespace RenameMap

def empty : RenameMap := ⟨[], List.Pairwise.nil⟩

instance : Inhabited RenameMap := ⟨empty⟩

/-- A map with an entry added or, for an old name that it has, replaced. -/
def insert (map : RenameMap) (old new : String) : RenameMap :=
  ⟨map.entries.insert old new, RenameEntries.ascending_insert map.ascending⟩

def get? (map : RenameMap) (old : String) : Option String :=
  map.entries.get? old

/-- Entries added one after the other; of two with one old name the later stays. -/
def ofList (entries : List (String × String)) : RenameMap :=
  entries.foldl (fun map entry => map.insert entry.1 entry.2) empty

def toList (map : RenameMap) : List (String × String) := map.entries

def keys (map : RenameMap) : List String := map.entries.map (·.1)

theorem exists_get?_of_mem_keys {map : RenameMap} {old : String} (member : old ∈ map.keys) :
    ∃ new, map.get? old = some new := by
  obtain ⟨entry, present, rfl⟩ := List.mem_map.1 member
  refine Option.isSome_iff_exists.1 (List.lookup_isSome_iff.2 ?_)
  exact ⟨entry, present, beq_self_eq_true entry.1⟩

def size (map : RenameMap) : Nat := map.entries.length

def isEmpty (map : RenameMap) : Bool := map.entries.isEmpty

def contains (map : RenameMap) (old : String) : Bool := (map.get? old).isSome

/-- The old names whose new name is another old name of the map. -/
def chainedKeys (map : RenameMap) : List String :=
  (map.entries.filter fun entry => entry.1 != entry.2 && map.contains entry.2).map (·.1)

end RenameMap

end ClassRename
