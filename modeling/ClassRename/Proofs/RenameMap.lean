import ClassRename.RenameMap
import Mathlib.Data.List.Sort

/-! # What a rename map holds

A map made from a list of entries holds entries of the list alone, and its old names are those of
the list, however often one of them is replaced on the way. It answers with the last entry of an old
name, and it is settled by its answers.
-/

namespace ClassRename

variable {old new key : String} {entry : String × String}

/-- Putting an entry in its place adds its old name. -/
theorem RenameEntries.mem_map_fst_insert_iff {entries : RenameEntries} :
    key ∈ (entries.insert old new).map (·.1) ↔ key = old ∨ key ∈ entries.map (·.1) := by
  induction entries with
  | nil => simp [RenameEntries.insert]
  | cons head later ih =>
    rw [RenameEntries.insert]
    split
    · simp
    · split
      · next same => simp [← same]
      · rw [List.map_cons, List.mem_cons, ih, List.map_cons, List.mem_cons]
        exact or_left_comm

/-- An entry is the answer for its old name, and else the later ones are asked. -/
theorem lookup_cons_eq_ite {α : Type} {value : α} {later : List (String × α)} :
    ((old, value) :: later).lookup key = if key = old then some value else later.lookup key := by
  rw [List.lookup_cons]
  by_cases here : key = old
  · simp [here]
  · rw [if_neg here, beq_eq_false_iff_ne.2 here]

/-- An entry that is put in its place is the answer for its old name. -/
theorem RenameEntries.get?_insert {entries : RenameEntries} :
    (entries.insert old new).get? key = if key = old then some new else entries.get? key := by
  unfold get?
  induction entries with
  | nil => exact lookup_cons_eq_ite
  | cons head later ih =>
    obtain ⟨old', new'⟩ := head
    rw [RenameEntries.insert]
    split
    · exact lookup_cons_eq_ite
    · split
      · next same =>
        subst same
        rw [lookup_cons_eq_ite, lookup_cons_eq_ite]
        split <;> rfl
      · next different =>
        rw [lookup_cons_eq_ite, lookup_cons_eq_ite, ih]
        split
        · next here => rw [if_neg (here ▸ Ne.symm different)]
        · rfl

/-- Where no name occurs twice, an entry is the answer for its name. -/
theorem lookup_eq_some_iff_mem {α : Type} {value : α} {entries : List (String × α)}
    (distinct : entries.Pairwise fun a b => a.1 ≠ b.1) :
    entries.lookup key = some value ↔ (key, value) ∈ entries := by
  induction entries with
  | nil => simp
  | cons head later ih =>
    obtain ⟨key', value'⟩ := head
    obtain ⟨notLater, distinct⟩ := List.pairwise_cons.1 distinct
    rw [lookup_cons_eq_ite, List.mem_cons, Prod.mk.injEq]
    split
    · next here =>
      subst here
      have fresh : (key, value) ∉ later := fun isLater => notLater _ isLater rfl
      simp [fresh, eq_comm]
    · next elsewhere => simp [elsewhere, ih distinct]

namespace RenameMap

variable {map : RenameMap} {entries : List (String × String)}

/-- What a map answers is an entry of it. -/
theorem mem_toList_of_get? (mapped : map.get? old = some new) : (old, new) ∈ map.toList := by
  obtain ⟨before, after, split, -⟩ := List.lookup_eq_some_iff.1 mapped
  rw [toList, split]
  exact List.mem_append_right _ List.mem_cons_self

/-- The old names of a map are those for which it has an answer. -/
theorem mem_keys_iff_exists_get? : old ∈ map.keys ↔ ∃ new, map.get? old = some new := by
  constructor
  · exact exists_get?_of_mem_keys
  · rintro ⟨new, mapped⟩
    exact List.mem_map_of_mem (mem_toList_of_get? mapped)

/-- Adding an entry adds its old name. -/
theorem mem_keys_insert_iff : key ∈ (map.insert old new).keys ↔ key = old ∨ key ∈ map.keys :=
  RenameEntries.mem_map_fst_insert_iff

/-- A map that grows by entries, one after the other. -/
def insertAll (map : RenameMap) (entries : List (String × String)) : RenameMap :=
  entries.foldl (fun map entry => map.insert entry.1 entry.2) map

/-- Entries that are added bring nothing but themselves. -/
theorem mem_toList_insertAll (member : entry ∈ (map.insertAll entries).toList) :
    entry ∈ entries ∨ entry ∈ map.toList := by
  induction entries generalizing map with
  | nil => exact .inr member
  | cons head later ih =>
    rcases ih member with added | kept
    · exact .inl (List.mem_cons_of_mem _ added)
    · rcases RenameEntries.mem_insert kept with rfl | earlier
      · exact .inl List.mem_cons_self
      · exact .inr earlier

/-- Entries that are added bring all their old names, and none is lost. -/
theorem mem_keys_insertAll_iff :
    key ∈ (map.insertAll entries).keys ↔ key ∈ entries.map (·.1) ∨ key ∈ map.keys := by
  induction entries generalizing map with
  | nil => simp [insertAll]
  | cons head later ih =>
    have step : key ∈ (map.insertAll (head :: later)).keys ↔
        key ∈ later.map (·.1) ∨ key ∈ (map.insert head.1 head.2).keys := ih
    rw [step, mem_keys_insert_iff, List.map_cons, List.mem_cons, or_assoc]
    exact or_left_comm

/-- A map holds only entries of the list that it is made from. -/
theorem mem_of_mem_toList_ofList (member : entry ∈ (ofList entries).toList) : entry ∈ entries :=
  (mem_toList_insertAll member).resolve_right List.not_mem_nil

/-- The old names of a map are those of the list that it is made from. -/
theorem mem_keys_ofList_iff : key ∈ (ofList entries).keys ↔ key ∈ entries.map (·.1) :=
  mem_keys_insertAll_iff.trans (or_iff_left List.not_mem_nil)

/-! ## Answers -/

/-- The old names of a map are distinct. -/
theorem toList_distinct (map : RenameMap) : map.toList.Pairwise fun a b => a.1 ≠ b.1 :=
  map.ascending.imp fun {_ _} first => Std.ne_of_lt first

theorem keys_nodup (map : RenameMap) : map.keys.Nodup :=
  List.pairwise_map.2 map.toList_distinct

/-- Entries that are added are the answers for their old names, the last one of several. -/
theorem get?_insertAll :
    (map.insertAll entries).get? key = (entries.reverse.lookup key).or (map.get? key) := by
  induction entries generalizing map with
  | nil => rfl
  | cons head later ih =>
    have step : (map.insertAll (head :: later)).get? key =
        (later.reverse.lookup key).or ((map.insert head.1 head.2).get? key) := ih
    have added : (map.insert head.1 head.2).get? key =
        if key = head.1 then some head.2 else map.get? key := RenameEntries.get?_insert
    rw [step, added, List.reverse_cons, List.lookup_append, Option.or_assoc, lookup_cons_eq_ite]
    split <;> rfl

/-- A map answers with the last entry of the list that it is made from. -/
theorem get?_ofList (entries : List (String × String)) (key : String) :
    (ofList entries).get? key = entries.reverse.lookup key :=
  get?_insertAll.trans Option.or_none

/-- Of two lists the later one is asked first. -/
theorem get?_ofList_append (entries entries' : List (String × String)) (key : String) :
    (ofList (entries ++ entries')).get? key =
      ((ofList entries').get? key).or ((ofList entries).get? key) := by
  simp only [get?_ofList, List.reverse_append, List.lookup_append]

/-- Maps with the same answers are one map. -/
theorem ext_get? {map map' : RenameMap} (same : ∀ old, map.get? old = map'.get? old) : map = map' := by
  have members (entry : String × String) : entry ∈ map.toList ↔ entry ∈ map'.toList := by
    rw [← lookup_eq_some_iff_mem map.toList_distinct, ← lookup_eq_some_iff_mem map'.toList_distinct]
    exact Eq.congr_left (same entry.1)
  have different (map : RenameMap) : map.toList.Nodup :=
    map.toList_distinct.imp fun apart same => apart (congrArg Prod.fst same)
  have perm := (List.perm_ext_iff_of_nodup (different map) (different map')).2 members
  have entries := perm.eq_of_pairwise (fun a b _ _ first second =>
    absurd (Std.lt_trans first second) (Std.lt_irrefl)) map.ascending map'.ascending
  cases map
  cases map'
  exact (RenameMap.mk.injEq ..).mpr entries

/-- A map is made from its entries. -/
theorem ofList_toList (map : RenameMap) : ofList map.toList = map := by
  refine ext_get? fun old => Option.ext fun new => ?_
  have reversed : map.toList.reverse.Pairwise fun a b => a.1 ≠ b.1 :=
    List.pairwise_reverse.2 (map.toList_distinct.imp Ne.symm)
  rw [get?_ofList, lookup_eq_some_iff_mem reversed, List.mem_reverse]
  exact (lookup_eq_some_iff_mem map.toList_distinct).symm

/-- Lists of entries make one map when they end in the same new name for each old one. -/
theorem ofList_eq_iff {entries entries' : List (String × String)} :
    ofList entries = ofList entries' ↔
      ∀ old, entries.reverse.lookup old = entries'.reverse.lookup old := by
  constructor
  · intro same old
    rw [← get?_ofList, same, get?_ofList]
  · intro same
    refine ext_get? fun old => ?_
    rw [get?_ofList, get?_ofList, same]

end RenameMap

end ClassRename
