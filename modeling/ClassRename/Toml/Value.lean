/-!
# TOML values and the tables that statements build

A document is a table that grows statement by statement. How a table came to be decides what may
still be added to it: a header may name a table once, and the dots of a key lead only into tables
that no header has named.
-/

namespace ClassRename.Toml

/-- A finished value. -/
inductive Value where
  | string (text : String)
  | integer (value : Int)
  | decimal (text : String)
  | boolean (value : Bool)
  /-- A date, a time, or both. -/
  | moment (text : String)
  | array (items : List Value)
  | table (members : List (String × Value))
  deriving Repr

instance : Inhabited Value := ⟨.boolean false⟩

/-- How a table came to be. -/
inductive Origin where
  /-- A header or a brace names it. -/
  | named
  /-- A header names a table inside of it. -/
  | implied
  /-- The dots of a key lead into it. -/
  | dotted
  deriving DecidableEq, Repr

/-- What a name stands for in a table that may still grow. -/
inductive Entry where
  | value (value : Value)
  | table (origin : Origin) (members : List (String × Entry))
  /-- Tables that share a header: the latest one, and those before it with the latest first. -/
  | tables (latest : List (String × Entry)) (earlier : List (List (String × Entry)))

abbrev Members := List (String × Entry)

namespace Members

def replace (name : String) (entry : Entry) (members : Members) : Members :=
  members.map fun member => if member.1 = name then (name, entry) else member

/-- Change the table that a path leads to. Tables that are missing on the way are made, with
`made` as their origin, and of tables that share a header the latest is meant. Dots do not lead into
a table that has a name already. -/
def change? (made : Origin) (final : Origin → Members → Option Members) :
    List String → Origin → Members → Option Members
  | [], origin, members => final origin members
  | name :: path, _, members =>
    match members.lookup name with
    | none =>
      (change? made final path made []).map fun inner => members ++ [(name, .table made inner)]
    | some (.value _) => none
    | some (.table origin inner) =>
      if made = .dotted ∧ origin = .named then none
      else (change? made final path origin inner).map fun inner =>
        members.replace name (.table origin inner)
    | some (.tables latest earlier) =>
      (change? made final path .named latest).map fun latest =>
        members.replace name (.tables latest earlier)

/-- Add a value under a dotted key, given as the names before its last dot and the last name. -/
def addValue? (path : List String) (name : String) (value : Value) (origin : Origin)
    (members : Members) : Option Members :=
  let final (origin : Origin) (members : Members) : Option Members :=
    if origin = .dotted ↔ path = [] then none
    else if (members.lookup name).isSome then none
    else some (members ++ [(name, .value value)])
  change? .dotted final path origin members

def addTable? (path : List String) (name : String) (members : Members) : Option Members :=
  let final (_ : Origin) (members : Members) : Option Members :=
    match members.lookup name with
    | none => some (members ++ [(name, .table .named [])])
    | some (.table .implied inner) => some (members.replace name (.table .named inner))
    | some _ => none
  change? .implied final path .named members

/-- Begin one more of the tables that share a header. -/
def addToTables? (path : List String) (name : String) (members : Members) : Option Members :=
  let final (_ : Origin) (members : Members) : Option Members :=
    match members.lookup name with
    | none => some (members ++ [(name, .tables [] [])])
    | some (.tables latest earlier) => some (members.replace name (.tables [] (latest :: earlier)))
    | some _ => none
  change? .implied final path .named members

end Members

mutual

def Entry.finished : Entry → Value
  | .value value => value
  | .table _ members => .table (finishedMembers members)
  | .tables latest earlier =>
    .array ((Value.table (finishedMembers latest) :: finishedTables earlier).reverse)

def finishedMembers : List (String × Entry) → List (String × Value)
  | [] => []
  | (name, entry) :: later => (name, entry.finished) :: finishedMembers later

def finishedTables : List (List (String × Entry)) → List Value
  | [] => []
  | members :: later => .table (finishedMembers members) :: finishedTables later

end

end ClassRename.Toml
