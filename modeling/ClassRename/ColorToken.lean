import ClassRename.Json.Value
import ClassRename.Json.Writer

/-!
# Colour tokens

A token file names colours in a tree of groups, either by itself or inside a theme. A colour's path
is made of the names of the groups that lead to it and its own name, with hyphens between.
-/

namespace ClassRename

/-- A colour, or a group of further tokens in the order of the file. -/
inductive ColorToken where
  /-- The value of a colour. -/
  | color (text : String)
  /-- Named tokens. -/
  | group (members : List (String × ColorToken))

namespace ColorToken

instance : Inhabited ColorToken := ⟨.color ""⟩

/-- A path with a further name. -/
def extend (path name : String) : String :=
  if path.isEmpty then name else path ++ "-" ++ name

mutual

/-- The colours of a tree with their paths, each path beginning with `path`; a colour without a path
is left out. -/
def flattenFrom (path : String) : ColorToken → List (String × String)
  | .color text => if path.isEmpty then [] else [(path, text)]
  | .group members => flattenMembers path members

def flattenMembers (path : String) : List (String × ColorToken) → List (String × String)
  | [] => []
  | member :: later => flattenMember path member ++ flattenMembers path later

def flattenMember (path : String) : String × ColorToken → List (String × String)
  | (name, token) => flattenFrom (extend path name) token

end

def flatten (token : ColorToken) : List (String × String) := flattenFrom "" token

/-- Named tokens with one added; a token of the same name gives way and leaves its place. -/
def put (name : String) (token : ColorToken) :
    List (String × ColorToken) → List (String × ColorToken)
  | [] => [(name, token)]
  | (name', token') :: later =>
    if name' = name then (name, token) :: later else (name', token') :: put name token later

mutual

/-- The tree that a JSON value gives, if all its leaves are strings. -/
def ofValue? : Json.Value → Option ColorToken
  | .string text => some (.color text)
  | .object members => (ofMembers? [] members).map .group
  | _ => none

/-- The named trees that an object's members give, after those in `found`. -/
def ofMembers? (found : List (String × ColorToken)) :
    List (String × Json.Value) → Option (List (String × ColorToken))
  | [] => some found
  | member :: later => do
    let (name, token) ← ofMember? member
    ofMembers? (put name token found) later

def ofMember? : String × Json.Value → Option (String × ColorToken)
  | (name, value) => (ofValue? value).map (name, ·)

end

/-- The value of the one member with the name; `none` when there are several or none. -/
def onlyMember? (name : String) (members : List (String × Json.Value)) : Option Json.Value :=
  match members.filter (·.1 == name) with
  | [(_, value)] => some value
  | _ => none

/-- The tree of a file that keeps it as the colours of a theme. A theme may also be an array of its
colours alone. -/
def ofTheme? : Json.Value → Option ColorToken
  | .object members => do
    match ← onlyMember? "theme" members with
    | .object theme => ofValue? (← onlyMember? "colors" theme)
    | .array [colors] => ofValue? colors
    | _ => none
  | _ => none

/-- Read a token file: the colours of its theme if it has one, and else the file as a tree. -/
def reader : Json.Reader ColorToken := do
  let value ← Json.Reader.value 128
  match (ofTheme? value).or (ofValue? value) with
  | some token => return token
  | none => throw ⟨.noShapeFits "TokenFile", none⟩

def parse (text : String) : Except Json.Error ColorToken :=
  Json.readAll reader text

mutual

def written : ColorToken → List Char
  | .color text => Json.writtenString text
  | .group members => '\x7b' :: writtenMembers members ++ ['\x7d']

def writtenMembers : List (String × ColorToken) → List Char
  | [] => []
  | [member] => writtenMember member
  | member :: later => writtenMember member ++ ',' :: writtenMembers later

def writtenMember : String × ColorToken → List Char
  | (name, token) => Json.writtenString name ++ ':' :: token.written

end

/-- A tree as JSON on one line. -/
def toJson (token : ColorToken) : String := String.ofList token.written

end ColorToken

end ClassRename
