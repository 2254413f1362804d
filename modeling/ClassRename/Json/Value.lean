import ClassRename.Decimal.Text
import ClassRename.Json.Reader
import ClassRename.Text.Printable

/-!
# JSON values

A value is read as a tree whose containers nest less than 128 deep. A reader that wants one kind of
value only, such as an object of strings, stops at the first value of another kind.
-/

namespace ClassRename.Json

/-- A JSON value; an object keeps its members in the order of the text. -/
inductive Value where
  | null
  | bool (b : Bool)
  | number (n : Reader.Number)
  | string (text : String)
  | array (items : List Value)
  | object (members : List (String × Value))

instance : Inhabited Value := ⟨.null⟩

namespace Reader

variable {α : Type}

/-! ## Containers -/

/-- The items of an array after its opening bracket, which is not closed here. -/
def items (item : Reader α) : Nat → Bool → List α → Reader (List α)
  | 0, _, _ => failHere .listOpen
  | budget + 1, isFirst, found => do
    match ← peekAfterSpaces with
    | none => failHere .listOpen
    | some c =>
      if c = ']' then return found.reverse
      else if isFirst then items item budget false ((← item) :: found)
      else if c = ',' then
        skip
        match ← peekAfterSpaces with
        | none => failHere .valueMissing
        | some ']' => failNext .trailingComma
        | some _ => items item budget false ((← item) :: found)
      else failNext .listCommaOrEndExpected

def member (item : Reader α) : Reader (String × α) := do
  skip
  let key ← string
  match ← peekAfterSpaces with
  | none => failHere .objectOpen
  | some ':' =>
    skip
    return (key, ← item)
  | some _ => failNext .colonExpected

/-- The members of an object after its opening brace, which is not closed here. -/
def members (item : Reader α) : Nat → Bool → List (String × α) → Reader (List (String × α))
  | 0, _, _ => failHere .objectOpen
  | budget + 1, isFirst, found => do
    match ← peekAfterSpaces with
    | none => failHere .objectOpen
    | some c =>
      if c = '\x7d' then return found.reverse
      else if isFirst then
        if c = '"' then members item budget false ((← member item) :: found)
        else failNext .keyNotString
      else if c = ',' then
        skip
        match ← peekAfterSpaces with
        | none => failHere .valueMissing
        | some '"' => members item budget false ((← member item) :: found)
        | some '\x7d' => failNext .trailingComma
        | some _ => failNext .keyNotString
      else failNext .objectCommaOrEndExpected

def object (item : Reader α) : Reader (List (String × α)) := do
  skip
  let found ← members item ((← get).left + 1) true []
  skip
  return found

def array (item : Reader α) : Reader (List α) := do
  skip
  let found ← items item ((← get).left + 1) true []
  skip
  return found

/-! ## Values -/

/-- Any value whose containers nest less deep than the bound. -/
def value : Nat → Reader Value
  | 0 => failNext .tooDeep
  | depth + 1 => do
    match ← peekAfterSpaces with
    | none => failHere .valueMissing
    | some c =>
      if c = 'n' then
        skip
        word ['u', 'l', 'l']
        return .null
      else if c = 't' then
        skip
        word ['r', 'u', 'e']
        return .bool true
      else if c = 'f' then
        skip
        word ['a', 'l', 's', 'e']
        return .bool false
      else if c = '-' then
        skip
        return .number (← number false)
      else if c.isDigit then return .number (← number true)
      else if c = '"' then
        skip
        return .string (← string)
      else if c = '[' then
        if depth = 0 then failNext .tooDeep else return .array (← array (value depth))
      else if c = '\x7b' then
        if depth = 0 then failNext .tooDeep else return .object (← object (value depth))
      else failNext .valueExpected

def finished : Reader Unit := do
  match ← peekAfterSpaces with
  | none => return
  | some _ => failNext .trailingText

/-! ## One kind of value only -/

def Number.described : Number → String
  | .natural n => "integer `" ++ toString n ++ "`"
  | .negative n => "integer `-" ++ toString n ++ "`"
  | .decimal value => "floating point `" ++ Decimal.text value ++ "`"

/-- Refuse the value that the next character begins, since another kind is expected. -/
def refuse (expected : String) (c : Char) : Reader α := do
  if c = 'n' then
    skip
    word ['u', 'l', 'l']
    failHere (.mismatch "null" expected)
  else if c = 't' then
    skip
    word ['r', 'u', 'e']
    failHere (.mismatch "boolean `true`" expected)
  else if c = 'f' then
    skip
    word ['a', 'l', 's', 'e']
    failHere (.mismatch "boolean `false`" expected)
  else if c = '-' then
    skip
    failHere (.mismatch (← number false).described expected)
  else if c.isDigit then failHere (.mismatch (← number true).described expected)
  else if c = '"' then
    skip
    let text ← string
    failHere (.mismatch ("string " ++ Text.shown text) expected)
  else if c = '[' then failHere (.mismatch "sequence" expected)
  else if c = '\x7b' then failHere (.mismatch "map" expected)
  else failNext .valueExpected

def stringOnly : Reader String := do
  match ← peekAfterSpaces with
  | none => failHere .valueMissing
  | some c =>
    if c = '"' then
      skip
      string
    else refuse "a string" c

def stringMembers : Reader (List (String × String)) := do
  match ← peekAfterSpaces with
  | none => failHere .valueMissing
  | some c => if c = '\x7b' then object stringOnly else refuse "a map" c

end Reader

def readAll {α : Type} (reader : Reader α) (text : String) : Except Error α :=
  (do let value ← reader; Reader.finished; return value : Reader α).run'
    (Cursor.start text.toList)

end ClassRename.Json
