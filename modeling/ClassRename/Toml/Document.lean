import ClassRename.Toml.Scalar
import ClassRename.Toml.Text

/-!
# TOML documents

A document is a list of statements, one to a line: a key with its value, or the header of the table
that the keys after it belong to. Only whether a text is a document and what it says are told, not
where it goes wrong.
-/

namespace ClassRename.Toml

abbrev Reader := StateT (List Char) Option

namespace Reader

variable {α : Type}

/-- Names and values nest less deep than this. -/
def depthLimit : Nat := 80

def peek : Reader (Option Char) := return (← get).head?

def expect (c : Char) : Reader Unit := do
  match ← get with
  | c' :: rest => if c' = c then set rest else failure
  | [] => failure

/-- Read what a function finds at the front of the text. -/
def taking (front : List Char → Option (α × List Char)) : Reader α := fun text => front text

def skipBlanks : Reader Unit := modify (·.dropWhile isBlank)

/-- What follows a comment that may stand here. -/
def afterComment : List Char → List Char
  | '#' :: rest => rest.dropWhile isPlain
  | rest => rest

/-- Pass over the rest of a line, which may hold a comment only. -/
def lineEnd : Reader Unit := do
  skipBlanks
  modify afterComment
  match ← get with
  | [] => return
  | '\n' :: rest => set rest
  | '\r' :: '\n' :: rest => set rest
  | _ => failure

/-- What follows blanks, line ends and comments; `inComment` tells that a comment has begun. -/
def afterFiller : (inComment : Bool) → List Char → List Char
  | _, [] => []
  | _, '\n' :: rest => afterFiller false rest
  | _, '\r' :: '\n' :: rest => afterFiller false rest
  | inComment, c :: rest =>
    if inComment then (if isPlain c then afterFiller true rest else c :: rest)
    else if isBlank c then afterFiller false rest
    else if c = '#' then afterFiller true rest
    else c :: rest

def skipFiller : Reader Unit := modify (afterFiller false)

/-! ## Keys -/

def isNameChar (c : Char) : Bool := c.isAlphanum || c == '-' || c == '_'

def name : Reader String := do
  match ← peek with
  | some '"' => taking lineString?
  | some '\'' => taking lineString?
  | _ =>
    let text ← get
    let name := text.takeWhile isNameChar
    if name = [] then failure
    set (text.dropWhile isNameChar)
    return String.ofList name

/-- The names of a key, with dots and blanks between them; `budget` bounds their number. -/
def names : (budget : Nat) → Reader (List String)
  | 0 => failure
  | budget + 1 => do
    skipBlanks
    let first ← name
    skipBlanks
    match ← peek with
    | some '.' =>
      expect '.'
      return first :: (← names budget)
    | _ => return [first]

/-- A key: the names before its last dot, and its last name. -/
def key : Reader (List String × String) := do
  let all ← names (depthLimit - 1)
  match all.getLast? with
  | none => failure
  | some last => return (all.dropLast, last)

/-! ## Values -/

/-- The items of an array after its opening bracket; `budget` bounds their number. -/
def items (item : Reader Value) : (budget : Nat) → Reader (List Value)
  | 0 => failure
  | budget + 1 => do
    skipFiller
    match ← peek with
    | some ']' =>
      expect ']'
      return []
    | _ =>
      let first ← item
      skipFiller
      match ← peek with
      | some ',' =>
        expect ','
        return first :: (← items item budget)
      | _ =>
        expect ']'
        return [first]

/-- A key with its value, added to the members so far. -/
def addMember (item : Reader Value) (members : Members) : Reader Members := do
  let (path, last) ← key
  expect '='
  skipBlanks
  let value ← item
  match members.addValue? path last value .named with
  | none => failure
  | some members => return members

/-- The members of a table in braces from one of its keys on; `budget` bounds their number. -/
def members (item : Reader Value) : (budget : Nat) → Members → Reader Members
  | 0, _ => failure
  | budget + 1, found => do
    let found ← addMember item found
    skipBlanks
    match ← peek with
    | some ',' =>
      expect ','
      members item budget found
    | _ =>
      expect '\x7d'
      return found

/-- A value whose arrays and tables nest less deep than the bound. -/
def value : (depth : Nat) → Reader Value
  | 0 => failure
  | depth + 1 => do
    match ← peek with
    | some '"' => return .string (← taking string?)
    | some '\'' => return .string (← taking string?)
    | some '[' =>
      if depth = 0 then failure
      expect '['
      return .array (← items (value depth) ((← get).length + 1))
    | some '\x7b' =>
      if depth = 0 then failure
      expect '\x7b'
      skipBlanks
      match ← peek with
      | some '\x7d' =>
        expect '\x7d'
        return .table []
      | _ =>
        let found ← members (value depth) ((← get).length + 1) []
        return .table (finishedMembers found)
    | _ => taking scalar?

end Reader

/-! ## Statements -/

/-- A document of which some statements are read. -/
structure Document where
  /-- What its tables hold so far. -/
  members : Members
  /-- The table that keys belong to. -/
  current : List String

namespace Document

open Reader

def empty : Document := ⟨[], []⟩

/-- The document after a key with its value. -/
def addValue? (document : Document) (path : List String) (name : String) (value : Value) :
    Option Document :=
  (document.members.change? .implied (Members.addValue? path name value) document.current
    .named).map fun members => { document with members }

def assignment (document : Document) : Reader Document := do
  let (path, last) ← key
  expect '='
  skipBlanks
  let value ← value depthLimit
  lineEnd
  document.addValue? path last value

def header (document : Document) : Reader Document := do
  expect '['
  if (← peek) = some '[' then
    expect '['
    let (path, last) ← key
    expect ']'
    expect ']'
    lineEnd
    let members ← (document.members.addToTables? path last : Option Members)
    return { members, current := path ++ [last] }
  else
    let (path, last) ← key
    expect ']'
    lineEnd
    let members ← (document.members.addTable? path last : Option Members)
    return { members, current := path ++ [last] }

/-- Read all statements; `budget` bounds the number of lines. -/
def statements : (budget : Nat) → Document → Reader Document
  | 0, _ => failure
  | budget + 1, document => do
    skipBlanks
    match ← get with
    | [] => return document
    | '\n' :: _ =>
      lineEnd
      statements budget document
    | '\r' :: _ =>
      lineEnd
      statements budget document
    | '#' :: _ =>
      lineEnd
      statements budget document
    | '[' :: _ => statements budget (← header document)
    | _ => statements budget (← assignment document)

end Document

/-- The members of the table that a text writes. A byte order mark may come first. -/
def parse? (text : String) : Option (List (String × Value)) := do
  let text := match text.toList with
    | '\ufeff' :: rest => rest
    | rest => rest
  let (document, _) ← Document.statements (text.length + 1) Document.empty text
  return finishedMembers document.members

end ClassRename.Toml
