import ClassRename.Script.StringLiteral

/-!
# Strings of a TOML document

A string stands in double quotes, with escapes, or in single quotes, without; three quotes let it
run over several lines. Each reader starts after the opening quotes and gives the value together with
what follows the closing quotes.
-/

namespace ClassRename.Toml

/-- Blanks are the space and the tab. -/
def isBlank (c : Char) : Bool := c == ' ' || c == '\t'

/-- Characters other than controls may be written as they are, and so may the tab. -/
def isPlain (c : Char) : Bool := c == '\t' || (0x20 ≤ c.toNat && c.toNat != 0x7f)

def simpleEscape? (c : Char) : Option Char :=
  if c = 'b' then some '\x08'
  else if c = 't' then some '\t'
  else if c = 'n' then some '\n'
  else if c = 'f' then some '\x0c'
  else if c = 'r' then some '\r'
  else if c = '"' then some '"'
  else if c = '\\' then some '\\'
  else none

def charOf? (code : Nat) : Option Char :=
  if h : code.isValidChar then some (Char.ofNatAux code h) else none

/-- Put a character before the value that is read next. -/
def andThen (c : Char) (next : Option (List Char × List Char)) : Option (List Char × List Char) :=
  next.map fun (value, rest) => (c :: value, rest)

/-- A string in double quotes on one line. -/
def basicBody : List Char → Option (List Char × List Char)
  | [] => none
  | '\\' :: 'u' :: a :: b :: c :: d :: rest =>
    ((Script.hexQuad? a b c d).bind charOf?).bind fun char => andThen char (basicBody rest)
  | '\\' :: 'U' :: a :: b :: c :: d :: e :: f :: g :: h :: rest => do
    let high ← Script.hexQuad? a b c d
    let low ← Script.hexQuad? e f g h
    andThen (← charOf? (high * 0x10000 + low)) (basicBody rest)
  | '\\' :: c :: rest => (simpleEscape? c).bind fun char => andThen char (basicBody rest)
  | c :: rest =>
    if c = '"' then some ([], rest)
    else if c ≠ '\\' ∧ isPlain c then andThen c (basicBody rest)
    else none

/-- A string in single quotes on one line. -/
def literalBody : List Char → Option (List Char × List Char)
  | [] => none
  | c :: rest =>
    if c = '\'' then some ([], rest)
    else if isPlain c then andThen c (literalBody rest)
    else none

/-- Where three quotes end a string, up to two more before them belong to it: the value that is left
and what follows. -/
def closing? (quote : Char) : List Char → Option (List Char × List Char)
  | a :: b :: c :: rest =>
    if a = quote ∧ b = quote ∧ c = quote then
      match rest with
      | d :: e :: later =>
        if d = quote ∧ e = quote then some ([quote, quote], later)
        else if d = quote then some ([quote], e :: later)
        else some ([], d :: e :: later)
      | [d] => if d = quote then some ([quote], []) else some ([], [d])
      | [] => some ([], [])
    else none
  | _ => none

def atLineEnd : List Char → Bool
  | '\n' :: _ => true
  | '\r' :: '\n' :: _ => true
  | _ => false

/-- A string over several lines. With escapes, a backslash at a line's end joins the lines: `joining`
tells that blanks and line ends are passed over since one. -/
def linesBody (quote : Char) (escapes : Bool) :
    (joining : Bool) → List Char → Option (List Char × List Char)
  | _, [] => none
  | joining, '\r' :: '\n' :: rest =>
    if joining then linesBody quote escapes true rest
    else andThen '\n' (linesBody quote escapes false rest)
  | joining, '\n' :: rest =>
    if joining then linesBody quote escapes true rest
    else andThen '\n' (linesBody quote escapes false rest)
  | _, '\\' :: rest =>
    if !escapes then andThen '\\' (linesBody quote escapes false rest)
    else if atLineEnd (rest.dropWhile isBlank) then linesBody quote escapes true rest
    else match rest with
      | 'u' :: a :: b :: c :: d :: rest =>
        ((Script.hexQuad? a b c d).bind charOf?).bind fun char =>
          andThen char (linesBody quote escapes false rest)
      | 'U' :: a :: b :: c :: d :: e :: f :: g :: h :: rest => do
        let high ← Script.hexQuad? a b c d
        let low ← Script.hexQuad? e f g h
        andThen (← charOf? (high * 0x10000 + low)) (linesBody quote escapes false rest)
      | c :: rest =>
        (simpleEscape? c).bind fun char => andThen char (linesBody quote escapes false rest)
      | [] => none
  | joining, c :: rest =>
    if joining ∧ isBlank c then linesBody quote escapes true rest
    else match closing? quote (c :: rest) with
      | some (value, rest) => some (value, rest)
      | none => if isPlain c then andThen c (linesBody quote escapes false rest) else none

/-- What follows a line end right after the opening quotes. -/
def afterLineEnd : List Char → List Char
  | '\n' :: rest => rest
  | '\r' :: '\n' :: rest => rest
  | rest => rest

def lineString? : List Char → Option (String × List Char)
  | '"' :: rest => (basicBody rest).map fun (value, rest) => (String.ofList value, rest)
  | '\'' :: rest => (literalBody rest).map fun (value, rest) => (String.ofList value, rest)
  | _ => none

def string? : List Char → Option (String × List Char)
  | '"' :: '"' :: '"' :: rest =>
    (linesBody '"' true false (afterLineEnd rest)).map fun (value, rest) =>
      (String.ofList value, rest)
  | '\'' :: '\'' :: '\'' :: rest =>
    (linesBody '\'' false false (afterLineEnd rest)).map fun (value, rest) =>
      (String.ofList value, rest)
  | text => lineString? text

end ClassRename.Toml
