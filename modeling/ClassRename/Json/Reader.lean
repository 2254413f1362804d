import ClassRename.Json.Error
import ClassRename.Script.StringLiteral
import ClassRename.Span

/-!
# Reading the parts of a JSON text

Blanks, words, numbers and strings, each read from a cursor that knows its line and column. The
readers of values are built from these.
-/

namespace ClassRename.Json

/-- The text that is left to read, its size in bytes, and the place where it begins. -/
structure Cursor where
  rest : List Char
  left : Nat
  place : Place

namespace Cursor

def start (text : List Char) : Cursor :=
  { rest := text, left := byteLength text, place := ⟨1, 0⟩ }

/-- The place after a number of bytes of the character. -/
def placeAfter (place : Place) (c : Char) (bytes : Nat) : Place :=
  if c = '\n' then ⟨place.line + 1, 0⟩ else ⟨place.line, place.column + bytes⟩

def step (cursor : Cursor) (c : Char) (rest : List Char) : Cursor :=
  { rest, left := cursor.left - c.utf8Size, place := placeAfter cursor.place c c.utf8Size }

/-- The place after the next byte, or the end of the text. -/
def nextPlace (cursor : Cursor) : Place :=
  match cursor.rest with
  | [] => cursor.place
  | c :: _ => placeAfter cursor.place c 1

/-- The place after a number of bytes; `none` when fewer are left. -/
def placeAfterBytes? : Nat → Place → List Char → Option Place
  | 0, place, _ => some place
  | _ + 1, _, [] => none
  | bytes, place, c :: rest =>
    if c.utf8Size ≤ bytes then
      placeAfterBytes? (bytes - c.utf8Size) (placeAfter place c c.utf8Size) rest
    else some (placeAfter place c bytes)

/-- The place after all that is left. -/
def endPlace (cursor : Cursor) : Place :=
  cursor.rest.foldl (fun place c => placeAfter place c c.utf8Size) cursor.place

end Cursor

/-- A step over a JSON text. -/
abbrev Reader := StateT Cursor (Except Error)

namespace Reader

/-- Refuse the text for a fault that shows before the cursor. -/
def failHere {α : Type} (fault : Fault) : Reader α := fun cursor =>
  .error ⟨fault, some cursor.place⟩

/-- Refuse the text for a fault that shows in the next byte. -/
def failNext {α : Type} (fault : Fault) : Reader α := fun cursor =>
  .error ⟨fault, some cursor.nextPlace⟩

def peek : Reader (Option Char) := return (← get).rest.head?

def take : Reader (Option Char) := fun cursor =>
  match cursor.rest with
  | [] => .ok (none, cursor)
  | c :: rest => .ok (some c, cursor.step c rest)

def skip : Reader Unit := discard take

def isSpace (c : Char) : Bool := c == ' ' || c == '\n' || c == '\t' || c == '\r'

def afterSpaces : List Char → Cursor → Cursor
  | c :: rest, cursor => if isSpace c then afterSpaces rest (cursor.step c rest) else cursor
  | [], cursor => cursor

/-- Pass over blanks and give the next character. -/
def peekAfterSpaces : Reader (Option Char) := fun cursor =>
  let cursor := afterSpaces cursor.rest cursor
  .ok (cursor.rest.head?, cursor)

def word : List Char → Reader Unit
  | [] => return
  | expected :: more => do
    match ← peek with
    | none => failHere .valueMissing
    | some c =>
      if c = expected then
        skip
        word more
      else failNext .wordExpected

/-! ## Strings -/

/-- The number that the next four bytes write in hexadecimal. -/
def hexQuad : Reader Nat := fun cursor =>
  match Cursor.placeAfterBytes? 4 cursor.place cursor.rest with
  | none => .error ⟨.stringOpen, some cursor.endPlace⟩
  | some place =>
    match cursor.rest with
    | a :: b :: c :: d :: rest =>
      match Script.hexQuad? a b c d with
      | some code => .ok (code, { rest, left := cursor.left - 4, place })
      | none => .error ⟨.invalidEscape, some place⟩
    | _ => .error ⟨.invalidEscape, some place⟩

/-- The character that an escape after a backslash and `u` writes. -/
def unicodeEscape : Reader Char := do
  let code ← hexQuad
  if 0xDC00 ≤ code ∧ code ≤ 0xDFFF then failHere .loneSurrogate
  else if 0xD800 ≤ code ∧ code ≤ 0xDBFF then
    match ← peek with
    | none => failHere .stringOpen
    | some '\\' =>
      skip
      match ← peek with
      | none => failHere .stringOpen
      | some 'u' =>
        skip
        let low ← hexQuad
        if 0xDC00 ≤ low ∧ low ≤ 0xDFFF then return Script.astral code low
        else failHere .loneSurrogate
      | some _ => failNext .surrogateOpen
    | some _ => failNext .surrogateOpen
  else return Char.ofNat code

/-- The character that an escape after a backslash writes. -/
def escape : Reader Char := do
  match ← peek with
  | none => failHere .stringOpen
  | some c =>
    if c = 'u' then
      skip
      unicodeEscape
    else
      let value? : Option Char :=
        if c = '"' ∨ c = '\\' ∨ c = '/' then some c
        else if c = 'b' then some '\x08'
        else if c = 'f' then some '\x0c'
        else if c = 'n' then some '\n'
        else if c = 'r' then some '\r'
        else if c = 't' then some '\t'
        else none
      match value? with
      | some value =>
        skip
        return value
      | none => failNext .invalidEscape

/-- The characters of a string up to its closing quote; `budget` bounds their number. -/
def stringBody : Nat → List Char → Reader (List Char)
  | 0, _ => failHere .stringOpen
  | budget + 1, found => do
    match ← peek with
    | none => failHere .stringOpen
    | some c =>
      if c = '"' then
        skip
        return found.reverse
      else if c = '\\' then
        skip
        stringBody budget ((← escape) :: found)
      else if c.toNat < 0x20 then failNext .controlCharacter
      else
        skip
        stringBody budget (c :: found)

def string : Reader String := do
  return String.ofList (← stringBody ((← get).left + 1) [])

/-! ## Numbers -/

/-- A number: whole numbers of 64 bits are kept apart from fractions. -/
inductive Number where
  | natural (n : Nat)
  | negative (n : Nat)
  | decimal (value : Float)

/-- Numbers up to here are kept whole. -/
def naturalLimit : Nat := Nat.pow 2 64

/-- Digits that follow, as long as the number that they make with those before stays below the limit:
that number, the count of digits taken, and whether one was left because of the limit. -/
def digits : Nat → Nat → Nat → Reader (Nat × Nat × Bool)
  | 0, value, count => return (value, count, false)
  | budget + 1, value, count => do
    match ← peek with
    | some c =>
      if c.isDigit then
        let value' := value * 10 + (c.toNat - '0'.toNat)
        if value' < naturalLimit then
          skip
          digits budget value' (count + 1)
        else return (value, count, true)
      else return (value, count, false)
    | none => return (value, count, false)

def skipDigits : Nat → Nat → Reader Nat
  | 0, count => return count
  | budget + 1, count => do
    match ← peek with
    | some c =>
      if c.isDigit then
        skip
        skipDigits budget (count + 1)
      else return count
    | none => return count

def powerOfTen (exponent : Nat) : Float := Float.ofScientific 1 false exponent

/-- A significand times a power of ten, by one multiplication or division for each 308 powers; `none`
when it is too large. -/
def scaled : Nat → Float → Int → Option Float
  | 0, value, _ => some value
  | budget + 1, value, exponent =>
    if exponent.natAbs ≤ 308 then
      if exponent ≥ 0 then
        let value := value * powerOfTen exponent.natAbs
        if value.isInf then none else some value
      else some (value / powerOfTen exponent.natAbs)
    else if value == 0.0 then some value
    else if exponent ≥ 0 then none
    else scaled budget (value / powerOfTen 308) (exponent + 308)

def fromParts (positive : Bool) (significand : Nat) (exponent : Int) : Reader Number := do
  match scaled 10000000 (Float.ofNat significand) exponent with
  | none => failHere .numberOutOfRange
  | some value => return .decimal (if positive then value else -value)

/-- Exponents stay within 32 bits. -/
def exponentLimit : Int := Int.pow 2 31

def clampExponent (exponent : Int) : Int :=
  if exponent ≥ exponentLimit then exponentLimit - 1
  else if exponent < -exponentLimit then -exponentLimit
  else exponent

/-- The digits of an exponent after the first; `none` when they pass 32 bits. -/
def exponentDigits : Nat → Int → Reader (Option Int)
  | 0, value => return some value
  | budget + 1, value => do
    match ← peek with
    | some c =>
      if c.isDigit then
        skip
        let value := value * 10 + (c.toNat - '0'.toNat)
        if value < exponentLimit then exponentDigits budget value else return none
      else return some value
    | none => return some value

/-- A number from its exponent mark on. -/
def exponentPart (positive : Bool) (significand : Nat) (starting : Int) : Reader Number := do
  skip
  let positiveExponent ← match ← peek with
    | some '+' => do skip; pure true
    | some '-' => do skip; pure false
    | _ => pure true
  match ← peek with
  | none => failHere .valueMissing
  | some c =>
    if !c.isDigit then failNext .invalidNumber
    skip
    match ← exponentDigits ((← get).left + 1) (c.toNat - '0'.toNat) with
    | none =>
      if significand ≠ 0 ∧ positiveExponent then failHere .numberOutOfRange
      let _ ← skipDigits ((← get).left + 1) 0
      return .decimal (if positive then 0.0 else -0.0)
    | some exponent =>
      let exponent := if positiveExponent then starting + exponent else starting - exponent
      fromParts positive significand (clampExponent exponent)

def seesExponent : Reader Bool := do
  let next ← peek
  return next == some 'e' || next == some 'E'

/-- A number from its point on; `starting` digits before the point were left out. -/
def fractionPart (positive : Bool) (significand : Nat) (starting : Int) : Reader Number := do
  skip
  let (significand, count, full) ← digits ((← get).left + 1) significand 0
  if full then
    let _ ← skipDigits ((← get).left + 1) 0
  else if count = 0 then
    match ← peek with
    | some _ => failNext .invalidNumber
    | none => failHere .valueMissing
  let exponent := starting - count
  if ← seesExponent then exponentPart positive significand exponent
  else fromParts positive significand exponent

def number (positive : Bool) : Reader Number := do
  match ← peek with
  | none => failHere .valueMissing
  | some c =>
    if !c.isDigit then failNext .invalidNumber
    skip
    let (significand, full) ← do
      if c = '0' then
        match ← peek with
        | some d => if d.isDigit then failNext .invalidNumber
        | none => pure ()
        pure (0, false)
      else
        let (value, _, full) ← digits ((← get).left + 1) (c.toNat - '0'.toNat) 0
        pure (value, full)
    let dropped ← if full then skipDigits ((← get).left + 1) 0 else pure 0
    match ← peek with
    | some '.' => fractionPart positive significand dropped
    | _ =>
      if ← seesExponent then exponentPart positive significand dropped
      else if full then fromParts positive significand dropped
      else if positive then return .natural significand
      else if significand = 0 ∨ significand > Nat.pow 2 63 then
        return .decimal (-Float.ofNat significand)
      else return .negative significand

end Reader

end ClassRename.Json
