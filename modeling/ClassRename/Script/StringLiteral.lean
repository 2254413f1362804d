import ClassRename.Text.Blank

/-!
# The value of a string literal

Between its quotes a string literal writes its value with escapes. Decoding gives a list of
*pieces*: characters, and surrogate code units that no partner completes. Both views of the value
are read off the pieces: the UTF-16 code units that the literal denotes, and the text in which it
is held, where a lone surrogate becomes U+FFFD and the four hexadecimal digits of its code.
-/

namespace ClassRename.Script

open ClassRename.Text

/-- One element of a decoded string literal. -/
inductive Piece where
  /-- A whole character. -/
  | char (c : Char)
  /-- A surrogate code unit without a partner. -/
  | surrogate (code : Nat)
  deriving DecidableEq, Repr

def hexDigit? (c : Char) : Option Nat :=
  if c.isDigit then some (c.toNat - '0'.toNat)
  else if 'a' ≤ c ∧ c ≤ 'f' then some (c.toNat - 'a'.toNat + 10)
  else if 'A' ≤ c ∧ c ≤ 'F' then some (c.toNat - 'A'.toNat + 10)
  else none

def hexPair? (a b : Char) : Option Nat := do
  return (← hexDigit? a) * 16 + (← hexDigit? b)

def hexQuad? (a b c d : Char) : Option Nat := do
  return (← hexPair? a b) * 256 + (← hexPair? c d)

def octalDigit? (c : Char) : Option Nat :=
  if '0' ≤ c ∧ c ≤ '7' then some (c.toNat - '0'.toNat) else none

/-- The piece that a code point stands for: a surrogate code is a piece of its own. -/
def Piece.ofCode (code : Nat) : Piece :=
  if 0xD800 ≤ code ∧ code ≤ 0xDFFF then .surrogate code else .char (Char.ofNat code)

/-- The character that a high and a low surrogate make together. -/
def astral (high low : Nat) : Char :=
  Char.ofNat (0x10000 + (high - 0xD800) * 0x400 + (low - 0xDC00))

/-- The character that a backslash and one letter write. -/
def simpleEscape (c : Char) : Char :=
  if c = 'n' then '\n' else if c = 't' then '\t' else if c = 'r' then '\r'
  else if c = 'b' then '\x08' else if c = 'f' then '\x0c' else if c = 'v' then '\x0b' else c

/-- Where decoding stands: between elements, or inside the braces of a code point escape with the
value of the digits read so far. -/
inductive Decoding where
  /-- Between two elements. -/
  | plain
  /-- Right after the opening brace of a code point escape. -/
  | opened
  /-- After at least one digit between the braces. -/
  | digits (value : Nat)

/-- Decode what stands between the quotes; `none` when an escape is malformed. -/
def decodeFrom : Decoding → List Char → Option (List Piece)
  | .plain, [] => some []
  | _, [] => none
  | .opened, c :: rest => do
    let digit ← hexDigit? c
    decodeFrom (.digits digit) rest
  | .digits value, c :: rest =>
    if c = '\x7d' then (Piece.ofCode value :: ·) <$> decodeFrom .plain rest
    else do
      let digit ← hexDigit? c
      let value := value * 16 + digit
      if value ≤ 0x10FFFF then decodeFrom (.digits value) rest else none
  | .plain, '\\' :: c :: rest =>
    if c = 'x' then
      match rest with
      | a :: b :: rest => do
        let code ← hexPair? a b
        (Piece.ofCode code :: ·) <$> decodeFrom .plain rest
      | _ => none
    else if c = 'u' then
      match rest with
      | '\x7b' :: rest => decodeFrom .opened rest
      | a :: b :: c :: d :: rest => do
        let high ← hexQuad? a b c d
        if 0xD800 ≤ high ∧ high ≤ 0xDBFF then
          match rest with
          | '\\' :: 'u' :: e :: f :: g :: h :: later => do
            let low ← hexQuad? e f g h
            if 0xDC00 ≤ low ∧ low ≤ 0xDFFF then
              (Piece.char (astral high low) :: ·) <$> decodeFrom .plain later
            else
              (Piece.surrogate high :: ·) <$>
                decodeFrom .plain ('\\' :: 'u' :: e :: f :: g :: h :: later)
          | '\\' :: 'u' :: _ => none
          | other => (Piece.surrogate high :: ·) <$> decodeFrom .plain other
        else
          (Piece.ofCode high :: ·) <$> decodeFrom .plain rest
      | _ => none
    else if c = '\r' then
      match rest with
      | '\n' :: rest => decodeFrom .plain rest
      | other => decodeFrom .plain other
    else if isLineEnd c then decodeFrom .plain rest
    else match octalDigit? c with
      | none => (Piece.char (simpleEscape c) :: ·) <$> decodeFrom .plain rest
      | some first =>
        match rest with
        | [] => (Piece.ofCode first :: ·) <$> decodeFrom .plain []
        | second :: after => match octalDigit? second with
          | none => (Piece.ofCode first :: ·) <$> decodeFrom .plain (second :: after)
          | some next =>
            if first ≤ 3 then
              match after with
              | [] => (Piece.ofCode (first * 8 + next) :: ·) <$> decodeFrom .plain []
              | third :: afterwards => match octalDigit? third with
                | none =>
                  (Piece.ofCode (first * 8 + next) :: ·) <$> decodeFrom .plain (third :: afterwards)
                | some last =>
                  (Piece.ofCode (first * 64 + next * 8 + last) :: ·) <$>
                    decodeFrom .plain afterwards
            else (Piece.ofCode (first * 8 + next) :: ·) <$> decodeFrom .plain after
  | .plain, c :: rest => (Piece.char c :: ·) <$> decodeFrom .plain rest

/-- Decode what stands between the quotes of a string literal. -/
def decodePieces (body : List Char) : Option (List Piece) :=
  decodeFrom .plain body

def hexChar (n : Nat) : Char :=
  if n < 10 then Char.ofNat ('0'.toNat + n) else Char.ofNat ('a'.toNat + (n - 10))

def hexText (code : Nat) : List Char :=
  [hexChar (code / 4096 % 16), hexChar (code / 256 % 16), hexChar (code / 16 % 16),
    hexChar (code % 16)]

/-- A piece where lone surrogates occur: a surrogate is U+FFFD and its code, and U+FFFD itself is
told apart from one by its own code. -/
def Piece.marked : Piece → List Char
  | .char c => if c = '\ufffd' then '\ufffd' :: hexText 0xFFFD else [c]
  | .surrogate code => '\ufffd' :: hexText code

/-- A piece where no lone surrogate occurs. -/
def Piece.unmarked : Piece → List Char
  | .char c => [c]
  | .surrogate _ => []

def Piece.isSurrogate : Piece → Bool
  | .char _ => false
  | .surrogate _ => true

/-- The text in which a decoded value is held. -/
def heldText (pieces : List Piece) : List Char :=
  if pieces.any Piece.isSurrogate then pieces.flatMap Piece.marked
  else pieces.flatMap Piece.unmarked

def Piece.units : Piece → List Nat
  | .char c =>
    if c.toNat < 0x10000 then [c.toNat]
    else [0xD800 + (c.toNat - 0x10000) / 0x400, 0xDC00 + (c.toNat - 0x10000) % 0x400]
  | .surrogate code => [code]

/-- The UTF-16 code units of a decoded value. -/
def codeUnits (pieces : List Piece) : List Nat :=
  pieces.flatMap Piece.units

/-- Split the text after an opening quote at the matching quote, which is dropped. An escaped
character never ends the literal; an unescaped line feed or carriage return leaves it open. -/
def splitAtQuote (quote : Char) : List Char → Option (List Char × List Char)
  | [] => none
  | '\\' :: '\r' :: '\n' :: rest => do
    let (body, after) ← splitAtQuote quote rest
    return ('\\' :: '\r' :: '\n' :: body, after)
  | '\\' :: c :: rest => do
    let (body, after) ← splitAtQuote quote rest
    return ('\\' :: c :: body, after)
  | c :: rest =>
    if c = quote then some ([], rest)
    else if c = '\n' ∨ c = '\r' then none
    else do
      let (body, after) ← splitAtQuote quote rest
      return (c :: body, after)

/-- The text is a string literal with the value. -/
def LiteralText (text : List Char) (value : String) : Prop :=
  ∃ quote body pieces, (quote = '"' ∨ quote = '\'') ∧ text = quote :: (body ++ [quote]) ∧
    splitAtQuote quote (body ++ [quote]) = some (body, []) ∧
    decodePieces body = some pieces ∧ value = String.ofList (heldText pieces)

/-- The text is an attribute string, which has no escapes, with the raw text. -/
def AttributeText (text : List Char) (raw : String) : Prop :=
  ∃ quote, (quote = '"' ∨ quote = '\'') ∧ quote ∉ raw.toList ∧
    text = quote :: (raw.toList ++ [quote])

end ClassRename.Script
