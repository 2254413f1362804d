import ClassRename.Script.Token
import ClassRename.Script.StringLiteral
import ClassRename.Text.Identifier

/-!
# Scanning one token

Each scanner looks at the text that remains and gives the lexeme it finds there, the size of that
lexeme in bytes, and the text after it.
-/

namespace ClassRename.Script

open ClassRename.Text

structure Scanned where
  /-- What was found. -/
  lexeme : Lexeme
  /-- Its size in bytes. -/
  size : Nat
  /-- The text after it. -/
  rest : List Char

/-! ## Blanks and comments -/

/-- What is being skipped between two tokens. -/
inductive Skipping where
  | blanks
  | lineComment
  | blockComment
  /-- The second sign of the two that open or close a block comment; `next` comes after it. -/
  | commentSign (next : Skipping)

/-- Whether an HTML comment is in view: `<!--` anywhere, and `-->` where a line ended before it. -/
def opensHtmlComment (lineEnded : Bool) (text : List Char) : Bool :=
  ['<', '!', '-', '-'].isPrefixOf text || (lineEnded && ['-', '-', '>'].isPrefixOf text)

/-- Skip blanks and comments. The answer is the size skipped, the text after it, and whether a line
ended in between; `none` when a block comment is left open. With `htmlComments`, an HTML comment is
one to the end of its line. -/
def skipBlanks (htmlComments : Bool) :
    Skipping → List Char → Nat → Bool → Option (Nat × List Char × Bool)
  | .blanks, [], size, lineEnded => some (size, [], lineEnded)
  | .lineComment, [], size, lineEnded => some (size, [], lineEnded)
  | _, [], _, _ => none
  | .commentSign next, c :: rest, size, lineEnded =>
    skipBlanks htmlComments next rest (size + c.utf8Size) lineEnded
  | .blockComment, c :: rest, size, lineEnded =>
    if c = '*' ∧ rest.head? = some '/' then
      skipBlanks htmlComments (.commentSign .blanks) rest (size + c.utf8Size) lineEnded
    else
      skipBlanks htmlComments .blockComment rest (size + c.utf8Size) (lineEnded || isLineEnd c)
  | .lineComment, c :: rest, size, lineEnded =>
    if isLineEnd c then skipBlanks htmlComments .blanks rest (size + c.utf8Size) true
    else skipBlanks htmlComments .lineComment rest (size + c.utf8Size) lineEnded
  | .blanks, c :: rest, size, lineEnded =>
    if isLineEnd c then skipBlanks htmlComments .blanks rest (size + c.utf8Size) true
    else if isBlank c then skipBlanks htmlComments .blanks rest (size + c.utf8Size) lineEnded
    else if c = '/' ∧ rest.head? = some '*' then
      skipBlanks htmlComments (.commentSign .blockComment) rest (size + c.utf8Size) lineEnded
    else if c = '/' ∧ rest.head? = some '/' ∨ htmlComments ∧ opensHtmlComment lineEnded (c :: rest)
    then skipBlanks htmlComments .lineComment rest (size + c.utf8Size) lineEnded
    else some (size, c :: rest, lineEnded)

/-! ## Words -/

/-- The code point that an escape after `\u` writes, its size and the text after it. -/
def unicodeEscape? : List Char → Option (Nat × Nat × List Char)
  | '\x7b' :: rest =>
    let digits := rest.takeWhile fun c => (hexDigit? c).isSome
    let code := digits.foldl (fun code c => code * 16 + (hexDigit? c).getD 0) 0
    match rest.drop digits.length with
    | '\x7d' :: after =>
      if digits.isEmpty || code > 0x10FFFF then none else some (code, digits.length + 2, after)
    | _ => none
  | a :: b :: c :: d :: after => (hexQuad? a b c d).map fun code => (code, 4, after)
  | _ => none

/-- Characters of a word, escapes decoded, with its size and the text after it. `none` when an
escape is malformed or writes a character that has no place there. -/
def escapedWord : Nat → Bool → List Char → Option (List Char × Nat × List Char)
  | 0, _, text => some ([], 0, text)
  | budget + 1, isFirst, '\\' :: 'u' :: rest => do
    let (code, size, after) ← unicodeEscape? rest
    let c := Char.ofNat code
    if (if isFirst then isIdentifierStart c else isIdentifierPart c) then
      let (name, more, after) ← escapedWord budget false after
      return (c :: name, 2 + size + more, after)
    else none
  | _, _, '\\' :: _ => none
  | budget + 1, _, c :: rest =>
    if isIdentifierPart c then do
      let (name, more, after) ← escapedWord budget false rest
      return (c :: name, c.utf8Size + more, after)
    else some ([], 0, c :: rest)
  | _, _, [] => some ([], 0, [])

/-- A word at the front of a text: its name, whether it holds an escape, its size, the rest. -/
def scanWord (text : List Char) : Option (String × Bool × Nat × List Char) :=
  let name := text.takeWhile isIdentifierPart
  let rest := text.drop name.length
  match rest with
  | '\\' :: _ => do
    let run := text.takeWhile fun c => isIdentifierPart c || c == '\\' || c == '\x7b' || c == '\x7d'
    let (name, size, after) ← escapedWord (run.length + 1) true text
    return (String.ofList name, true, size, after)
  | _ => some (String.ofList name, false, byteLength name, rest)

/-! ## Numbers -/

/-- Digits with single separators between them: their count, separators included, and the text after
them; `none` when a separator does not stand between two digits. -/
def digitRun (isDigit : Char → Bool) : Bool → Nat → List Char → Option (Nat × List Char)
  | _, count, [] => some (count, [])
  | afterDigit, count, c :: rest =>
    if isDigit c then digitRun isDigit true (count + 1) rest
    else if c = '_' then
      if afterDigit && rest.head?.any isDigit then digitRun isDigit false (count + 1) rest else none
    else some (count, c :: rest)

/-- The sign that may stand before the digits of an exponent: its size and the text after it. -/
def exponentSign : List Char → Nat × List Char
  | '+' :: digits => (1, digits)
  | '-' :: digits => (1, digits)
  | digits => (0, digits)

/-- The exponent that may follow: its size and the text after it. -/
def exponentPart : List Char → Option (Nat × List Char)
  | c :: rest =>
    if c = 'e' ∨ c = 'E' then do
      let (sign, digits) := exponentSign rest
      let (count, after) ← digitRun Char.isDigit false 0 digits
      if count = 0 then none else some (1 + sign + count, after)
    else some (0, c :: rest)
  | [] => some (0, [])

/-- The fraction and exponent that may follow the digits before a point. -/
def fractionPart : List Char → Option (Nat × List Char)
  | '.' :: rest => do
    let (count, after) ← digitRun Char.isDigit false 0 rest
    let (exponent, after) ← exponentPart after
    return (1 + count + exponent, after)
  | text => exponentPart text

/-- Digits of another base after its mark, with the mark of an unbounded integer. -/
def basedNumber (isDigit : Char → Bool) (rest : List Char) : Option Scanned := do
  let (count, after) ← digitRun isDigit false 0 rest
  if count = 0 then none
  else match after with
    | 'n' :: after => return { lexeme := .bigint, size := 3 + count, rest := after }
    | after => return { lexeme := .number, size := 2 + count, rest := after }

def decimalNumber (count : Nat) (after : List Char) : Option Scanned :=
  match after with
  | 'n' :: after => some { lexeme := .bigint, size := count + 1, rest := after }
  | after => do
    let (size, after) ← fractionPart after
    return { lexeme := .number, size := count + size, rest := after }

/-- The fraction that may follow digits after a superfluous zero; there is none when all of them are
digits of base eight. -/
def zeroFraction (digits after : List Char) : Option (Nat × List Char) :=
  if digits.any fun d => d = '8' || d = '9' then fractionPart after else some (0, after)

/-- A number that begins with a superfluous zero, which is not in `text`. -/
def zeroNumber (text : List Char) : Option Scanned := do
  let digits := text.takeWhile Char.isDigit
  let (size, after) ← zeroFraction digits (text.drop digits.length)
  return { lexeme := .number, size := 1 + (digits.length + size), rest := after }

/-- The number that a text begins with; `none` when it is malformed. -/
def numberFront : List Char → Option Scanned
  | '0' :: c :: rest =>
    if c = 'b' ∨ c = 'B' then basedNumber (fun d => d = '0' || d = '1') rest
    else if c = 'o' ∨ c = 'O' then basedNumber (fun d => (octalDigit? d).isSome) rest
    else if c = 'x' ∨ c = 'X' then basedNumber (fun d => (hexDigit? d).isSome) rest
    else if c.isDigit then zeroNumber (c :: rest)
    else decimalNumber 1 (c :: rest)
  | '.' :: rest => do
    let (size, after) ← fractionPart ('.' :: rest)
    return { lexeme := .number, size, rest := after }
  | text => do
    let (count, after) ← digitRun Char.isDigit false 0 text
    decimalNumber count after

/-- A number at the front of a text; `none` when it is malformed or runs into a word. -/
def scanNumber (text : List Char) : Option Scanned := do
  let found ← numberFront text
  if found.rest.head?.any fun c => isIdentifierPart c || c = '\\' then none else some found

/-! ## Templates, regular expressions and element text -/

/-- Whether every escape of a template chunk is well formed: octal escapes are not. -/
def templateEscapes : Nat → List Char → Bool
  | 0, _ => true
  | _, [] => true
  | budget + 1, '\\' :: 'x' :: rest => match rest with
    | a :: b :: rest => (hexPair? a b).isSome && templateEscapes budget rest
    | _ => false
  | budget + 1, '\\' :: 'u' :: rest => match unicodeEscape? rest with
    | some (_, _, rest) => templateEscapes budget rest
    | none => false
  | budget + 1, '\\' :: '0' :: rest =>
    !(rest.head?.any Char.isDigit) && templateEscapes budget rest
  | budget + 1, '\\' :: c :: rest => !c.isDigit && templateEscapes budget rest
  | budget + 1, _ :: rest => templateEscapes budget rest

/-- Split a template's text at its end or at the next substitution, which are dropped; the first
component says whether it was the end. -/
def splitTemplate : List Char → Option (Bool × List Char × List Char)
  | [] => none
  | '\\' :: c :: rest => do
    let (closed, chunk, after) ← splitTemplate rest
    return (closed, '\\' :: c :: chunk, after)
  | '\x60' :: rest => some (true, [], rest)
  | '$' :: '\x7b' :: rest => some (false, [], rest)
  | c :: rest => do
    let (closed, chunk, after) ← splitTemplate rest
    return (closed, c :: chunk, after)

/-- The template chunk at the front of a text, its size counted without the sign before it. -/
def scanTemplate (text : List Char) : Option Scanned := do
  let (closed, chunk, rest) ← splitTemplate text
  let wellEscaped := templateEscapes (chunk.length + 1) chunk
  return {
    lexeme := .template closed wellEscaped
    size := byteLength chunk + (if closed then 1 else 2)
    rest }

/-- The size of a regular expression's body with its closing slash, and the text after it. A slash
inside a class of characters does not end the body; a line end leaves it open. -/
def regexBody : Bool → Nat → List Char → Option (Nat × List Char)
  | _, _, [] => none
  | inClass, size, '\\' :: c :: rest =>
    if isLineEnd c then none else regexBody inClass (size + 1 + c.utf8Size) rest
  | inClass, size, c :: rest =>
    if isLineEnd c then none
    else if c = '/' ∧ ¬ inClass then some (size + 1, rest)
    else
      let inClass := if c = '[' then true else if c = ']' then false else inClass
      regexBody inClass (size + c.utf8Size) rest

/-- The flags of a regular expression: each of the known letters at most once. -/
def flagsAllowed (flags : List Char) : Bool :=
  flags.all (fun c => ['d', 'g', 'i', 'm', 's', 'u', 'v', 'y'].contains c) && flags.Nodup

/-- The regular expression whose opening slash was just read. -/
def scanRegex (text : List Char) : Option Scanned := do
  let (size, rest) ← regexBody false 0 text
  let flags := rest.takeWhile isIdentifierPart
  if flagsAllowed flags then
    return { lexeme := .regex, size := size + flags.length, rest := rest.drop flags.length }
  else none

/-- The text between two elements, up to the next brace or angle. A closing brace or angle has no
place in it. -/
def scanMarkupText (text : List Char) : Scanned :=
  let run := text.takeWhile fun c => c != '\x7b' && c != '<'
  let lexeme := if run.any (fun c => c == '>' || c == '\x7d') then .invalid else .markupText
  { lexeme, size := byteLength run, rest := text.drop run.length }

/-! ## Signs -/

/-- The signs, each before the shorter ones that it begins with. -/
def signs : List (List Char × Punctuator) := [
  (['\x7b'], .braceOpen), (['\x7d'], .braceClose), (['('], .parenOpen), ([')'], .parenClose),
  (['['], .bracketOpen), ([']'], .bracketClose), ([';'], .semicolon), ([','], .comma),
  ([':'], .colon), (['~'], .bitNot), (['@'], .at), (['>'], .greater),
  (['.', '.', '.'], .ellipsis), (['.'], .dot),
  (['?', '?', '='], .operatorAssign), (['?', '?'], .coalesce), (['?', '.'], .questionDot),
  (['?'], .question),
  (['<', '<', '='], .operatorAssign), (['<', '<'], .shiftLeft), (['<', '='], .lessEqual),
  (['<'], .less),
  (['=', '=', '='], .identical), (['=', '='], .equal), (['=', '>'], .arrow), (['='], .assign),
  (['!', '=', '='], .notIdentical), (['!', '='], .notEqual), (['!'], .not),
  (['+', '+'], .increment), (['+', '='], .operatorAssign), (['+'], .plus),
  (['-', '-'], .decrement), (['-', '='], .operatorAssign), (['-'], .minus),
  (['*', '*', '='], .operatorAssign), (['*', '*'], .power), (['*', '='], .operatorAssign),
  (['*'], .times),
  (['/', '='], .divideAssign), (['/'], .divide),
  (['%', '='], .operatorAssign), (['%'], .modulo),
  (['&', '&', '='], .operatorAssign), (['&', '&'], .and), (['&', '='], .operatorAssign),
  (['&'], .bitAnd),
  (['|', '|', '='], .operatorAssign), (['|', '|'], .or), (['|', '='], .operatorAssign),
  (['|'], .bitOr),
  (['^', '='], .operatorAssign), (['^'], .bitXor)]

/-- Whether the text begins with the sign. The point of `?.` may also begin a number. -/
def beginsWith (text : List Char) : List Char × Punctuator → Bool
  | (sign, .questionDot) => sign.isPrefixOf text && !(text.drop sign.length).head?.any Char.isDigit
  | (sign, _) => sign.isPrefixOf text

def scanSign (text : List Char) : Option (Punctuator × Nat × List Char) :=
  (signs.find? (beginsWith text)).map fun (sign, kind) =>
    (kind, sign.length, text.drop sign.length)

/-- The longer sign that a closing angle makes with what follows it where an operator may stand. -/
def joinAngles : List Char → Punctuator × Nat × List Char
  | '>' :: '>' :: '=' :: rest => (.operatorAssign, 4, rest)
  | '>' :: '>' :: rest => (.shiftRightUnsigned, 3, rest)
  | '>' :: '=' :: rest => (.operatorAssign, 3, rest)
  | '>' :: rest => (.shiftRight, 2, rest)
  | '=' :: rest => (.greaterEqual, 2, rest)
  | rest => (.greater, 1, rest)

/-! ## Any token -/

/-- The lexeme at the front of a text that begins with neither blank nor comment. -/
def scanLexeme (text : List Char) : Option Scanned :=
  match text with
  | [] => some { lexeme := .endOfText, size := 0, rest := [] }
  | c :: rest =>
    if c = '"' ∨ c = '\'' then do
      let (body, rest) ← splitAtQuote c rest
      let pieces ← decodePieces body
      return {
        lexeme := .string (String.ofList (heldText pieces))
        size := byteLength body + 2
        rest }
    else if c = '\x60' then do
      let chunk ← scanTemplate rest
      return { chunk with size := chunk.size + 1 }
    else if c = '#' then do
      match rest with
      | first :: _ =>
        if isIdentifierStart first || first = '\\' then do
          let (name, _, size, rest) ← scanWord rest
          return { lexeme := .privateName name, size := size + 1, rest }
        else none
      | [] => none
    else if isIdentifierStart c || c = '\\' then do
      let (name, escaped, size, rest) ← scanWord text
      return { lexeme := .word name escaped, size, rest }
    else if c.isDigit || (c = '.' && rest.head?.any Char.isDigit) then scanNumber text
    else do
      let (sign, size, rest) ← scanSign text
      return { lexeme := .punctuator sign, size, rest }

/-! ## Tokens that have to be asked for -/

/-- The lexeme where the value of an attribute stands: a string there is raw text up to the same
quote. -/
def scanAttributeValue (text : List Char) : Option Scanned :=
  match text with
  | quote :: rest =>
    if quote = '"' ∨ quote = '\'' then
      let body := rest.takeWhile (· ≠ quote)
      match rest.dropWhile (· ≠ quote) with
      | _ :: after => some {
          lexeme := .attributeString (String.ofList body), size := byteLength body + 2, rest := after }
      | [] => none
    else scanLexeme text
  | [] => scanLexeme []

/-- The lexeme where the text of an element may stand. -/
def scanBetweenTags (text : List Char) : Option Scanned :=
  match text with
  | [] => scanLexeme []
  | '<' :: rest => some { lexeme := .punctuator .less, size := 1, rest }
  | '\x7b' :: rest => some { lexeme := .punctuator .braceOpen, size := 1, rest }
  | text => some (scanMarkupText text)

def scanSlash : List Char → Option Scanned
  | '/' :: rest => (scanRegex rest).map fun found => { found with size := found.size + 1 }
  | _ => none

def scanSubstitutionEnd : List Char → Option Scanned
  | '\x7d' :: rest => (scanTemplate rest).map fun found => { found with size := found.size + 1 }
  | _ => none

def scanClosingAngles : List Char → Option Scanned
  | '>' :: rest =>
    let (sign, size, rest) := joinAngles rest
    some { lexeme := .punctuator sign, size, rest }
  | _ => none

def scanOpeningAngle : List Char → Option Scanned
  | '<' :: rest => some { lexeme := .punctuator .less, size := 1, rest }
  | _ => none

/-- The name of an element or attribute, a word that may go on with hyphens. -/
def scanMarkupName (text : List Char) : Option Scanned := do
  let (name, escaped, size, rest) ← scanWord text
  let more := rest.takeWhile fun c => isIdentifierPart c || c == '-'
  return {
    lexeme := .word (name ++ String.ofList more) escaped
    size := size + byteLength more
    rest := rest.drop more.length }

end ClassRename.Script
