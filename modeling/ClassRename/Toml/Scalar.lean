import ClassRename.Script.StringLiteral
import ClassRename.Toml.Value

/-!
# Numbers, moments and words of a TOML document

Everything that is written without quotes or brackets is a single word, and its spelling alone says
what it is: a truth value, a date or a time, a fraction or a whole number.
-/

namespace ClassRename.Toml

def isWordChar (c : Char) : Bool :=
  c.isAlphanum || c == '+' || c == '-' || c == '_' || c == '.' || c == ':'

/-! ## Moments -/

/-- The number that two digits write, if it lies between the bounds. -/
def twoDigits? (low high : Nat) (a b : Char) : Option Nat :=
  if a.isDigit ∧ b.isDigit then
    let value := (a.toNat - '0'.toNat) * 10 + (b.toNat - '0'.toNat)
    if low ≤ value ∧ value ≤ high then some value else none
  else none

def daysIn (year month : Nat) : Nat :=
  if month = 2 then
    if year % 4 = 0 ∧ (year % 100 ≠ 0 ∨ year % 400 = 0) then 29 else 28
  else if month = 4 ∨ month = 6 ∨ month = 9 ∨ month = 11 then 30
  else 31

def afterDate? : List Char → Option (List Char)
  | a :: b :: c :: d :: '-' :: e :: f :: '-' :: g :: h :: rest => do
    let century ← twoDigits? 0 99 a b
    let year ← twoDigits? 0 99 c d
    let month ← twoDigits? 1 12 e f
    let _ ← twoDigits? 1 (daysIn (century * 100 + year) month) g h
    return rest
  | _ => none

def afterFraction? : List Char → Option (List Char)
  | '.' :: c :: rest => if c.isDigit then some (rest.dropWhile (·.isDigit)) else none
  | '.' :: [] => none
  | rest => some rest

def afterTime? : List Char → Option (List Char)
  | a :: b :: ':' :: c :: d :: ':' :: e :: f :: rest => do
    let _ ← twoDigits? 0 23 a b
    let _ ← twoDigits? 0 59 c d
    let _ ← twoDigits? 0 60 e f
    afterFraction? rest
  | _ => none

/-- Whether a text is a time's distance from the prime meridian, which may be left out. -/
def isOffset : List Char → Bool
  | [] => true
  | ['Z'] => true
  | ['z'] => true
  | [sign, a, b, ':', c, d] =>
    (sign == '+' || sign == '-') && (twoDigits? 0 23 a b).isSome && (twoDigits? 0 59 c d).isSome
  | _ => false

def isDate (word : List Char) : Bool := afterDate? word == some []

def isTimeOfDate (word : List Char) : Bool := (afterTime? word).any isOffset

/-- Whether a word is a date, a time, or both with a `T` between them. -/
def isMoment (word : List Char) : Bool :=
  afterTime? word == some [] || match afterDate? word with
    | some [] => true
    | some ('T' :: time) => isTimeOfDate time
    | some ('t' :: time) => isTimeOfDate time
    | _ => false

/-! ## Numbers -/

/-- Digits, where an underscore may stand between two of them, and what follows. -/
def moreDigits? (isDigit : Char → Bool) : List Char → Option (List Char × List Char)
  | '_' :: c :: rest =>
    if isDigit c then (moreDigits? isDigit rest).map fun (digits, rest) => (c :: digits, rest)
    else none
  | ['_'] => none
  | c :: rest =>
    if isDigit c then (moreDigits? isDigit rest).map fun (digits, rest) => (c :: digits, rest)
    else some ([], c :: rest)
  | [] => some ([], [])

def digits? (isDigit : Char → Bool) : List Char → Option (List Char × List Char)
  | c :: rest =>
    if isDigit c then (moreDigits? isDigit rest).map fun (digits, rest) => (c :: digits, rest)
    else none
  | [] => none

/-- Digits that do not begin with a needless zero, and what follows. -/
def wholeDigits? (text : List Char) : Option (List Char × List Char) := do
  let (digits, rest) ← digits? Char.isDigit text
  if digits.head? = some '0' ∧ 1 < digits.length then none
  else some (digits, rest)

def digitValue (c : Char) : Nat :=
  if c.isDigit then c.toNat - '0'.toNat else c.toLower.toNat - 'a'.toNat + 10

def valueOf (base : Nat) (digits : List Char) : Nat :=
  digits.foldl (fun value c => value * base + digitValue c) 0

/-- Whether a text begins with a minus sign, and what follows its sign. -/
def splitSign : List Char → Bool × List Char
  | '-' :: rest => (true, rest)
  | '+' :: rest => (false, rest)
  | rest => (false, rest)

/-- The number that a whole word of digits writes in a base. -/
def inBase? (base : Nat) (isDigit : Char → Bool) (word : List Char) : Option Nat := do
  let (digits, rest) ← digits? isDigit word
  if rest = [] then some (valueOf base digits) else none

/-- The whole number that a word writes; it fits 64 bits with a sign. -/
def integer? (word : List Char) : Option Int := do
  let value : Int ← match word with
    | '0' :: 'x' :: rest => (inBase? 16 (fun c => (Script.hexDigit? c).isSome) rest).map Int.ofNat
    | '0' :: 'o' :: rest => (inBase? 8 (fun c => '0' ≤ c && c ≤ '7') rest).map Int.ofNat
    | '0' :: 'b' :: rest => (inBase? 2 (fun c => c == '0' || c == '1') rest).map Int.ofNat
    | _ => do
      let (negative, rest) := splitSign word
      let (digits, rest) ← wholeDigits? rest
      if rest ≠ [] then none
      else
        let value : Int := valueOf 10 digits
        pure (if negative then -value else value)
  if -Int.pow 2 63 ≤ value ∧ value < Int.pow 2 63 then some value else none

/-- The exponent that follows the digits of a fraction. -/
def exponent? : List Char → Option Int
  | [] => some 0
  | c :: rest =>
    if c = 'e' ∨ c = 'E' then do
      let (negative, rest) := splitSign rest
      let (digits, rest) ← digits? Char.isDigit rest
      if rest ≠ [] then none
      else
        let value : Int := valueOf 10 digits
        some (if negative then -value else value)
    else none

/-- Whether digits times a power of ten lie so high that the nearest double is infinite. -/
def overflows (digits : List Char) (exponent : Int) : Bool :=
  let significant := digits.dropWhile (· == '0')
  let magnitude : Int := significant.length + exponent
  if significant.isEmpty ∨ magnitude < 300 then false
  else if 400 < magnitude then true
  else
    let limit := (Nat.pow 2 54 - 1) * Nat.pow 2 970
    let value := valueOf 10 significant
    if exponent < 0 then limit * Nat.pow 10 exponent.natAbs ≤ value
    else limit ≤ value * Nat.pow 10 exponent.natAbs

/-- Whether a word writes a fraction, or a number with an exponent. No fraction may be too large for
a double; the negative ones go unchecked. -/
def isDecimal (word : List Char) : Bool :=
  let (negative, text) := splitSign word
  if text = ['i', 'n', 'f'] ∨ text = ['n', 'a', 'n'] then true
  else match wholeDigits? text with
    | none => false
    | some (_, []) => false
    | some (whole, '.' :: rest) => match digits? Char.isDigit rest with
      | none => false
      | some (fraction, rest) => match exponent? rest with
        | none => false
        | some exponent =>
          negative || !overflows (whole ++ fraction) (exponent - fraction.length)
    | some (whole, rest) => match exponent? rest with
      | none => false
      | some exponent => negative || !overflows whole exponent

def ofWord? (word : List Char) : Option Value :=
  if word = ['t', 'r', 'u', 'e'] then some (.boolean true)
  else if word = ['f', 'a', 'l', 's', 'e'] then some (.boolean false)
  else if isMoment word then some (.moment (String.ofList word))
  else if isDecimal word then some (.decimal (String.ofList word))
  else (integer? word).map .integer

/-- The value that begins with a word, and what follows. A time may follow a date after a space. -/
def scalar? (text : List Char) : Option (Value × List Char) :=
  let word := text.takeWhile isWordChar
  let rest := text.dropWhile isWordChar
  match rest with
  | ' ' :: later =>
    let time := later.takeWhile isWordChar
    if isDate word ∧ isTimeOfDate time then
      some (.moment (String.ofList (word ++ ' ' :: time)), later.dropWhile isWordChar)
    else (ofWord? word).map fun value => (value, rest)
  | _ => (ofWord? word).map fun value => (value, rest)

end ClassRename.Toml
