import ClassRename.Script.StringLiteral
import Mathlib.Data.List.Basic

/-! # The code units of a string literal

The string grammar of the language gives the UTF-16 code units that a string literal stands for, one
element of the literal after the other. It is stated here by itself: each escape is a rule with what
may follow it, and a code point escape or an ordinary character stands for its units in UTF-16. A
surrogate that is written by its code is a unit like any other, whatever stands next to it. A literal
stands for one list of units only.
-/

namespace ClassRename.Script

open ClassRename.Text

/-- A code point in UTF-16. -/
def utf16Point (code : Nat) : List Nat :=
  if code < 0x10000 then [code]
  else [0xD800 + (code - 0x10000) / 0x400, 0xDC00 + (code - 0x10000) % 0x400]

/-- A text in UTF-16. -/
def utf16 (text : List Char) : List Nat := text.flatMap fun c => utf16Point c.toNat

/-- What the character after a backslash begins. -/
inductive EscapeKind where
  /-- An escape of one character. -/
  | character
  /-- The end of a line, which goes on in the next one. -/
  | lineEnd
  /-- A code in octal digits. -/
  | octal
  /-- A code in two hexadecimal digits. -/
  | hex
  /-- A code in four hexadecimal digits, or in braces. -/
  | unicode
  deriving DecidableEq

/-- The kind of escape that begins with the character. -/
def escapeKind (c : Char) : EscapeKind :=
  if c = 'x' then .hex else if c = 'u' then .unicode else if isLineEnd c then .lineEnd
  else if (octalDigit? c).isSome then .octal else .character

/-- No octal digit follows. -/
def NoOctalNext (rest : List Char) : Prop := rest.head?.bind octalDigit? = none

/-- The code that octal digits write, and the text after them. As many digits are taken as there are,
up to three, but none that would make the code too large for a byte. -/
inductive OctalCode : List Char → Nat → List Char → Prop where
  | one {a : Char} {rest : List Char} {first : Nat} :
    octalDigit? a = some first → NoOctalNext rest → OctalCode (a :: rest) first rest
  | two {a b : Char} {rest : List Char} {first second : Nat} :
    octalDigit? a = some first → octalDigit? b = some second → (first ≤ 3 → NoOctalNext rest) →
    OctalCode (a :: b :: rest) (first * 8 + second) rest
  | three {a b c : Char} {rest : List Char} {first second third : Nat} :
    octalDigit? a = some first → octalDigit? b = some second → octalDigit? c = some third →
    first ≤ 3 → OctalCode (a :: b :: c :: rest) (first * 64 + second * 8 + third) rest

/-- The number that hexadecimal digits write when they follow those of another number. -/
def hexValueFrom? (value : Nat) (digits : List Char) : Option Nat :=
  digits.foldlM (fun value c => (value * 16 + ·) <$> hexDigit? c) value

/-- The text after a backslash begins with an escape: the code units that it stands for, and the text
after it. -/
inductive Escape : List Char → List Nat → List Char → Prop where
  /-- A letter for a control character, or a character that stands for itself. -/
  | character {c : Char} {rest : List Char} :
    escapeKind c = .character → Escape (c :: rest) (utf16Point (simpleEscape c).toNat) rest
  /-- A line that goes on stands for nothing. -/
  | lineEnd {c : Char} {rest : List Char} :
    escapeKind c = .lineEnd → (c = '\r' → rest.head? ≠ some '\n') → Escape (c :: rest) [] rest
  /-- A carriage return and a line feed end one line. -/
  | returnFeed {c d : Char} {rest : List Char} :
    c = '\r' → d = '\n' → Escape (c :: d :: rest) [] rest
  | octal {c : Char} {text rest : List Char} {code : Nat} :
    escapeKind c = .octal → OctalCode (c :: text) code rest → Escape (c :: text) [code] rest
  | hex {x a b : Char} {rest : List Char} {code : Nat} :
    escapeKind x = .hex → hexPair? a b = some code → Escape (x :: a :: b :: rest) [code] rest
  | unicode {u a b c d : Char} {rest : List Char} {code : Nat} :
    escapeKind u = .unicode → hexQuad? a b c d = some code →
    Escape (u :: a :: b :: c :: d :: rest) [code] rest
  /-- A code point in braces. -/
  | codePoint {u opening : Char} {more digits rest : List Char} {code : Nat} :
    escapeKind u = .unicode → opening = '\x7b' → more = digits ++ '\x7d' :: rest → digits ≠ [] →
    hexValueFrom? 0 digits = some code → code ≤ 0x10FFFF →
    Escape (u :: opening :: more) (utf16Point code) rest

/-- What stands between the quotes of a literal, and the code units that it stands for. -/
inductive StringBody (quote : Char) : List Char → List Nat → Prop where
  | nil : StringBody quote [] []
  | character {c : Char} {rest : List Char} {units : List Nat} :
    c ≠ quote → c ≠ '\\' → c ≠ '\n' → c ≠ '\r' → StringBody quote rest units →
    StringBody quote (c :: rest) (utf16Point c.toNat ++ units)
  | escape {c : Char} {text rest : List Char} {units units' : List Nat} :
    c = '\\' → Escape text units rest → StringBody quote rest units' →
    StringBody quote (c :: text) (units ++ units')

/-- The text is a string literal that stands for the code units. -/
def StringUnits (text : List Char) (units : List Nat) : Prop :=
  ∃ quote body, (quote = '"' ∨ quote = '\'') ∧ text = quote :: (body ++ [quote]) ∧
    StringBody quote body units

variable {text rest rest' : List Char} {units units' : List Nat}

/-- Octal digits write one code. -/
theorem OctalCode.unique {code code' : Nat} (octal : OctalCode text code rest)
    (octal' : OctalCode text code' rest') : code = code' ∧ rest = rest' := by
  cases octal <;> cases octal' <;> simp_all [NoOctalNext]

/-- Hexadecimal digits alone write a number. -/
theorem not_mem_of_hexValueFrom? {digits : List Char} {c : Char} {value code : Nat}
    (number : hexValueFrom? value digits = some code) (noDigit : hexDigit? c = none) :
    c ∉ digits := by
  induction digits generalizing value with
  | nil => exact List.not_mem_nil
  | cons d digits ih =>
    rw [hexValueFrom?, List.foldlM_cons, Option.bind_eq_bind, Option.bind_eq_some_iff] at number
    obtain ⟨value, digit, number⟩ := number
    rw [List.mem_cons, not_or]
    refine ⟨?_, ih number⟩
    rintro rfl
    rw [noDigit] at digit
    cases digit

/-- Texts that do not hold a character are one when what is left from that character on begins at
their ends. -/
theorem append_cons_inj_of_not_mem {front front' : List Char} {c : Char} (notIn : c ∉ front)
    (notIn' : c ∉ front') (same : front ++ c :: rest = front' ++ c :: rest') :
    front = front' ∧ rest = rest' := by
  rcases List.append_eq_append_iff.1 same with ⟨between, rfl, tail⟩ | ⟨between, rfl, tail⟩ <;>
    cases between with
    | nil => simp_all
    | cons d between =>
      obtain ⟨rfl, -⟩ := List.cons.inj tail
      simp at notIn notIn'

/-- A text after a backslash begins with one escape. -/
theorem Escape.unique (escape : Escape text units rest) (escape' : Escape text units' rest') :
    units = units' ∧ rest = rest' := by
  have return_ : escapeKind '\r' = .lineEnd := by decide
  have noQuad (b c d : Char) : hexQuad? '\x7b' b c d = none := rfl
  -- Escapes of different kinds begin with different characters.
  cases escape <;> cases escape' <;> try (simp_all; done)
  case octal.octal octal _ _ octal' =>
    obtain ⟨rfl, rfl⟩ := octal.unique octal'
    exact ⟨rfl, rfl⟩
  case codePoint.codePoint number _ split _ _ _ number' _ _ _ split' =>
    have noBrace {digits : List Char} {code : Nat} (number : hexValueFrom? 0 digits = some code) :
        '\x7d' ∉ digits := not_mem_of_hexValueFrom? number rfl
    obtain ⟨rfl, rfl⟩ := append_cons_inj_of_not_mem (noBrace number) (noBrace number')
      (split.symm.trans split')
    cases number.symm.trans number'
    exact ⟨rfl, rfl⟩

/-- What stands between two quotes stands for one list of code units. -/
theorem StringBody.unique {quote : Char} {body : List Char} (reads : StringBody quote body units)
    (reads' : StringBody quote body units') : units = units' := by
  induction reads generalizing units' with
  | nil =>
    cases reads'
    rfl
  | character _ notEscape _ _ _ ih =>
    cases reads' with
    | character _ _ _ _ rest' => rw [ih rest']
    | escape isEscape => exact absurd isEscape notEscape
  | escape isEscape escape _ ih =>
    cases reads' with
    | character _ notEscape => exact absurd isEscape notEscape
    | escape _ escape' rest' =>
      obtain ⟨rfl, rfl⟩ := escape.unique escape'
      rw [ih rest']

/-- A literal stands for one list of code units. -/
theorem StringUnits.unique (reads : StringUnits text units) (reads' : StringUnits text units') :
    units = units' := by
  obtain ⟨quote, body, -, rfl, inside⟩ := reads
  obtain ⟨quote', body', -, split, inside'⟩ := reads'
  obtain ⟨rfl, split⟩ := List.cons.inj split
  obtain ⟨rfl, -⟩ := List.append_singleton_inj.1 split
  exact inside.unique inside'

end ClassRename.Script
