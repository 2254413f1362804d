/-!
# Text as UTF-8 bytes

Every text has one form in bytes. Bytes that are the form of no text are refused, and the fault says
where: either a byte cannot follow those before it, or the bytes end inside a character.
-/

namespace ClassRename.Text.Utf8

/-- Bytes in the order of a file. -/
abbrev Bytes := List UInt8

inductive Fault where
  /-- The bytes at the index begin no character. -/
  | invalid (length index : Nat)
  /-- The character that begins at the index is not finished. -/
  | incomplete (index : Nat)
  deriving DecidableEq, Repr

def Fault.message : Fault → String
  | .invalid length index =>
    "invalid utf-8 sequence of " ++ toString length ++ " bytes from index " ++ toString index
  | .incomplete index => "incomplete utf-8 byte sequence from index " ++ toString index

/-- A character of which some bytes are read. -/
structure Pending where
  /-- The number that the bytes so far hold. -/
  value : Nat
  /-- The number of bytes so far. -/
  taken : Nat
  /-- The number of bytes still to come. -/
  owed : Nat
  /-- The least byte that may come next. -/
  low : Nat
  /-- The greatest byte that may come next. -/
  high : Nat
  deriving DecidableEq, Repr

/-- What the first byte of a character of several bytes tells. Some first bytes narrow the second:
so each character has one form only, and surrogates and numbers past the last character have none. -/
def lead? (byte : Nat) : Option Pending :=
  if 0xC2 ≤ byte ∧ byte ≤ 0xDF then some ⟨byte - 0xC0, 1, 1, 0x80, 0xBF⟩
  else if byte = 0xE0 then some ⟨0, 1, 2, 0xA0, 0xBF⟩
  else if byte = 0xED then some ⟨0xD, 1, 2, 0x80, 0x9F⟩
  else if 0xE1 ≤ byte ∧ byte ≤ 0xEF then some ⟨byte - 0xE0, 1, 2, 0x80, 0xBF⟩
  else if byte = 0xF0 then some ⟨0, 1, 3, 0x90, 0xBF⟩
  else if 0xF1 ≤ byte ∧ byte ≤ 0xF3 then some ⟨byte - 0xF0, 1, 3, 0x80, 0xBF⟩
  else if byte = 0xF4 then some ⟨4, 1, 3, 0x80, 0x8F⟩
  else none

def Pending.next (pending : Pending) (byte : Nat) : Pending :=
  { value := pending.value * 64 + (byte - 0x80)
    taken := pending.taken + 1
    owed := pending.owed - 1
    low := 0x80
    high := 0xBF }

/-- The characters of bytes, of which the first is at the index or belongs to the character pending
there. -/
def decodeFrom (index : Nat) : Option Pending → Bytes → Except Fault (List Char)
  | none, [] => .ok []
  | some _, [] => .error (.incomplete index)
  | none, byte :: rest =>
    if byte.toNat < 0x80 then
      (decodeFrom (index + 1) none rest).map (Char.ofNat byte.toNat :: ·)
    else match lead? byte.toNat with
      | none => .error (.invalid 1 index)
      | some pending => decodeFrom index (some pending) rest
  | some pending, byte :: rest =>
    if pending.low ≤ byte.toNat ∧ byte.toNat ≤ pending.high then
      let next := pending.next byte.toNat
      if next.owed = 0 then
        (decodeFrom (index + next.taken) none rest).map (Char.ofNat next.value :: ·)
      else decodeFrom index (some next) rest
    else .error (.invalid pending.taken index)

def decode (bytes : Bytes) : Except Fault String :=
  (decodeFrom 0 none bytes).map String.ofList

def encode (text : String) : Bytes :=
  text.toList.flatMap String.utf8EncodeChar

end ClassRename.Text.Utf8
