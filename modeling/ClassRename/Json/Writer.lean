/-!
# Writing JSON

Strings are written with the fewest escapes: quotes, backslashes and controls. An object is written
either on one line without blanks, or with each member on a line of its own.
-/

namespace ClassRename.Json

def lowerHex (n : Nat) : Char :=
  if n < 10 then Char.ofNat ('0'.toNat + n) else Char.ofNat ('a'.toNat + (n - 10))

def writtenChar (c : Char) : List Char :=
  if c = '"' then ['\\', '"']
  else if c = '\\' then ['\\', '\\']
  else if c = '\x08' then ['\\', 'b']
  else if c = '\x0c' then ['\\', 'f']
  else if c = '\n' then ['\\', 'n']
  else if c = '\r' then ['\\', 'r']
  else if c = '\t' then ['\\', 't']
  else if c.toNat < 0x20 then
    ['\\', 'u', '0', '0', lowerHex (c.toNat / 16), lowerHex (c.toNat % 16)]
  else [c]

def writtenString (text : String) : List Char :=
  '"' :: text.toList.flatMap writtenChar ++ ['"']

/-- The members of an object of strings, one to a line. -/
def writtenLines : List (String × String) → List Char
  | [] => []
  | (key, value) :: later =>
    (if later.isEmpty then id else (· ++ [',']))
      (['\n', ' ', ' '] ++ writtenString key ++ [':', ' '] ++ writtenString value) ++
      writtenLines later

/-- An object of strings with each member on a line of its own. -/
def writtenObject (members : List (String × String)) : String :=
  if members.isEmpty then "\x7b\x7d"
  else String.ofList ('\x7b' :: writtenLines members ++ ['\n', '\x7d'])

end ClassRename.Json
