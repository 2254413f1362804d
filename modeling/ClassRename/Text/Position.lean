/-!
# Lines and columns

A position in a text is a line and a column, both counted from one. A column counts characters, and
only a line feed ends a line.
-/

namespace ClassRename.Text

structure Position where
  line : Nat
  column : Nat
  deriving DecidableEq, Repr

namespace Position

def start : Position := ⟨1, 1⟩

def next (position : Position) (c : Char) : Position :=
  if c = '\n' then ⟨position.line + 1, 1⟩ else ⟨position.line, position.column + 1⟩

/-- The position that a number of bytes leads to. -/
def advance (position : Position) : (bytes : Nat) → List Char → Position
  | 0, _ => position
  | _ + 1, [] => position
  | bytes + 1, c :: rest => advance (position.next c) (bytes + 1 - c.utf8Size) rest

/-- The position of a byte offset in a text. -/
def ofOffset (text : List Char) (offset : Nat) : Position :=
  start.advance offset text

end Position

end ClassRename.Text
