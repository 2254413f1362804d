import ClassRename.Span

/-!
# Edits of a text

An edit replaces a span of a text. Several edits are made in one go: they are put in order, the ones
that say the same are merged, and all are refused if two of them touch the same place.
-/

namespace ClassRename

/-- The replacement of a span, with a text for the reader that says why. -/
structure Edit where
  span : Span
  replacement : String
  message : String
  deriving DecidableEq, Repr, Inhabited

inductive EditError where
  /-- A span does not lie in a text of the length. -/
  | outOfBounds (span : Span) (length : Nat)
  /-- The edit at the offset reaches into a later one. -/
  | overlapping (offset : Nat)
  /-- A span begins or ends inside a character. -/
  | insideCharacter
  deriving DecidableEq, Repr

def EditError.message : EditError → String
  | .outOfBounds span length =>
    "Edit span " ++ toString span.start ++ ".." ++ toString span.stop ++
      " out of bounds for source length " ++ toString length
  | .overlapping offset => "Overlapping edits detected at offset " ++ toString offset
  | .insideCharacter => "Edit offset inside a character"

namespace Edit

/-- Order by start, then by end. -/
def before (a b : Edit) : Bool :=
  a.span.start < b.span.start || (a.span.start == b.span.start && a.span.stop ≤ b.span.stop)

/-- Whether two edits put the same text in the same place. -/
def agrees (a b : Edit) : Bool :=
  a.span == b.span && a.replacement == b.replacement

/-- Drop each edit that agrees with the one kept before it. -/
def collapseAfter (kept : Edit) : List Edit → List Edit
  | [] => []
  | edit :: later =>
    if kept.agrees edit then collapseAfter kept later else edit :: collapseAfter edit later

def collapse : List Edit → List Edit
  | [] => []
  | edit :: later => edit :: collapseAfter edit later

/-- Edits in order, of neighbours that agree only the first. -/
def merge (edits : List Edit) : List Edit :=
  collapse (edits.mergeSort before)

/-- Edits with the later starts first; edits with one start keep their order. -/
def latestFirst (edits : List Edit) : List Edit :=
  edits.mergeSort fun a b => b.span.start ≤ a.span.start

/-- Check edits, latest first, against the size of the text and the start of the edit before. -/
def check (size : Nat) : Option Nat → List Edit → Except EditError Unit
  | _, [] => .ok ()
  | limit, edit :: later =>
    if edit.span.start > edit.span.stop ∨ edit.span.stop > size then
      .error (.outOfBounds edit.span size)
    else if limit.any (edit.span.stop > ·) then .error (.overlapping edit.span.start)
    else check size (some edit.span.start) later

def replace? (text : List Char) (edit : Edit) : Option (List Char) := do
  let (front, rest) ← splitAtByte? edit.span.start text
  let (_, back) ← splitAtByte? (edit.span.stop - edit.span.start) rest
  return front ++ edit.replacement.toList ++ back

/-- Make all edits. They are checked first and then made from the end of the text to its start, so
that the places of those to come stay as they are. -/
def applyAll (source : String) (edits : List Edit) : Except EditError String := do
  let ordered := latestFirst edits
  let text := source.toList
  check (byteLength text) none ordered
  match ordered.foldlM replace? text with
  | some result => return String.ofList result
  | none => throw .insideCharacter

end Edit

end ClassRename
