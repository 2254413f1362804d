import ClassRename.RenameMap
import ClassRename.Span

/-!
# Finding old names in a class list

An old name counts where both of its ends are boundaries of ASCII words, so `p-1` is found in
`hover:p-1` and not in `p-10`. The list is walked from left to right; where several old names begin,
the longest that ends at a boundary is taken, and the walk goes on after it. All old names together
make one pattern, which may not grow too large.
-/

namespace ClassRename

/-- Letters, digits and underscores of ASCII make words. -/
def isWordChar (c : Char) : Bool :=
  c.isAlphanum || c == '_'

/-- Whether a word begins or ends between two characters; the ends of a text count as no word. -/
def isBoundary (left right : Option Char) : Bool :=
  left.any isWordChar != right.any isWordChar

/-- Whether an old name stands at the front of a text whose character before is `previous`, with a
boundary at each of its ends. -/
def matchesAt (previous : Option Char) (text old : List Char) : Bool :=
  old.isPrefixOf text && isBoundary previous text.head? &&
    isBoundary old.getLast? (text.drop old.length).head?

/-- Where old names stand in a text, from left to right. The text begins at the byte `offset` and
the character before it is `previous`; its first `skip` characters belong to a name that was found.
Of the old names that stand at one place the first of `olds` is taken. -/
def findsFrom (olds : List (List Char)) : (previous : Option Char) → (skip offset : Nat) →
    List Char → List Span
  | _, _, _, [] => []
  | _, skip + 1, offset, c :: rest => findsFrom olds (some c) skip (offset + c.utf8Size) rest
  | previous, 0, offset, c :: rest =>
    match olds.find? (matchesAt previous (c :: rest)) with
    | some old =>
      ⟨offset, offset + byteLength old⟩ ::
        findsFrom olds (some c) (old.length - 1) (offset + c.utf8Size) rest
    | none => findsFrom olds (some c) 0 (offset + c.utf8Size) rest

/-- A rename map made ready for finding its old names. -/
structure Matcher where
  map : RenameMap
  /-- The old names that are not empty, longer ones first. -/
  olds : List (List Char)

/-- How many bytes the pattern for old names takes, longer names first. -/
abbrev PatternSize := List (List Char) → Nat

inductive MatcherError where
  /-- The pattern for the old names would take more bytes than this. -/
  | tooLarge (limit : Nat)
  deriving DecidableEq, Repr

namespace MatcherError

def cause : MatcherError → String
  | .tooLarge limit => "Compiled regex exceeds size limit of " ++ toString limit ++ " bytes."

def message (error : MatcherError) : String :=
  "Failed to compile class pattern: " ++ error.cause

end MatcherError

/-- A class list with names replaced, and the replacements from left to right. -/
structure Renaming where
  value : String
  renamed : List (String × String)
  deriving DecidableEq, Repr

def Renaming.describe (change : Renaming) : String :=
  String.intercalate ", " <| change.renamed.map fun (old, new) =>
    "Rename class '" ++ old ++ "' to '" ++ new ++ "'"

inductive MatchError where
  /-- What was found is no old name of the map. -/
  | unmapped (old : String)
  /-- A name that was found begins or ends inside a character. -/
  | insideCharacter
  deriving DecidableEq, Repr

/-- What is done of a class list: the text written, the replacements in it, and the byte offset of
what was not looked at yet. -/
structure Progress where
  written : List Char := []
  renamed : List (String × String) := []
  reached : Nat := 0

namespace Matcher

def longerFirst (a b : List Char) : Bool := byteLength b ≤ byteLength a

/-- The matcher of a rename map. Old names of one length stay in ascending order. -/
def ofMap (map : RenameMap) : Matcher :=
  let olds := (map.keys.filter (!·.isEmpty)).map String.toList
  { map, olds := olds.mergeSort longerFirst }

/-- So many bytes a pattern may take. -/
def patternLimit : Nat := 64 * 1024 * 1024

/-- Whether the old names of a rename map make too large a pattern; without old names there is none. -/
def TooLarge (patternSize : PatternSize) (map : RenameMap) : Prop :=
  (ofMap map).olds ≠ [] ∧ patternLimit < patternSize (ofMap map).olds

instance (patternSize : PatternSize) (map : RenameMap) : Decidable (TooLarge patternSize map) :=
  inferInstanceAs (Decidable (_ ∧ _))

/-- The matcher of a rename map, unless its pattern is too large. -/
def build (patternSize : PatternSize) (map : RenameMap) : Except MatcherError Matcher :=
  if TooLarge patternSize map then .error (.tooLarge patternLimit) else .ok (ofMap map)

/-- A rough size: an automaton for old names has two states for each of their bytes, which take 68
bytes. Where names begin alike it can do with less. -/
def roughSize : PatternSize := fun olds => 68 * byteLength olds.flatten

def finds (matcher : Matcher) (text : List Char) : List Span :=
  findsFrom matcher.olds none 0 0 text

/-- Copy a class list up to an old name and write the new name in its place. -/
def replaceNext (matcher : Matcher) (text : List Char) (progress : Progress) (found : Span) :
    Except MatchError Progress :=
  match slice? text ⟨progress.reached, found.start⟩, slice? text found with
  | some kept, some old =>
    match matcher.map.get? (String.ofList old) with
    | some new => .ok {
        written := progress.written ++ kept ++ new.toList
        renamed := progress.renamed ++ [(String.ofList old, new)]
        reached := found.stop }
    | none => .error (.unmapped (String.ofList old))
  | _, _ => .error .insideCharacter

/-- A class list with its old names replaced; nothing when that leaves it as it is. -/
def rewriteValue (matcher : Matcher) (value : String) : Except MatchError (Option Renaming) :=
  let text := value.toList
  match (matcher.finds text).foldlM (matcher.replaceNext text) {} with
  | .error error => .error error
  | .ok progress =>
    if progress.renamed.isEmpty then .ok none
    else match slice? text ⟨progress.reached, byteLength text⟩ with
      | none => .error .insideCharacter
      | some kept =>
        let result := String.ofList (progress.written ++ kept)
        if result = value then .ok none
        else .ok (some { value := result, renamed := progress.renamed })

/-- The text that a class list becomes; nothing when it stays as it is. -/
def rewriteText (matcher : Matcher) (value : String) : Except MatchError (Option String) := do
  return (← matcher.rewriteValue value).map (·.value)

/-- The renaming of a class list, if there is one. A list whose names cannot be replaced stays as it
is. -/
def rename (matcher : Matcher) (value : String) : Option Renaming :=
  match matcher.rewriteValue value with
  | .ok change => change
  | .error _ => none

end Matcher

end ClassRename
