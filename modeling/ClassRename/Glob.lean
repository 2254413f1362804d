/-!
# Glob patterns

A pattern is a text in which some characters stand for several: `?` for any one character, `*` for
any run of characters, slashes among them, `[…]` for one character of a set and `[!…]` for one
outside of it. `**` stands for any number of whole folders and must itself be a whole step of the
path. A text that breaks these rules is no pattern.
-/

namespace ClassRename

inductive GlobPart where
  /-- This character. -/
  | exactly (c : Char)
  /-- Any one character. -/
  | any
  /-- One character in one of the closed ranges. -/
  | within (ranges : List (Char × Char))
  /-- One character in none of the closed ranges. -/
  | outside (ranges : List (Char × Char))
  /-- Any run of characters. -/
  | run
  /-- Any number of folders, or all that is left. -/
  | folders
  deriving DecidableEq, Repr

abbrev Glob := List GlobPart

namespace Glob

/-! ## Reading -/

/-- The ranges that a set's text lists; a hyphen between two characters makes a range of them. -/
def rangesOf : List Char → List (Char × Char)
  | low :: '-' :: high :: rest => (low, high) :: rangesOf rest
  | c :: rest => (c, c) :: rangesOf rest
  | [] => []

inductive Mode where
  /-- Between parts; `begins` tells that a step of the path begins here. -/
  | part (begins : Bool)
  /-- In a set, with its characters so far, latest first. -/
  | set (negated : Bool) (inside : List Char)

/-- A set with its characters, latest first. -/
def setPart (negated : Bool) (inside : List Char) : GlobPart :=
  let ranges := rangesOf inside.reverse
  if negated then .outside ranges else .within ranges

/-- The parts of a pattern. A set ends at the first closing bracket after its first character. -/
def partsFrom? : Mode → List Char → Option Glob
  | .part _, [] => some []
  | .set _ _, [] => none
  | .set negated inside, c :: rest =>
    if c = ']' then (partsFrom? (.part false) rest).map (setPart negated inside :: ·)
    else partsFrom? (.set negated (c :: inside)) rest
  | .part begins, '*' :: '*' :: rest =>
    if !begins then none
    else match rest with
      | [] => some [.folders]
      | '/' :: later => (partsFrom? (.part true) later).map (.folders :: ·)
      | _ => none
  | .part _, '*' :: rest => (partsFrom? (.part false) rest).map (.run :: ·)
  | .part _, '?' :: rest => (partsFrom? (.part false) rest).map (.any :: ·)
  | .part _, '[' :: '!' :: c :: rest => partsFrom? (.set true [c]) rest
  | .part _, '[' :: c :: rest => if c = '!' then none else partsFrom? (.set false [c]) rest
  | .part _, ['['] => none
  | .part _, c :: rest => (partsFrom? (.part (c == '/')) rest).map (.exactly c :: ·)

def ofString? (text : String) : Option Glob :=
  partsFrom? (.part true) text.toList

/-! ## Matching -/

def inRanges (ranges : List (Char × Char)) (c : Char) : Bool :=
  ranges.any fun range => range.1 ≤ c && c ≤ range.2

/-- What a run of characters may leave of a text. -/
def suffixes : List Char → List (List Char)
  | [] => [[]]
  | c :: rest => (c :: rest) :: suffixes rest

/-- What one folder or more may leave of a text: what follows a slash, or nothing. -/
def afterFolders : List Char → List (List Char)
  | [] => [[]]
  | c :: rest => if c = '/' then rest :: afterFolders rest else afterFolders rest

def matchesAll : Glob → List Char → Bool
  | [], text => text.isEmpty
  | .run :: later, text => (suffixes text).any fun rest => matchesAll later rest
  | .folders :: later, text => (text :: afterFolders text).any fun rest => matchesAll later rest
  | .exactly _ :: _, [] => false
  | .exactly expected :: later, c :: rest => c == expected && matchesAll later rest
  | .any :: _, [] => false
  | .any :: later, _ :: rest => matchesAll later rest
  | .within _ :: _, [] => false
  | .within ranges :: later, c :: rest => inRanges ranges c && matchesAll later rest
  | .outside _ :: _, [] => false
  | .outside ranges :: later, c :: rest => !inRanges ranges c && matchesAll later rest

def isMatch (glob : Glob) (text : String) : Bool :=
  glob.matchesAll text.toList

end Glob

end ClassRename
