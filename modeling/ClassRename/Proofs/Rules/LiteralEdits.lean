import ClassRename.Rewrite
import ClassRename.Proofs.Grammar.Scripts
import ClassRename.Proofs.Matching.Settled
import ClassRename.Proofs.Rules.SiteEdits
import ClassRename.Proofs.Script.CodeUnits

/-! # What a rewritten literal stands for

A rewritten string literal stands for the code units of the old one with new names in the place of old
ones, and all else kept. The one thing in the way is a lone surrogate: the value in which a literal is
held has a mark in its place, and the mark is what is written anew. So the code units of such a literal
are never just those with the names exchanged.
-/

namespace ClassRename

open Script

/-- The second list has the new names where the first has the old ones, one after the other, and is
the same between them. -/
def Exchanged : List (String × String) → List Nat → List Nat → Prop
  | [], units, units' => units' = units
  | (old, new) :: later, units, units' => ∃ gap rest rest',
    units = gap ++ (utf16 old.toList ++ rest) ∧ units' = gap ++ (utf16 new.toList ++ rest') ∧
      Exchanged later rest rest'

variable {renamed : List (String × String)} {units units' : List Nat}

/-- The lists differ in length as the names do. -/
theorem Exchanged.length_add (exchanged : Exchanged renamed units units') :
    units.length + (renamed.flatMap fun names => utf16 names.2.toList).length =
      units'.length + (renamed.flatMap fun names => utf16 names.1.toList).length := by
  induction renamed generalizing units units' with
  | nil =>
    obtain rfl : units' = units := exchanged
    rfl
  | cons names later ih =>
    obtain ⟨gap, rest, rest', rfl, rfl, exchanged⟩ := exchanged
    have := ih exchanged
    simp only [List.flatMap_cons, List.length_append]
    omega

/-- The units of a class list and of what it becomes along its segmentation. -/
theorem exchanged_segments (segments : List Segment) (tail : List Char) :
    Exchanged (replacements segments) (utf16 (segments.flatMap Segment.source ++ tail))
      (utf16 (segments.flatMap Segment.target ++ tail)) := by
  induction segments with
  | nil => rfl
  | cons segment later ih =>
    refine ⟨utf16 segment.gap, _, _, ?_, ?_, ih⟩
    · simp only [List.flatMap_cons, Segment.source, utf16_append, List.append_assoc]
    · simp only [List.flatMap_cons, Segment.target, utf16_append, List.append_assoc]

variable {dialect : Dialect} {source : String} {tree : Node} {literal : StringLiteral} {edit : Edit}

/-- A string literal and what is written in its place stand for code units that differ in the names
found in its value alone, exactly when the literal has no lone surrogate. -/
theorem Rule.allEdits_codeUnits (parsed : parse dialect source = .ok tree) (options : Options)
    (map : RenameMap) (isSite : MatchSite options.classAttribute tree (.string literal))
    (asked : edit ∈ Rule.allEdits options (Matcher.ofMap map) tree)
    (place : edit.span = literal.span) :
    ∃ text units units' segments tail, Holds source.toList literal.span text ∧
      (∀ any, StringUnits text any ↔ any = units) ∧
      (∀ any, StringUnits edit.replacement.toList any ↔ any = units') ∧
      Segmented map literal.value.toList [] segments tail ∧
      units' = utf16 (segments.flatMap Segment.target ++ tail) ∧
      (¬LoneSurrogate text → units = utf16 (segments.flatMap Segment.source ++ tail)) ∧
      (Exchanged (replacements segments) units units' ↔ ¬LoneSurrogate text) := by
  have placed := placed_of_parse parsed
  obtain ⟨site, isSite', rewrites⟩ := (placed.mem_mergedEdits_iff (List.Perm.refl _)).1 asked
  obtain rfl := placed.matchSite_eq isSite' isSite (rewrites.span_eq.symm.trans place)
  obtain ⟨text', holds', isLiteral'⟩ := placed.stands_of_matchSite isSite
  obtain ⟨holds, isLiteral, renamed⟩ := rewrites
  obtain rfl := holds.unique holds'
  obtain rfl := isLiteral.unique isLiteral'
  obtain ⟨segments, tail, segmented, rfl⟩ := Matcher.exists_segmented_of_rewriteValue renamed
  obtain ⟨units, stands, whole, lone⟩ := isLiteral.exists_stringUnits
  have written := stringUnits_quoted (replaced segments tail)
  have value : (replaced segments tail).toList = segments.flatMap Segment.target ++ tail := by
    rw [replaced, String.toList_ofList]
  have exchanged := exchanged_segments segments tail
  rw [segmented.joined, List.nil_append] at whole lone
  rw [value] at written
  refine ⟨_, units, _, segments, tail, holds, fun any => ?_, fun any => ?_, segmented, rfl, whole, ?_⟩
  · exact ⟨(StringUnits.unique · stands), fun same => same ▸ stands⟩
  · exact ⟨(StringUnits.unique · written), fun same => same ▸ written⟩
  · constructor
    · intro exchanged' isLone
      have longer := lone isLone
      have sizes := exchanged.length_add
      have sizes' := exchanged'.length_add
      omega
    · intro noLone
      rwa [whole noLone]

/-- An object whose member has escapes of several kinds, also in the name. -/
def escapedMember : String := "(\x7ba: \"\\x70-1\\\n\\u\x7b1f600\x7d\"\x7d)"

/-- The escapes around a name stay what they stand for. -/
theorem Rule.allEdits_codeUnits_escaped : ∃ tree literal edit,
    parse .typedMarkup escapedMember = .ok tree ∧
    MatchSite "className" tree (.string literal) ∧
    edit ∈ Rule.allEdits {} (Matcher.ofMap (.ofList [("p-1", "m-1")])) tree ∧
    edit.span = literal.span ∧ edit.replacement = "'m-1😀'" ∧
    ∃ text units units' segments tail, Holds escapedMember.toList literal.span text ∧
      (∀ any, StringUnits text any ↔ any = units) ∧
      (∀ any, StringUnits edit.replacement.toList any ↔ any = units') ∧
      Segmented (.ofList [("p-1", "m-1")]) literal.value.toList [] segments tail ∧
      units' = utf16 (segments.flatMap Segment.target ++ tail) ∧
      (¬LoneSurrogate text → units = utf16 (segments.flatMap Segment.source ++ tail)) ∧
      (Exchanged (replacements segments) units units' ↔ ¬LoneSurrogate text) := by
  have read : ((parse .typedMarkup escapedMember).map fun tree => (tree.marks,
      Rule.allEdits {} (Matcher.ofMap (.ofList [("p-1", "m-1")])) tree)).toOption =
      some ([.object 1, .string ⟨⟨5, 24⟩, "p-1😀"⟩],
        [⟨⟨5, 24⟩, "'m-1😀'", "Rename class 'p-1' to 'm-1'"⟩]) := by
    decide +kernel
  cases parsed : parse .typedMarkup escapedMember with
  | error error =>
    rw [parsed] at read
    cases read
  | ok tree =>
    rw [parsed] at read
    obtain ⟨marks, edits⟩ := Prod.mk.inj (Option.some.inj read)
    have asked : ⟨⟨5, 24⟩, "'m-1😀'", "Rename class 'p-1' to 'm-1'"⟩ ∈
        Rule.allEdits {} (Matcher.ofMap (.ofList [("p-1", "m-1")])) tree := by
      rw [edits]
      exact List.mem_cons_self
    obtain ⟨site, isSite, rewrites⟩ :=
      ((placed_of_parse parsed).mem_mergedEdits_iff (List.Perm.refl _)).1 asked
    have isMark := isSite.contains.mem_marks site.mark?_node
    rw [marks] at isMark
    cases site with
    | string literal =>
      exact ⟨tree, literal, _, rfl, isSite, asked, rewrites.span_eq, rfl,
        Rule.allEdits_codeUnits parsed {} _ isSite asked rewrites.span_eq⟩
    | «attribute» literal => simp [Site.mark] at isMark

/-- A lone surrogate gives way to five other code units: U+FFFD and the digits of its code. -/
theorem rewrite_loses_lone_surrogate :
    rewrite {} (Matcher.ofMap (.ofList [("p-1", "m-1")])) .typedMarkup
        "(\x7ba: '\\uD800 p-1'\x7d)" =
      .ok ⟨[⟨⟨5, 17⟩, "'\ufffdd800 m-1'", "Rename class 'p-1' to 'm-1'"⟩],
        some "(\x7ba: '\ufffdd800 m-1'\x7d)"⟩ ∧
    StringUnits "'\\uD800 p-1'".toList [0xD800, 0x20, 0x70, 0x2D, 0x31] ∧
    StringUnits "'\ufffdd800 m-1'".toList
      [0xFFFD, 0x64, 0x38, 0x30, 0x30, 0x20, 0x6D, 0x2D, 0x31] := by
  refine ⟨by decide +kernel, ?_, ?_⟩
  · have closed : Closed '\'' "\\uD800 p-1".toList := by
      rw [Closed]
      decide +kernel
    have decoded : decodePieces "\\uD800 p-1".toList =
        some [.surrogate 0xD800, .char ' ', .char 'p', .char '-', .char '1'] := by
      decide +kernel
    exact ⟨'\'', _, .inr rfl, by decide +kernel, stringBody_of_decodeFrom (.inr rfl) closed decoded⟩
  · have text : quoted "\ufffdd800 m-1" = "'\ufffdd800 m-1'" := by decide +kernel
    have units : utf16 "\ufffdd800 m-1".toList =
        [0xFFFD, 0x64, 0x38, 0x30, 0x30, 0x20, 0x6D, 0x2D, 0x31] := by
      decide +kernel
    rw [← text, ← units]
    exact stringUnits_quoted _

end ClassRename
