import ClassRename.Rewrite
import ClassRename.Proofs.Grammar.Elements
import ClassRename.Proofs.Grammar.Scripts
import ClassRename.Proofs.Rules.SiteEdits

/-! # Reading a rewritten script again

A script stays readable when strings where the rules look give way to strings of their kinds. String
literals always do. What is written for an attribute is a string unless it holds both kinds of
quotes, which no attribute string can; then the rewritten script has no string at that place. What is
asked of the reader is named: `Interchangeable`. The grammar's own reader has it on every script of one
element with an attribute string.
-/

namespace ClassRename

open Script

/-- The text is a string of the site's kind with the value. -/
def Site.IsText : Site → List Char → String → Prop
  | .string _ => LiteralText
  | .attribute _ => AttributeText

/-- The edit puts a string of its kind in the place of a match site, whatever the class list
attribute is called. -/
def Exchanges (tree : Node) (edit : Edit) : Prop :=
  ∃ classAttribute site value, MatchSite classAttribute tree site ∧
    edit.span = site.literal.span ∧ site.IsText edit.replacement.toList value

/-- The reader takes a script again when strings at match sites give way to strings of their kinds. -/
def Interchangeable (read : String → Except SyntaxError Node) (source : String) (tree : Node) :
    Prop :=
  ∀ edits result, Edit.Splices 0 edits source.toList result →
    (∀ edit ∈ edits, Exchanges tree edit) → ∃ tree', read (String.ofList result) = .ok tree'

/-- The string of some class list attribute is rewritten to a text with both kinds of quotes. -/
def SpoilsAttribute (classAttribute : String) (matcher : Matcher) (source : String) (tree : Node) :
    Prop :=
  ∃ literal text raw change, MatchSite classAttribute tree (.attribute literal) ∧
    Holds source.toList literal.span text ∧ AttributeText text raw ∧
    matcher.rewriteValue raw = .ok (some change) ∧ HoldsBothQuotes change.value

variable {source : String} {tree : Node} {matcher : Matcher} {options : Options}
  {read : String → Except SyntaxError Node}

/-- Every edit puts a string of its kind in place exactly when no attribute is spoilt. -/
theorem Script.Placed.exchanges_iff (placed : Placed source.toList tree) (options : Options)
    (matcher : Matcher) :
    (∀ edit ∈ Rule.allEdits options matcher tree, Exchanges tree edit) ↔
      ¬SpoilsAttribute options.classAttribute matcher source tree := by
  constructor
  · rintro exchanges ⟨literal, text, raw, change, isSite, holds, isText, renamed, both⟩
    have asked := (placed.mem_mergedEdits_iff (List.Perm.refl _)).2
      ⟨_, isSite, Rewrites.attribute holds isText renamed⟩
    obtain ⟨classAttribute, site, value, isSite', same, isText'⟩ := exchanges _ asked
    obtain rfl := placed.matchSite_eq isSite isSite' same
    exact ((attributeText_attributeQuoted_iff change.value value).1 isText').2 both
  · intro unspoilt edit asked
    obtain ⟨site, isSite, rewrites⟩ := (placed.mem_mergedEdits_iff (List.Perm.refl _)).1 asked
    refine ⟨options.classAttribute, site, ?_⟩
    cases rewrites with
    | string holds isText renamed => exact ⟨_, isSite, rfl, literalText_quoted _⟩
    | «attribute» holds isText renamed =>
      refine ⟨_, isSite, rfl, (attributeText_attributeQuoted_iff _ _).2 ⟨rfl, fun both => ?_⟩⟩
      exact unspoilt ⟨_, _, _, _, isSite, holds, isText, renamed, both⟩

/-- What `rewriteBy` writes is the source with the edits put in from left to right. -/
theorem Script.Placed.splices_of_rewriteBy (placed : Placed source.toList tree)
    (reads : read source = .ok tree) {rewritten : Rewritten} {newSource : String}
    (done : rewriteBy read options matcher source = .ok rewritten)
    (written : rewritten.newSource = some newSource) :
    Edit.Splices 0 (Rule.allEdits options matcher tree) source.toList newSource.toList := by
  obtain ⟨result, made, splices⟩ :=
    Edit.exists_applyAll_eq_ok (placed.allEdits_pairwise options matcher)
      fun edit => placed.exists_holds_of_mem_allEdits
  simp only [rewriteBy, reads] at done
  split at done
  · cases done
    cases written
  · rw [made] at done
    cases done
    cases written
    rwa [String.toList_ofList]

/-! ## Scripts of one element -/

section

variable {text : List Char} {tag key raw : String}

theorem mem_marks_elementTree {span : Span} {mark : Mark} :
    mark ∈ (elementTree key span raw).marks ↔ mark = .attributeString ⟨span, raw⟩ := by
  simp [elementTree, Node.marks, Node.nodes, Node.nodesOfAll, Node.statement, Node.mark?, eq_comm]

/-- Another attribute string may stand in the element. -/
theorem interchangeable_element (isTag : IsPlainName tag) (isKey : IsPlainName key) (notConst : tag ≠ "const")
    (isText : AttributeText text raw) :
    Interchangeable (parse .typedMarkup)
      (String.ofList (elementFront tag key ++ (text ++ elementBack)))
      (elementTree key ⟨byteLength (elementFront tag key),
        byteLength (elementFront tag key) + byteLength text⟩ raw) := by
  intro edits result splices exchanges
  rw [String.toList_ofList] at splices
  have isList (edit : Edit) (isEdit : edit ∈ edits) :
      edit.span = ⟨byteLength (elementFront tag key),
        byteLength (elementFront tag key) + byteLength text⟩ ∧
        ∃ raw, AttributeText edit.replacement.toList raw := by
    obtain ⟨classAttribute, site, value, isSite, same, isText'⟩ := exchanges edit isEdit
    have isMark := mem_marks_elementTree.1 (isSite.contains.mem_marks site.mark?_node)
    cases site with
    | string literal => cases isMark
    | «attribute» literal =>
      cases isMark
      exact ⟨same, value, isText'⟩
  have spans (edit : Edit) (isEdit : edit ∈ edits) :
      edit.span = ⟨byteLength (elementFront tag key),
        byteLength (elementFront tag key ++ text)⟩ := by
    rw [(isList edit isEdit).1, byteLength_append]
  rcases splices.eq_of_span_eq isText.ne_nil spans with rfl | ⟨edit, isEdit, rfl⟩
  · exact ⟨_, parse_element isTag isKey notConst isText⟩
  · obtain ⟨-, raw', isText'⟩ := isList edit isEdit
    exact ⟨_, parse_element isTag isKey notConst isText'⟩

end

/-! ## Readable scripts stay readable -/

/-- The strings that are written are strings of their kinds exactly when no attribute is spoilt, and
then the rewritten script can be read again. -/
theorem rewriteBy_readable (reads : read source = .ok tree) (placed : Placed source.toList tree)
    (interchangeable : Interchangeable read source tree) (options : Options) (matcher : Matcher) :
    ((∀ edit ∈ Rule.allEdits options matcher tree, Exchanges tree edit) ↔
      ¬SpoilsAttribute options.classAttribute matcher source tree) ∧
    (¬SpoilsAttribute options.classAttribute matcher source tree →
      ∀ rewritten newSource, rewriteBy read options matcher source = .ok rewritten →
        rewritten.newSource = some newSource → ∃ tree', read newSource = .ok tree') := by
  refine ⟨placed.exchanges_iff options matcher, ?_⟩
  intro unspoilt rewritten newSource done written
  have splices := placed.splices_of_rewriteBy reads done written
  have exchanges := (placed.exchanges_iff options matcher).2 unspoilt
  have readable := interchangeable _ _ splices exchanges
  rwa [String.ofList_toList] at readable

/-- The grammar's own reader meets all that is asked of a reader, here on the script
`<a className="p-1"/>`. -/
theorem rewriteBy_readable_element : ∃ source tree, parse .typedMarkup source = .ok tree ∧
    Placed source.toList tree ∧ Interchangeable (parse .typedMarkup) source tree ∧
    ∀ options matcher,
      ((∀ edit ∈ Rule.allEdits options matcher tree, Exchanges tree edit) ↔
        ¬SpoilsAttribute options.classAttribute matcher source tree) ∧
      (¬SpoilsAttribute options.classAttribute matcher source tree →
        ∀ rewritten newSource,
          rewriteBy (parse .typedMarkup) options matcher source = .ok rewritten →
          rewritten.newSource = some newSource →
          ∃ tree', parse .typedMarkup newSource = .ok tree') := by
  have isTag : IsPlainName "a" := ⟨by simp, by simp⟩
  have isKey : IsPlainName "className" := ⟨by simp, by simp⟩
  have isText : AttributeText ['"', 'p', '-', '1', '"'] "p-1" :=
    ⟨'"', .inl rfl, by decide, by decide⟩
  have reads := parse_element isTag isKey (by decide) isText
  have placed := placed_of_parse reads
  have interchangeable := interchangeable_element isTag isKey (by decide) isText
  exact ⟨_, _, reads, placed, interchangeable, rewriteBy_readable reads placed interchangeable⟩

/-- With a spoilt attribute a script may not be readable any more. Here the new name has double quotes
and the class list a single one, so the string that is written ends too early. -/
theorem rewrite_unreadable_of_both_quotes :
    (rewrite {} (Matcher.ofMap (RenameMap.ofList [("p-1", "\"q\"")])) .typedMarkup
      "<a className=\"it's p-1\"/>").map (·.newSource) =
        .ok (some "<a className=\"it's \"q\"\"/>") ∧
    parse .typedMarkup "<a className=\"it's \"q\"\"/>" = .error ⟨21⟩ := by
  have refused : (parse .typedMarkup "<a className=\"it's \"q\"\"/>").map (fun _ => ()) =
      .error ⟨21⟩ := by decide +kernel
  constructor
  · decide +kernel
  · cases parsed : parse .typedMarkup "<a className=\"it's \"q\"\"/>" with
    | error error =>
      rw [parsed] at refused
      cases refused
      rfl
    | ok tree =>
      rw [parsed] at refused
      cases refused

end ClassRename
