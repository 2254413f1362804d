import ClassRename.Proofs.Edits.Splicing
import ClassRename.Proofs.Rules.Sites

/-! # What the rules ask for

Each match site whose text the matcher rewrites gives one edit. All rules compute it from the string
alone, and strings do not touch one another, so merging brings the edits of all rules together into
one list in the order of the text, whatever the order of the rules.
-/

namespace ClassRename

open Script

/-- The edit rewrites the string that the source has at the site: a string literal by its decoded
value, the string of an attribute by its raw text. -/
inductive Rewrites (source : List Char) (matcher : Matcher) : Site → Edit → Prop where
  /-- The new value of a string literal is written as a string literal. -/
  | string {literal : StringLiteral} {text : List Char} {value : String} {change : Renaming} :
    Holds source literal.span text → LiteralText text value →
    matcher.rewriteValue value = .ok (some change) →
    Rewrites source matcher (.string literal)
      ⟨literal.span, quoted change.value, change.describe⟩
  /-- The new text of an attribute is written as an attribute string. -/
  | attribute {literal : StringLiteral} {text : List Char} {raw : String} {change : Renaming} :
    Holds source literal.span text → AttributeText text raw →
    matcher.rewriteValue raw = .ok (some change) →
    Rewrites source matcher (.attribute literal)
      ⟨literal.span, attributeQuoted change.value, change.describe⟩

variable {source : List Char} {tree : Node} {matcher : Matcher} {options : Options} {site : Site}
  {edit : Edit} {rules : List Rule}

theorem Matcher.rename_eq_some_iff {value : String} {change : Renaming} :
    matcher.rename value = some change ↔ matcher.rewriteValue value = .ok (some change) := by
  unfold Matcher.rename
  cases matcher.rewriteValue value <;> simp

/-- A site of a tree that marks its text truly is rewritten by the string that the text has there. -/
theorem Site.edit?_eq_some_iff (stands : site.mark.Stands source) :
    site.edit? matcher = some edit ↔ Rewrites source matcher site edit := by
  rw [Site.edit?, Option.map_eq_some_iff]
  simp only [Matcher.rename_eq_some_iff]
  cases site with
  | string literal =>
    obtain ⟨text, holds, isLiteral⟩ := stands
    constructor
    · rintro ⟨change, renamed, rfl⟩
      exact .string holds isLiteral renamed
    · rintro ⟨holds', isLiteral', renamed⟩
      obtain rfl := holds.unique holds'
      obtain rfl := isLiteral.unique isLiteral'
      exact ⟨_, renamed, rfl⟩
  | «attribute» literal =>
    obtain ⟨text, holds, isAttribute⟩ := stands
    constructor
    · rintro ⟨change, renamed, rfl⟩
      exact .attribute holds isAttribute renamed
    · intro rewrites
      cases rewrites with
      | «attribute» holds' isAttribute' renamed =>
        obtain rfl := holds.unique holds'
        obtain rfl := isAttribute.unique isAttribute'
        exact ⟨_, renamed, rfl⟩

/-- The edit of a site replaces the string there. -/
theorem Rewrites.span_eq (rewrites : Rewrites source matcher site edit) :
    edit.span = site.literal.span := by
  cases rewrites <;> rfl

/-- The source has a string where an edit is. -/
theorem Rewrites.exists_holds (rewrites : Rewrites source matcher site edit) :
    edit.span.start < edit.span.stop ∧ ∃ old, Holds source edit.span old := by
  cases rewrites with
  | string holds isLiteral _ => exact ⟨holds.start_lt_stop isLiteral.ne_nil, _, holds⟩
  | «attribute» holds isAttribute _ => exact ⟨holds.start_lt_stop isAttribute.ne_nil, _, holds⟩

/-- A site has one edit at most. -/
theorem Rewrites.unique {edit' : Edit} (rewrites : Rewrites source matcher site edit)
    (rewrites' : Rewrites source matcher site edit') : edit = edit' := by
  cases rewrites with
  | string holds isLiteral renamed =>
    obtain ⟨holds', isLiteral', renamed'⟩ := rewrites'
    obtain rfl := holds.unique holds'
    obtain rfl := isLiteral.unique isLiteral'
    cases renamed.symm.trans renamed'
    rfl
  | «attribute» holds isAttribute renamed =>
    cases rewrites' with
    | «attribute» holds' isAttribute' renamed' =>
      obtain rfl := holds.unique holds'
      obtain rfl := isAttribute.unique isAttribute'
      cases renamed.symm.trans renamed'
      rfl

namespace Script.Placed

variable {classAttribute : String} {site' : Site}

theorem stands_of_matchSite (placed : Placed source tree)
    (isSite : MatchSite classAttribute tree site) : site.mark.Stands source :=
  placed.stands _ (isSite.contains.mem_marks site.mark?_node)

/-- Where a match site begins tells the site. -/
theorem matchSite_eq (placed : Placed source tree) {classAttribute' : String}
    (isSite : MatchSite classAttribute tree site) (isSite' : MatchSite classAttribute' tree site')
    (same : site.literal.span = site'.literal.span) : site = site' := by
  refine Site.node_injective (placed.node_eq isSite.contains isSite'.contains site.mark?_node
    site'.mark?_node ?_)
  rw [Site.span_mark, Site.span_mark, same]

/-- Each rule asks for the edits of match sites. -/
theorem mem_edits_iff (placed : Placed source tree) :
    (∃ rule ∈ Rule.all, edit ∈ rule.edits options matcher tree) ↔
      ∃ site, MatchSite options.classAttribute tree site ∧ Rewrites source matcher site edit := by
  simp only [Rule.edits, List.mem_filterMap]
  constructor
  · rintro ⟨rule, isRule, site, found, asked⟩
    have isSite := (Rule.exists_mem_sites_iff placed).1 ⟨rule, isRule, found⟩
    exact ⟨site, isSite, (Site.edit?_eq_some_iff (placed.stands_of_matchSite isSite)).1 asked⟩
  · rintro ⟨site, isSite, rewrites⟩
    obtain ⟨rule, isRule, found⟩ := (Rule.exists_mem_sites_iff placed).2 isSite
    exact ⟨rule, isRule, site, found,
      (Site.edit?_eq_some_iff (placed.stands_of_matchSite isSite)).2 rewrites⟩

/-- The edits that the rules ask for do not touch one another, unless they are one. -/
theorem apart_edits (placed : Placed source tree) (options : Options) (matcher : Matcher)
    (known : rules ⊆ Rule.all) :
    Edit.Apart (rules.flatMap fun rule => rule.edits options matcher tree) := by
  have ofSite {edit : Edit} (asked : edit ∈ rules.flatMap fun rule => rule.edits options matcher tree) :
      ∃ site, MatchSite options.classAttribute tree site ∧ Rewrites source matcher site edit := by
    obtain ⟨rule, isRule, asked⟩ := List.mem_flatMap.1 asked
    exact placed.mem_edits_iff.1 ⟨rule, known isRule, asked⟩
  constructor
  · intro edit asked
    obtain ⟨site, -, rewrites⟩ := ofSite asked
    exact rewrites.exists_holds.1
  · intro a asked b asked'
    obtain ⟨site, isSite, rewrites⟩ := ofSite asked
    obtain ⟨site', isSite', rewrites'⟩ := ofSite asked'
    have inTree := isSite.contains.mem_marks site.mark?_node
    have inTree' := isSite'.contains.mem_marks site'.mark?_node
    rcases placed.apart inTree inTree' with same | first | second
    · have sameSpan : site.literal.span = site'.literal.span := by
        rw [← Site.span_mark, same, Site.span_mark]
      obtain rfl := placed.matchSite_eq isSite isSite' sameSpan
      exact .inl (rewrites.unique rewrites')
    · rw [Site.span_mark, Site.span_mark, ← rewrites.span_eq, ← rewrites'.span_eq] at first
      exact .inr (.inl first)
    · rw [Site.span_mark, Site.span_mark, ← rewrites.span_eq, ← rewrites'.span_eq] at second
      exact .inr (.inr second)

/-- All rules together ask for the edits of the match sites. -/
theorem mem_mergedEdits_iff (placed : Placed source tree) (all : rules.Perm Rule.all) :
    edit ∈ Rule.mergedEdits options matcher rules tree ↔
      ∃ site, MatchSite options.classAttribute tree site ∧ Rewrites source matcher site edit := by
  rw [Rule.mergedEdits, (placed.apart_edits options matcher all.subset).mem_merge_iff, ← placed.mem_edits_iff,
    List.mem_flatMap]
  simp only [all.mem_iff]

/-- The order of the rules does not matter. -/
theorem mergedEdits_eq (placed : Placed source tree) (all : rules.Perm Rule.all) :
    Rule.mergedEdits options matcher rules tree = Rule.allEdits options matcher tree := by
  refine (placed.apart_edits options matcher all.subset).merge_eq fun edit => ?_
  rw [List.mem_flatMap, List.mem_flatMap]
  simp only [all.mem_iff]

/-- All edits depend on the class list attribute alone: the other rule for an attribute brings nothing
that is not found without it. -/
theorem allEdits_congr (placed : Placed source tree) (matcher : Matcher) {options' : Options}
    (same : options.classAttribute = options'.classAttribute) :
    Rule.allEdits options matcher tree = Rule.allEdits options' matcher tree := by
  refine (placed.apart_edits options matcher (List.Subset.refl _)).merge_eq fun edit => ?_
  rw [List.mem_flatMap, List.mem_flatMap, placed.mem_edits_iff, placed.mem_edits_iff, same]

/-- All edits follow one another in the text. -/
theorem allEdits_pairwise (placed : Placed source tree) (options : Options) (matcher : Matcher) :
    (Rule.allEdits options matcher tree).Pairwise Edit.Precedes :=
  (placed.apart_edits options matcher (List.Subset.refl _)).merge_pairwise

/-- All edits start at different places. -/
theorem allEdits_startsBefore (placed : Placed source tree) (options : Options)
    (matcher : Matcher) :
    (Rule.allEdits options matcher tree).Pairwise Edit.StartsBefore :=
  (placed.apart_edits options matcher (List.Subset.refl _)).merge_startsBefore

/-- The source has a string where one of all edits is. -/
theorem exists_holds_of_mem_allEdits (placed : Placed source tree)
    (asked : edit ∈ Rule.allEdits options matcher tree) :
    edit.span.start < edit.span.stop ∧ ∃ old, Holds source edit.span old := by
  obtain ⟨site, -, rewrites⟩ := (placed.mem_mergedEdits_iff (List.Perm.refl _)).1 asked
  exact rewrites.exists_holds

variable {span : Span} {members : List Node} {literal : StringLiteral}

/-- A string literal in the tree that begins like a match site is one. -/
theorem matchSite_of_span_eq (placed : Placed source tree) (contained : tree.Contains (.string literal))
    (isSite : MatchSite classAttribute tree site) (same : site.literal.span = literal.span) :
    MatchSite classAttribute tree (.string literal) := by
  have sameNode : site.node = .string literal := by
    refine placed.node_eq isSite.contains contained site.mark?_node rfl ?_
    rw [Site.span_mark, same]
    rfl
  obtain rfl : site = .string literal := Site.node_injective sameNode
  exact isSite

/-- A string that is a part of some member stands in one object alone, and in one place of it. -/
theorem member_eq (placed : Placed source tree) {object object' member member' : Node}
    {slot slot' : Nat} (contained : tree.Contains object) (contained' : tree.Contains object')
    (isMember : member ∈ object.parts) (isMember' : member' ∈ object'.parts)
    (isPart : member.parts[slot]? = some (.string literal))
    (isPart' : member'.parts[slot']? = some (.string literal)) :
    object = object' ∧ slot = slot' := by
  obtain ⟨path, index, leads, toMember⟩ := contained.exists_path isMember
  obtain ⟨path', index', leads', toMember'⟩ := contained'.exists_path isMember'
  have down := Node.at?_concat.2 ⟨member, toMember, isPart⟩
  have down' := Node.at?_concat.2 ⟨member', toMember', isPart'⟩
  have samePath := placed.path_eq down down' rfl rfl rfl
  obtain ⟨sameMember, rfl⟩ := List.append_singleton_inj.1 samePath
  obtain ⟨rfl, -⟩ := List.append_singleton_inj.1 sameMember
  exact ⟨Option.some.inj (leads.symm.trans leads'), rfl⟩

/-- A string that is a part of a property is no argument of a call. -/
theorem not_mem_arguments (placed : Placed source tree) {key value : Node} {arguments : List Node}
    {slot : Nat} (contained : tree.Contains (.property key value))
    (isPart : (Node.property key value).parts[slot]? = some (.string literal))
    (joins : Joins classAttribute tree arguments) : .string literal ∉ arguments := by
  intro isArgument
  obtain ⟨callee, isCall⟩ := joins.contains
  have isPart' : Node.string literal ∈ (Node.call callee arguments).parts :=
    List.mem_cons_of_mem _ isArgument
  obtain ⟨index, found⟩ := List.mem_iff_getElem?.1 isPart'
  obtain ⟨⟨⟩, -⟩ := placed.parent_eq contained isCall isPart found rfl rfl rfl

/-- A value of a joined object is no match site. -/
theorem not_matchSite_of_joined (placed : Placed source tree) {key : Node}
    (joined : Joined classAttribute tree (.object span members))
    (isMember : .property key (.string literal) ∈ members) :
    ¬MatchSite classAttribute tree (.string literal) := by
  intro isSite
  have isValue := Node.value_part key (.string literal)
  cases isSite with
  | objectValue contained isMember' free =>
    obtain ⟨same, -⟩ := placed.member_eq joined.contains contained isMember isMember' isValue
      (Node.value_part ..)
    exact free (same ▸ joined)
  | argument joins isArgument =>
    have isProperty := joined.contains.of_mem_parts isMember
    exact placed.not_mem_arguments isProperty isValue joins isArgument
  | joinedKey joined' isMember' =>
    obtain ⟨-, ⟨⟩⟩ := placed.member_eq joined.contains joined'.contains isMember isMember' isValue
      (Node.key_part ..)

/-- A key of an object that no call joins is no match site. -/
theorem not_matchSite_of_not_joined (placed : Placed source tree) {value : Node}
    (contained : tree.Contains (.object span members))
    (free : ¬Joined classAttribute tree (.object span members))
    (isMember : .property (.string literal) value ∈ members) :
    ¬MatchSite classAttribute tree (.string literal) := by
  intro isSite
  have isKey := Node.key_part (.string literal) value
  cases isSite with
  | objectValue contained' isMember' _ =>
    obtain ⟨-, ⟨⟩⟩ := placed.member_eq contained contained' isMember isMember' isKey
      (Node.value_part ..)
  | argument joins isArgument =>
    have isProperty := contained.of_mem_parts isMember
    exact placed.not_mem_arguments isProperty isKey joins isArgument
  | joinedKey joined isMember' =>
    obtain ⟨same, -⟩ := placed.member_eq contained joined.contains isMember isMember' isKey
      (Node.key_part ..)
    exact free (same ▸ joined)

end Script.Placed

end ClassRename
