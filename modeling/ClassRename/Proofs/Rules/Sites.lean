import ClassRename.Proofs.Rules.MatchSite
import Mathlib.Data.List.Induction

/-! # What the rules find

The first rule goes through a tree with a growing list of the places of joined objects and compares
objects with it by place. In a tree that marks its text truly this list tells, when an object is met,
exactly whether a call joins it, since the attribute around the call is met before the object. So the
three rules together find the match sites and nothing else.
-/

namespace ClassRename

open Script

/-- The objects that a node adds to those that are joined. -/
def joinedAt (classAttribute : String) : Node → List Span
  | .attribute name value => if name = .plain classAttribute then joinedObjects value else []
  | _ => []

variable {classAttribute : String} {tree : Node} {site : Site} {source : List Char}

/-- The search knows the joined objects of all attributes that it met. -/
theorem ObjectSearch.joined_foldl (classAttribute : String) (nodes : List Node) :
    (nodes.foldl (ObjectSearch.enter classAttribute) {}).joined =
      nodes.flatMap (joinedAt classAttribute) := by
  induction nodes using List.reverseRecOn with
  | nil => rfl
  | append_singleton nodes node ih =>
    rw [List.foldl_concat, List.flatMap_append, List.flatMap_singleton, ← ih]
    cases node <;> simp only [ObjectSearch.enter, joinedAt, List.append_nil]
    · split <;> rfl
    · split <;> simp

/-- One step takes the values of an object that is not joined. -/
theorem ObjectSearch.mem_sites_enter {search : ObjectSearch} {node : Node} :
    site ∈ (search.enter classAttribute node).sites ↔
      site ∈ search.sites ∨ ∃ span members, node = .object span members ∧
        span ∉ search.joined ∧ site ∈ valueSites members := by
  cases node with
  | object span members =>
    by_cases joined : span ∈ search.joined
    · simp only [ObjectSearch.enter, List.contains_iff_mem, joined, ↓reduceIte]
      constructor
      · exact .inl
      · rintro (found | ⟨_, _, ⟨⟩, free, -⟩)
        · exact found
        · exact absurd joined free
    · simp only [ObjectSearch.enter, List.contains_iff_mem, joined, ↓reduceIte, List.mem_append]
      constructor
      · rintro (found | isValue)
        · exact .inl found
        · exact .inr ⟨span, members, rfl, joined, isValue⟩
      · rintro (found | ⟨_, _, ⟨⟩, -, isValue⟩)
        · exact .inl found
        · exact .inr isValue
  | «attribute» name value =>
    simp only [ObjectSearch.enter, reduceCtorEq, false_and, exists_const, or_false]
    split <;> rfl
  | _ => simp [ObjectSearch.enter]

/-- The search takes the values of each object that no attribute met before it joins. -/
theorem ObjectSearch.mem_sites_foldl {nodes : List Node} :
    site ∈ (nodes.foldl (ObjectSearch.enter classAttribute) {}).sites ↔
      ∃ before span members after, nodes = before ++ .object span members :: after ∧
        span ∉ before.flatMap (joinedAt classAttribute) ∧ site ∈ valueSites members := by
  induction nodes using List.reverseRecOn with
  | nil => simp
  | append_singleton nodes node ih =>
    rw [List.foldl_concat, mem_sites_enter, ih, joined_foldl]
    constructor
    · rintro (⟨before, span, members, after, rfl, free, isValue⟩ |
        ⟨span, members, rfl, free, isValue⟩)
      · exact ⟨before, span, members, after ++ [node], by simp, free, isValue⟩
      · exact ⟨nodes, span, members, [], rfl, free, isValue⟩
    · rintro ⟨before, span, members, after, split, free, isValue⟩
      rcases List.eq_nil_or_concat after with rfl | ⟨after, last, rfl⟩
      · obtain ⟨rfl, rfl⟩ := List.append_singleton_inj.1 split
        exact .inr ⟨span, members, rfl, free, isValue⟩
      · rw [List.concat_eq_append, ← List.cons_append, ← List.append_assoc] at split
        obtain ⟨rfl, rfl⟩ := List.append_singleton_inj.1 split
        exact .inl ⟨before, span, members, after, rfl, free, isValue⟩

/-- What an attribute joins are the spans of the objects among the arguments of its call. -/
theorem mem_joinedAt_iff {node : Node} {span : Span} :
    span ∈ joinedAt classAttribute node ↔ ∃ value arguments members,
      node = .attribute (.plain classAttribute) value ∧ joinedArguments? value = some arguments ∧
        .object span members ∈ arguments := by
  constructor
  · intro isJoined
    cases node with
    | «attribute» name value =>
      simp only [joinedAt] at isJoined
      split at isJoined
      · next wanted =>
        obtain ⟨argument, isArgument, objectSpan⟩ := List.mem_filterMap.1 isJoined
        cases found : joinedArguments? value with
        | none =>
          rw [found] at isArgument
          cases isArgument
        | some arguments =>
          rw [found] at isArgument
          cases argument with
          | object =>
            cases objectSpan
            exact ⟨value, arguments, _, by rw [wanted], found, isArgument⟩
          | _ => cases objectSpan
      · cases isJoined
    | _ => cases isJoined
  · rintro ⟨value, arguments, members, rfl, found, isArgument⟩
    rw [joinedAt, if_pos rfl, joinedObjects, found]
    exact List.mem_filterMap.2 ⟨_, isArgument, rfl⟩

theorem mem_valueSites_iff {members : List Node} :
    site ∈ valueSites members ↔
      ∃ key literal, .property key (.string literal) ∈ members ∧ site = .string literal := by
  constructor
  · intro isValue
    obtain ⟨member, isMember, isSite⟩ := List.mem_filterMap.1 isValue
    split at isSite
    · next key literal =>
      cases isSite
      exact ⟨key, literal, isMember, rfl⟩
    · cases isSite
  · rintro ⟨key, literal, isMember, rfl⟩
    exact List.mem_filterMap.2 ⟨_, isMember, rfl⟩

theorem mem_keySites_iff {members : List Node} :
    site ∈ keySites members ↔
      ∃ value literal, .property (.string literal) value ∈ members ∧ site = .string literal := by
  constructor
  · intro isKey
    obtain ⟨member, isMember, isSite⟩ := List.mem_filterMap.1 isKey
    split at isSite
    · next literal value =>
      cases isSite
      exact ⟨value, literal, isMember, rfl⟩
    · cases isSite
  · rintro ⟨value, literal, isMember, rfl⟩
    exact List.mem_filterMap.2 ⟨_, isMember, rfl⟩

theorem mem_attributeSites_iff {wanted : String} {sitesOf : Node → List Site} :
    site ∈ tree.nodes.flatMap (Rule.attributeSites wanted sitesOf) ↔
      ∃ value, tree.Contains (.attribute (.plain wanted) value) ∧ site ∈ sitesOf value := by
  rw [List.mem_flatMap]
  constructor
  · rintro ⟨node, met, isSite⟩
    cases node with
    | «attribute» name value =>
      simp only [Rule.attributeSites] at isSite
      split at isSite
      · next same =>
        subst same
        exact ⟨value, Node.mem_nodes_iff.1 met, isSite⟩
      · cases isSite
    | _ => cases isSite
  · rintro ⟨value, contained, isSite⟩
    refine ⟨_, Node.mem_nodes_iff.2 contained, ?_⟩
    rwa [Rule.attributeSites, if_pos rfl]

/-- Objects that begin at one place are one object. -/
theorem Script.Placed.object_eq (placed : Placed source tree) {span : Span}
    {members members' : List Node} (contained : tree.Contains (.object span members))
    (contained' : tree.Contains (.object span members')) : members = members' := by
  cases placed.node_eq contained contained' rfl rfl rfl
  rfl

/-- An object's span is in the search's list, when the walk meets the object, exactly when a call
joins the object. -/
theorem Script.Placed.mem_joined_iff (placed : Placed source tree) {before after : List Node}
    {span : Span} {members : List Node}
    (walk : tree.nodes = before ++ .object span members :: after) :
    span ∈ before.flatMap (joinedAt classAttribute) ↔
      Joined classAttribute tree (.object span members) := by
  have here : tree.Contains (.object span members) :=
    Node.mem_nodes_iff.1 (by rw [walk]; exact List.mem_append_right _ List.mem_cons_self)
  rw [List.mem_flatMap]
  constructor
  · rintro ⟨node, met, isJoined⟩
    obtain ⟨value, arguments, members', rfl, found, isArgument⟩ := mem_joinedAt_iff.1 isJoined
    have contained : tree.Contains (.attribute (.plain classAttribute) value) :=
      Node.mem_nodes_iff.1 (by rw [walk]; exact List.mem_append_left _ met)
    have joins := joins_iff.2 ⟨value, contained, found⟩
    obtain rfl := placed.object_eq here (Joined.contains ⟨arguments, joins, isArgument⟩)
    exact ⟨arguments, joins, isArgument⟩
  · rintro ⟨arguments, joins, isArgument⟩
    obtain ⟨value, ⟨path, leads⟩, found⟩ := joins_iff.1 joins
    obtain ⟨further, leadsOn⟩ := contains_of_joinedArguments? found isArgument
    have leadsDown : (Node.attribute (.plain classAttribute) value).at? (0 :: further) = some _ :=
      Node.at?_cons.2 ⟨value, rfl, leadsOn⟩
    -- The attribute is met before the object, and the object is not met twice.
    obtain ⟨earlier, later, walk', metLater⟩ :=
      Node.exists_nodes_eq_append leads leadsDown (List.cons_ne_nil _ _)
    obtain ⟨between, rest, rfl⟩ := List.append_of_mem metLater
    rw [← List.cons_append, ← List.append_assoc] at walk'
    have same := placed.met_once walk' walk rfl
    refine ⟨.attribute (.plain classAttribute) value, ?_,
      mem_joinedAt_iff.2 ⟨value, arguments, members, rfl, found, isArgument⟩⟩
    rw [← same]
    exact List.mem_append_right _ List.mem_cons_self

namespace Rule

variable {options : Options}

/-- The first rule finds the values of the objects that no call joins. -/
theorem mem_sites_objectValues_iff (placed : Placed source tree) :
    site ∈ objectValues.sites options tree ↔ ∃ span members,
      tree.Contains (.object span members) ∧ site ∈ valueSites members ∧
        ¬Joined options.classAttribute tree (.object span members) := by
  rw [sites, ObjectSearch.mem_sites_foldl]
  constructor
  · rintro ⟨before, span, members, after, walk, free, isValue⟩
    have met : Node.object span members ∈ tree.nodes := by
      rw [walk]
      exact List.mem_append_right _ List.mem_cons_self
    rw [placed.mem_joined_iff walk] at free
    exact ⟨span, members, Node.mem_nodes_iff.1 met, isValue, free⟩
  · rintro ⟨span, members, contained, isValue, free⟩
    obtain ⟨before, after, walk⟩ := List.append_of_mem (Node.mem_nodes_iff.2 contained)
    rw [← placed.mem_joined_iff walk] at free
    exact ⟨before, span, members, after, walk, free, isValue⟩

/-- The rule for attributes with classes by slot finds nothing that the first rule misses: an object
that stands alone in the braces of an attribute is no argument of a call. -/
theorem mem_sites_objectValues_of_classesAttribute (placed : Placed source tree)
    (found : site ∈ classesAttribute.sites options tree) :
    site ∈ objectValues.sites options tree := by
  obtain ⟨value, contained, isSite⟩ := mem_attributeSites_iff.1 found
  unfold slotSites at isSite
  split at isSite
  · next span members =>
    have inBraces : tree.Contains (.container (.object span members)) :=
      contained.of_mem_parts (List.mem_singleton.2 rfl)
    refine (mem_sites_objectValues_iff placed).2 ⟨span, members,
      inBraces.of_mem_parts (List.mem_singleton.2 rfl), isSite, ?_⟩
    rintro ⟨arguments, joins, isArgument⟩
    obtain ⟨callee, isCall⟩ := joins.contains
    obtain ⟨index, found⟩ := List.mem_iff_getElem?.1 isArgument
    have isPart' : (Node.call callee arguments).parts[index + 1]? = some (.object span members) := by
      rw [Node.parts, List.getElem?_cons_succ, found]
    have isPart : (Node.container (.object span members)).parts[0]? = some (.object span members) := rfl
    obtain ⟨same, -⟩ := placed.parent_eq inBraces isCall isPart isPart' rfl rfl rfl
    cases same
  · cases isSite

theorem mem_argumentSites_iff {argument : Node} :
    site ∈ argumentSites argument ↔
      (∃ literal, argument = .string literal ∧ site = .string literal) ∨
      ∃ span members, argument = .object span members ∧ site ∈ keySites members := by
  cases argument <;> simp [argumentSites]

/-- The rule for the class list attribute finds its string, and the strings and the keys of the
objects that its call joins. -/
theorem mem_sites_classNameAttribute_iff :
    site ∈ classNameAttribute.sites options tree ↔
      (∃ literal, site = .attribute literal ∧
        tree.Contains (.attribute (.plain options.classAttribute) (.attributeString literal))) ∨
      ∃ arguments argument, Joins options.classAttribute tree arguments ∧ argument ∈ arguments ∧
        site ∈ argumentSites argument := by
  rw [sites, mem_attributeSites_iff]
  constructor
  · rintro ⟨value, contained, isSite⟩
    unfold classListSites at isSite
    split at isSite
    · next arguments found =>
      obtain ⟨argument, isArgument, isSite⟩ := List.mem_flatMap.1 isSite
      exact .inr ⟨arguments, argument, joins_iff.2 ⟨value, contained, found⟩, isArgument, isSite⟩
    · split at isSite
      · next literal _ =>
        exact .inl ⟨literal, List.mem_singleton.1 isSite, contained⟩
      · cases isSite
  · rintro (⟨literal, rfl, contained⟩ | ⟨arguments, argument, joins, isArgument, isSite⟩)
    · exact ⟨_, contained, List.mem_singleton.2 rfl⟩
    · obtain ⟨value, contained, found⟩ := joins_iff.1 joins
      refine ⟨value, contained, ?_⟩
      simp only [classListSites, found]
      exact List.mem_flatMap.2 ⟨argument, isArgument, isSite⟩

/-- What the rules find are the match sites. -/
theorem exists_mem_sites_iff (placed : Placed source tree) :
    (∃ rule ∈ all, site ∈ rule.sites options tree) ↔
      MatchSite options.classAttribute tree site := by
  constructor
  · rintro ⟨rule, -, found⟩
    have ofValue (found : site ∈ objectValues.sites options tree) :
        MatchSite options.classAttribute tree site := by
      obtain ⟨span, members, contained, isValue, free⟩ := (mem_sites_objectValues_iff placed).1 found
      obtain ⟨key, literal, isMember, rfl⟩ := mem_valueSites_iff.1 isValue
      exact .objectValue contained isMember free
    cases rule with
    | objectValues => exact ofValue found
    | classesAttribute => exact ofValue (mem_sites_objectValues_of_classesAttribute placed found)
    | classNameAttribute =>
      rcases mem_sites_classNameAttribute_iff.1 found with
        ⟨literal, rfl, contained⟩ | ⟨arguments, argument, joins, isArgument, isSite⟩
      · exact .attributeString contained
      · rcases mem_argumentSites_iff.1 isSite with ⟨literal, rfl, rfl⟩ | ⟨span, members, rfl, isKey⟩
        · exact .argument joins isArgument
        · obtain ⟨value, literal, isMember, rfl⟩ := mem_keySites_iff.1 isKey
          exact .joinedKey ⟨arguments, joins, isArgument⟩ isMember
  · intro isSite
    cases isSite with
    | objectValue contained isMember free =>
      refine ⟨objectValues, by decide, (mem_sites_objectValues_iff placed).2 ?_⟩
      exact ⟨_, _, contained, mem_valueSites_iff.2 ⟨_, _, isMember, rfl⟩, free⟩
    | attributeString contained =>
      refine ⟨classNameAttribute, by decide, mem_sites_classNameAttribute_iff.2 ?_⟩
      exact .inl ⟨_, rfl, contained⟩
    | argument joins isArgument =>
      refine ⟨classNameAttribute, by decide, mem_sites_classNameAttribute_iff.2 ?_⟩
      exact .inr ⟨_, _, joins, isArgument, mem_argumentSites_iff.2 (.inl ⟨_, rfl, rfl⟩)⟩
    | joinedKey joined isMember =>
      obtain ⟨arguments, joins, isArgument⟩ := joined
      have isKey := mem_keySites_iff.2 ⟨_, _, isMember, rfl⟩
      refine ⟨classNameAttribute, by decide, mem_sites_classNameAttribute_iff.2 ?_⟩
      exact .inr ⟨_, _, joins, isArgument, mem_argumentSites_iff.2 (.inr ⟨_, _, rfl, isKey⟩)⟩

end Rule

end ClassRename
