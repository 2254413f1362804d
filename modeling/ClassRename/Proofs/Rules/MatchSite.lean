import ClassRename.Rule
import ClassRename.Proofs.Script.Marks

/-! # The strings that hold class names

`MatchSite` says which strings of a tree the rules are meant to rewrite, by where they stand in the
tree alone. A call that is the value of the class list attribute joins class names, and an object
among its arguments is joined: its keys are names and its values are conditions. Every other object
holds names in its values.
-/

namespace ClassRename

open Script

/-- The second node is the first with some parentheses around it taken off. -/
inductive Unwraps : Node → Node → Prop where
  | bare (node : Node) : Unwraps node node
  | parenthesized {inner node : Node} : Unwraps inner node → Unwraps (.parenthesized inner) node

/-- In the tree stands an attribute of the name whose value is a call with the arguments. -/
def Joins (classAttribute : String) (tree : Node) (arguments : List Node) : Prop :=
  ∃ inner callee, tree.Contains (.attribute (.plain classAttribute) (.container inner)) ∧
    Unwraps inner (.call callee arguments)

/-- The object is an argument of a call that joins class names. -/
def Joined (classAttribute : String) (tree object : Node) : Prop :=
  ∃ arguments, Joins classAttribute tree arguments ∧ object ∈ arguments

/-- The strings of a tree that hold class names. -/
inductive MatchSite (classAttribute : String) (tree : Node) : Site → Prop where
  /-- A value of an object that no call joins. -/
  | objectValue {span : Span} {members : List Node} {key : Node} {literal : StringLiteral} :
    tree.Contains (.object span members) → .property key (.string literal) ∈ members →
    ¬Joined classAttribute tree (.object span members) →
    MatchSite classAttribute tree (.string literal)
  /-- The string of the attribute. -/
  | attributeString {literal : StringLiteral} :
    tree.Contains (.attribute (.plain classAttribute) (.attributeString literal)) →
    MatchSite classAttribute tree (.attribute literal)
  /-- A string that a call joins. -/
  | argument {arguments : List Node} {literal : StringLiteral} :
    Joins classAttribute tree arguments → .string literal ∈ arguments →
    MatchSite classAttribute tree (.string literal)
  /-- A key of an object that a call joins. -/
  | joinedKey {span : Span} {members : List Node} {value : Node} {literal : StringLiteral} :
    Joined classAttribute tree (.object span members) →
    .property (.string literal) value ∈ members →
    MatchSite classAttribute tree (.string literal)

/-- The node that stands for a site. -/
def Site.node : Site → Node
  | .string literal => .string literal
  | .attribute literal => .attributeString literal

/-- The mark of a site. -/
def Site.mark : Site → Mark
  | .string literal => .string literal
  | .attribute literal => .attributeString literal

@[simp]
theorem Site.mark?_node (site : Site) : site.node.mark? = some site.mark := by
  cases site <;> rfl

@[simp]
theorem Site.span_mark (site : Site) : site.mark.span = site.literal.span := by
  cases site <;> rfl

theorem Site.node_injective {a b : Site} (same : a.node = b.node) : a = b := by
  cases a <;> cases b <;> simp_all [Site.node]

variable {classAttribute : String} {tree inner node : Node} {site : Site}

/-- Taking parentheses off gives a node inside. -/
theorem Unwraps.contains (unwraps : Unwraps inner node) : inner.Contains node := by
  induction unwraps with
  | bare node => exact Node.Contains.refl node
  | parenthesized _ ih => exact (Node.contains_of_mem_parts (List.mem_singleton.2 rfl)).trans ih

/-- Whatever the parentheses, a call that is left is the one that the rules see. -/
theorem unwraps_call_iff {callee : Node} {arguments : List Node} :
    Unwraps inner (.call callee arguments) ↔ unparenthesized inner = .call callee arguments := by
  constructor
  · intro unwraps
    generalize eq : Node.call callee arguments = call at unwraps
    induction unwraps with
    | bare node =>
      subst eq
      rfl
    | parenthesized _ ih => exact ih eq
  · intro eq
    fun_induction unparenthesized inner with
    | case1 inner ih => exact .parenthesized (ih eq)
    | case2 node =>
      subst eq
      exact .bare _

/-- The call that an attribute has as its value. -/
theorem joinedArguments?_eq_some_iff {value : Node} {arguments : List Node} :
    joinedArguments? value = some arguments ↔
      ∃ inner callee, value = .container inner ∧ Unwraps inner (.call callee arguments) := by
  constructor
  · intro found
    unfold joinedArguments? at found
    split at found
    · next inner =>
      split at found
      · next callee arguments' call =>
        cases found
        exact ⟨inner, callee, rfl, unwraps_call_iff.2 call⟩
      · cases found
    · cases found
  · rintro ⟨inner, callee, rfl, unwraps⟩
    simp only [joinedArguments?, unwraps_call_iff.1 unwraps]

/-- A call joins class names when some attribute of the name has it as its value. -/
theorem joins_iff {arguments : List Node} :
    Joins classAttribute tree arguments ↔
      ∃ value, tree.Contains (.attribute (.plain classAttribute) value) ∧
        joinedArguments? value = some arguments := by
  simp only [joinedArguments?_eq_some_iff]
  constructor
  · rintro ⟨inner, callee, contained, unwraps⟩
    exact ⟨_, contained, inner, callee, rfl, unwraps⟩
  · rintro ⟨_, contained, inner, callee, rfl, unwraps⟩
    exact ⟨inner, callee, contained, unwraps⟩

/-- A call that joins class names is in the tree. -/
theorem Joins.contains {arguments : List Node} (joins : Joins classAttribute tree arguments) :
    ∃ callee, tree.Contains (.call callee arguments) := by
  obtain ⟨inner, callee, contained, unwraps⟩ := joins
  have isContainer : tree.Contains (.container inner) :=
    contained.of_mem_parts (List.mem_singleton.2 rfl)
  exact ⟨callee, (isContainer.of_mem_parts (List.mem_singleton.2 rfl)).trans unwraps.contains⟩

/-- An argument of a joining call stands below the attribute. -/
theorem contains_of_joinedArguments? {value argument : Node} {arguments : List Node}
    (found : joinedArguments? value = some arguments) (isArgument : argument ∈ arguments) :
    value.Contains argument := by
  obtain ⟨inner, callee, rfl, unwraps⟩ := joinedArguments?_eq_some_iff.1 found
  have isInner : (Node.container inner).Contains inner :=
    Node.contains_of_mem_parts (List.mem_singleton.2 rfl)
  have isPart : argument ∈ (Node.call callee arguments).parts := List.mem_cons_of_mem _ isArgument
  exact isInner.trans (unwraps.contains.of_mem_parts isPart)

/-- An argument of a joining call stands in the tree. -/
theorem Joined.contains (joined : Joined classAttribute tree node) : tree.Contains node := by
  obtain ⟨arguments, joins, isArgument⟩ := joined
  obtain ⟨callee, contained⟩ := joins.contains
  exact contained.of_mem_parts (List.mem_cons_of_mem _ isArgument)

/-- The key of a member is its first part. -/
theorem Script.Node.key_part (key value : Node) : (Node.property key value).parts[0]? = some key :=
  rfl

/-- The value of a member is its second part. -/
theorem Script.Node.value_part (key value : Node) :
    (Node.property key value).parts[1]? = some value :=
  rfl

/-- The key of a member of an object in the tree. -/
theorem contains_key {span : Span} {members : List Node} {key value : Node}
    (contained : tree.Contains (.object span members)) (isMember : .property key value ∈ members) :
    tree.Contains key := by
  have isPart : Node.property key value ∈ (Node.object span members).parts := isMember
  exact (contained.of_mem_parts isPart).of_mem_parts (List.mem_of_getElem? (Node.key_part ..))

/-- The value of a member of an object in the tree. -/
theorem contains_value {span : Span} {members : List Node} {key value : Node}
    (contained : tree.Contains (.object span members)) (isMember : .property key value ∈ members) :
    tree.Contains value := by
  have isPart : Node.property key value ∈ (Node.object span members).parts := isMember
  exact (contained.of_mem_parts isPart).of_mem_parts (List.mem_of_getElem? (Node.value_part ..))

/-- A site is in the tree. -/
theorem MatchSite.contains (isSite : MatchSite classAttribute tree site) :
    tree.Contains site.node := by
  cases isSite with
  | objectValue contained isMember _ => exact contains_value contained isMember
  | attributeString contained => exact contained.of_mem_parts (List.mem_singleton.2 rfl)
  | argument joins isArgument => exact Joined.contains ⟨_, joins, isArgument⟩
  | joinedKey joined isMember => exact contains_key joined.contains isMember

end ClassRename
