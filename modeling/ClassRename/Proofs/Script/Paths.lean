import ClassRename.Script.Tree
import Mathlib.Data.List.Nodup

/-! # Places of nodes in a tree

A path leads from a tree to one of its nodes by the numbers of the parts on the way. Walking a tree
meets the node at every path once, each node before its parts. When a key tells apart the nodes that
a walk meets, it tells apart their paths too.
-/

namespace ClassRename.Script.Node

/-- The nodes right below a node, in the order of the text. -/
def parts : Node → List Node
  | .identifier _ | .string _ | .attributeString _ => []
  | .object _ members => members
  | .property key value => [key, value]
  | .call callee arguments => callee :: arguments
  | .parenthesized inner => [inner]
  | .attribute _ value => [value]
  | .container inner => [inner]
  | .compound _ parts => parts

theorem sizeOf_lt_of_mem_parts {node part : Node} (isPart : part ∈ node.parts) :
    sizeOf part < sizeOf node := by
  cases node with
  | identifier | string | attributeString => cases isPart
  | object span members =>
    have smaller := List.sizeOf_lt_of_mem (show part ∈ members from isPart)
    simp only [object.sizeOf_spec]
    omega
  | property key value =>
    simp only [parts, List.mem_cons, List.not_mem_nil, or_false] at isPart
    rcases isPart with rfl | rfl <;> simp only [property.sizeOf_spec] <;> omega
  | call callee arguments =>
    rcases List.mem_cons.1 (show part ∈ callee :: arguments from isPart) with rfl | isArgument
    · simp only [call.sizeOf_spec]
      omega
    · have smaller := List.sizeOf_lt_of_mem isArgument
      simp only [call.sizeOf_spec]
      omega
  | parenthesized inner | container inner =>
    obtain rfl := List.mem_singleton.1 isPart
    simp only [parenthesized.sizeOf_spec, container.sizeOf_spec]
    omega
  | «attribute» name value =>
    obtain rfl := List.mem_singleton.1 isPart
    simp only [attribute.sizeOf_spec]
    omega
  | compound form inside =>
    have smaller := List.sizeOf_lt_of_mem (show part ∈ inside from isPart)
    simp only [compound.sizeOf_spec]
    omega

/-- What holds of a node when it holds of its parts holds of every node. -/
theorem induct_parts {motive : Node → Prop}
    (step : ∀ node, (∀ part ∈ node.parts, motive part) → motive node) (node : Node) : motive node :=
  step node fun part isPart =>
    have := sizeOf_lt_of_mem_parts isPart
    induct_parts step part
termination_by sizeOf node

theorem nodesOfAll_eq (trees : List Node) : nodesOfAll trees = trees.flatMap nodes := by
  induction trees with
  | nil => rw [nodesOfAll, List.flatMap_nil]
  | cons tree later ih => rw [nodesOfAll, List.flatMap_cons, ih]

/-- A walk meets the node itself and then, part by part, what is below it. -/
theorem nodes_eq (node : Node) : node.nodes = node :: node.parts.flatMap nodes := by
  cases node <;> simp [nodes, parts, nodesOfAll_eq]

/-- The node that a path leads to. -/
def at? (tree : Node) : List Nat → Option Node
  | [] => some tree
  | index :: path => tree.parts[index]?.bind fun part => part.at? path

/-- The node stands somewhere in the tree. -/
def Contains (tree node : Node) : Prop := ∃ path, tree.at? path = some node

variable {tree node inside : Node} {path further : List Nat}

@[simp]
theorem at?_nil (tree : Node) : tree.at? [] = some tree := rfl

theorem at?_cons {index : Nat} :
    tree.at? (index :: path) = some node ↔
      ∃ part, tree.parts[index]? = some part ∧ part.at? path = some node := by
  rw [at?, Option.bind_eq_some_iff]

/-- Paths can be followed one after the other. -/
theorem at?_append (tree : Node) (path further : List Nat) :
    tree.at? (path ++ further) = (tree.at? path).bind fun node => node.at? further := by
  induction path generalizing tree with
  | nil => rfl
  | cons index path ih =>
    rw [List.cons_append, at?, at?]
    cases tree.parts[index]? with
    | none => rfl
    | some part => exact ih part

/-- The last step of a path leads from a node to one of its parts. -/
theorem at?_concat {index : Nat} :
    tree.at? (path ++ [index]) = some inside ↔
      ∃ node, tree.at? path = some node ∧ node.parts[index]? = some inside := by
  rw [at?_append, Option.bind_eq_some_iff]
  simp only [at?_cons, at?_nil, Option.some.injEq, exists_eq_right]

theorem Contains.refl (tree : Node) : tree.Contains tree := ⟨[], rfl⟩

theorem Contains.trans (outer : tree.Contains node) (inner : node.Contains inside) :
    tree.Contains inside := by
  obtain ⟨path, leads⟩ := outer
  obtain ⟨further, leadsOn⟩ := inner
  exact ⟨path ++ further, by rw [at?_append, leads]; exact leadsOn⟩

theorem contains_of_mem_parts (isPart : inside ∈ node.parts) : node.Contains inside := by
  obtain ⟨index, found⟩ := List.mem_iff_getElem?.1 isPart
  exact ⟨[index], at?_cons.2 ⟨inside, found, rfl⟩⟩

/-- A part of a node in the tree is in the tree. -/
theorem Contains.of_mem_parts (contained : tree.Contains node) (isPart : inside ∈ node.parts) :
    tree.Contains inside :=
  contained.trans (contains_of_mem_parts isPart)

/-- A node in the tree and a part of it stand at paths that differ by one step. -/
theorem Contains.exists_path (contained : tree.Contains node) (isPart : inside ∈ node.parts) :
    ∃ path index, tree.at? path = some node ∧ tree.at? (path ++ [index]) = some inside := by
  obtain ⟨path, leads⟩ := contained
  obtain ⟨index, found⟩ := List.mem_iff_getElem?.1 isPart
  exact ⟨path, index, leads, at?_concat.2 ⟨node, leads, found⟩⟩

/-- A walk meets exactly the nodes of the tree. -/
theorem mem_nodes_iff : node ∈ tree.nodes ↔ tree.Contains node := by
  induction tree using induct_parts with
  | step tree ih =>
    rw [nodes_eq, List.mem_cons, List.mem_flatMap]
    constructor
    · rintro (rfl | ⟨part, isPart, met⟩)
      · exact Contains.refl _
      · exact (contains_of_mem_parts isPart).trans ((ih part isPart).1 met)
    · rintro ⟨path, leads⟩
      cases path with
      | nil =>
        cases leads
        exact .inl rfl
      | cons index path =>
        obtain ⟨part, found, leads⟩ := at?_cons.1 leads
        have isPart := List.mem_of_getElem? found
        exact .inr ⟨part, isPart, (ih part isPart).2 ⟨path, leads⟩⟩

/-- A walk meets a node before all that is below it. -/
theorem exists_nodes_eq_append (leads : tree.at? path = some node)
    (leadsOn : node.at? further = some inside) (below : further ≠ []) :
    ∃ before after, tree.nodes = before ++ node :: after ∧ inside ∈ after := by
  induction path generalizing tree with
  | nil =>
    cases leads
    obtain ⟨index, further, rfl⟩ := List.exists_cons_of_ne_nil below
    obtain ⟨part, found, leadsOn⟩ := at?_cons.1 leadsOn
    refine ⟨[], node.parts.flatMap nodes, nodes_eq node, List.mem_flatMap.2 ⟨part, ?_, ?_⟩⟩
    · exact List.mem_of_getElem? found
    · exact mem_nodes_iff.2 ⟨further, leadsOn⟩
  | cons index path ih =>
    obtain ⟨part, found, leads⟩ := at?_cons.1 leads
    obtain ⟨before, after, walk, met⟩ := ih leads
    obtain ⟨earlier, later, split⟩ := List.append_of_mem (List.mem_of_getElem? found)
    refine ⟨tree :: (earlier.flatMap nodes ++ before), after ++ later.flatMap nodes, ?_, ?_⟩
    · rw [nodes_eq, split, List.flatMap_append, List.flatMap_cons, walk]
      simp only [List.cons_append, List.append_assoc]
    · exact List.mem_append_left _ met

/-- The keys of a part's nodes are among the keys below the node. -/
private theorem mem_keys_of_at? {α : Type} {key : Node → Option α} {part : Node} {index : Nat}
    {k : α} (leads : part.at? path = some node) (keyed : key node = some k)
    (found : tree.parts[index]? = some part) :
    part ∈ tree.parts ∧ k ∈ part.nodes.filterMap key :=
  ⟨List.mem_of_getElem? found, List.mem_filterMap.2 ⟨node, mem_nodes_iff.2 ⟨path, leads⟩, keyed⟩⟩

/-- When a key tells apart the nodes that have one, each key is found at one path. -/
theorem path_unique {α : Type} {key : Node → Option α} {a b : Node} {k : α} {p q : List Nat}
    (distinct : (tree.nodes.filterMap key).Nodup) (first : tree.at? p = some a)
    (second : tree.at? q = some b) (keyed : key a = some k) (same : key b = some k) : p = q := by
  induction p generalizing tree q with
  | nil =>
    cases first
    cases q with
    | nil => rfl
    | cons index q =>
      obtain ⟨part, found, second⟩ := at?_cons.1 second
      rw [nodes_eq, List.filterMap_cons_some keyed, List.nodup_cons, List.filterMap_flatMap] at distinct
      exact absurd (List.mem_flatMap.2 ⟨part, mem_keys_of_at? second same found⟩) distinct.1
  | cons index p ih =>
    obtain ⟨part, found, first⟩ := at?_cons.1 first
    have below : (tree.parts.flatMap fun part => part.nodes.filterMap key).Nodup := by
      rw [← List.filterMap_flatMap]
      refine distinct.sublist (List.Sublist.filterMap key ?_)
      rw [nodes_eq]
      exact List.sublist_cons_self ..
    obtain ⟨each, apart⟩ := List.nodup_flatMap.1 below
    obtain ⟨isPart, inPart⟩ := mem_keys_of_at? first keyed found
    cases q with
    | nil =>
      cases second
      rw [nodes_eq, List.filterMap_cons_some same, List.nodup_cons, List.filterMap_flatMap] at distinct
      exact absurd (List.mem_flatMap.2 ⟨part, isPart, inPart⟩) distinct.1
    | cons other q =>
      obtain ⟨part', found', second⟩ := at?_cons.1 second
      obtain ⟨-, inPart'⟩ := mem_keys_of_at? second same found'
      obtain ⟨room, here⟩ := List.getElem?_eq_some_iff.1 found
      obtain ⟨room', here'⟩ := List.getElem?_eq_some_iff.1 found'
      have disjoint := List.pairwise_iff_getElem.1 apart
      rcases Nat.lt_trichotomy index other with earlier | rfl | later
      · have no := disjoint index other room room' earlier
        rw [Function.onFun_apply, here, here'] at no
        exact absurd inPart' (no inPart)
      · obtain rfl : part = part' := by rw [← here, here']
        rw [ih (each part isPart) first second]
      · have no := disjoint other index room' room later
        rw [Function.onFun_apply, here, here'] at no
        exact absurd inPart (no inPart')

end ClassRename.Script.Node
