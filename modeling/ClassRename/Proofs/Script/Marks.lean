import ClassRename.Script.StringLiteral
import ClassRename.Proofs.Script.Paths
import ClassRename.Proofs.Span
import Mathlib.Data.List.Basic
import Mathlib.Data.List.Pairwise

/-! # Strings and objects of a tree in their text

A node that stands for a string or for an object literal carries a mark of the text: the whole
string with its quotes, or the brace that opens the object. `Placed` says that every mark of a tree is
what the text has at that place, and that the marks follow one another as a walk of the tree meets
them. Strings and objects are then told apart by their places.
-/

namespace ClassRename.Script

theorem LiteralText.ne_nil {text : List Char} {value : String} (literal : LiteralText text value) :
    text ≠ [] := by
  obtain ⟨quote, body, pieces, -, rfl, -⟩ := literal
  exact List.cons_ne_nil _ _

theorem AttributeText.ne_nil {text : List Char} {value : String}
    (literal : AttributeText text value) : text ≠ [] := by
  obtain ⟨quote, -, -, rfl⟩ := literal
  exact List.cons_ne_nil _ _

/-- A text is a string literal with one value. -/
theorem LiteralText.unique {text : List Char} {value value' : String}
    (literal : LiteralText text value) (literal' : LiteralText text value') : value = value' := by
  obtain ⟨quote, body, pieces, -, rfl, -, decoded, rfl⟩ := literal
  obtain ⟨quote', body', pieces', -, same, -, decoded', rfl⟩ := literal'
  obtain ⟨rfl, same⟩ := List.cons.inj same
  obtain ⟨rfl, -⟩ := List.append_singleton_inj.1 same
  obtain rfl := Option.some.inj (decoded.symm.trans decoded')
  rfl

/-- A text is an attribute string with one raw text. -/
theorem AttributeText.unique {text : List Char} {value value' : String}
    (literal : AttributeText text value) (literal' : AttributeText text value') : value = value' := by
  obtain ⟨quote, -, -, rfl⟩ := literal
  obtain ⟨quote', -, -, same⟩ := literal'
  obtain ⟨rfl, same⟩ := List.cons.inj same
  obtain ⟨same, -⟩ := List.append_singleton_inj.1 same
  exact String.toList_injective same

/-- What a node says of the text. -/
inductive Mark where
  /-- An object literal opens here. -/
  | object (start : Nat)
  /-- A string literal. -/
  | string (literal : StringLiteral)
  /-- The string of an attribute. -/
  | attributeString (literal : StringLiteral)
  deriving DecidableEq, Repr

namespace Mark

/-- The part of the text that no other mark shares. -/
def span : Mark → Span
  | .object start => ⟨start, start + 1⟩
  | .string literal | .attributeString literal => literal.span

/-- The source has at the mark what the mark says. -/
def Stands (source : List Char) : Mark → Prop
  | .object start => Holds source ⟨start, start + 1⟩ ['\x7b']
  | .string literal => ∃ text, Holds source literal.span text ∧ LiteralText text literal.value
  | .attributeString literal =>
    ∃ text, Holds source literal.span text ∧ AttributeText text literal.value

/-- A mark is not empty. -/
theorem Stands.start_lt_stop {source : List Char} {mark : Mark} (stands : mark.Stands source) :
    mark.span.start < mark.span.stop := by
  cases mark with
  | object start => exact Nat.lt_succ_self _
  | string literal =>
    obtain ⟨text, holds, literal⟩ := stands
    exact holds.start_lt_stop literal.ne_nil
  | attributeString literal =>
    obtain ⟨text, holds, literal⟩ := stands
    exact holds.start_lt_stop literal.ne_nil

end Mark

namespace Node

/-- The mark of a node. -/
def mark? : Node → Option Mark
  | .object span _ => some (.object span.start)
  | .string literal => some (.string literal)
  | .attributeString literal => some (.attributeString literal)
  | _ => none

/-- The marks of a tree in the order of a walk. -/
def marks (tree : Node) : List Mark := tree.nodes.filterMap mark?

/-- The marks of several trees, one tree after the other. -/
def marksOfAll (trees : List Node) : List Mark := trees.flatMap marks

@[simp]
theorem flatMap_marks (trees : List Node) : trees.flatMap marks = marksOfAll trees := rfl

@[simp]
theorem marksOfAll_nil : marksOfAll [] = [] := rfl

@[simp]
theorem marksOfAll_cons (tree : Node) (later : List Node) :
    marksOfAll (tree :: later) = tree.marks ++ marksOfAll later := rfl

@[simp]
theorem marksOfAll_append (trees later : List Node) :
    marksOfAll (trees ++ later) = marksOfAll trees ++ marksOfAll later := List.flatMap_append

@[simp]
theorem marksOfAll_flatten (groups : List (List Node)) :
    marksOfAll groups.flatten = groups.flatMap marksOfAll := by
  induction groups with
  | nil => rfl
  | cons group later ih => rw [List.flatten_cons, marksOfAll_append, ih, List.flatMap_cons]

/-- A node's own mark comes before those of its parts. -/
theorem marks_eq (node : Node) : node.marks = node.mark?.toList ++ marksOfAll node.parts := by
  rw [marks, nodes_eq, List.filterMap_cons, List.filterMap_flatMap]
  cases node.mark? <;> rfl

@[simp]
theorem marks_identifier (name : String) : (identifier name).marks = [] := rfl

@[simp]
theorem marks_string (literal : StringLiteral) : (string literal).marks = [.string literal] := rfl

@[simp]
theorem marks_attributeString (literal : StringLiteral) :
    (attributeString literal).marks = [.attributeString literal] := rfl

@[simp]
theorem marks_object (span : Span) (members : List Node) :
    (object span members).marks = .object span.start :: marksOfAll members := marks_eq _

@[simp]
theorem marks_property (key value : Node) :
    (property key value).marks = key.marks ++ value.marks := by
  simp [marks_eq (property key value), mark?, parts]

@[simp]
theorem marks_call (callee : Node) (arguments : List Node) :
    (call callee arguments).marks = callee.marks ++ marksOfAll arguments := marks_eq _

@[simp]
theorem marks_parenthesized (inner : Node) : (parenthesized inner).marks = inner.marks := by
  simp [marks_eq (parenthesized inner), mark?, parts]

@[simp]
theorem marks_attribute (name : AttributeName) (value : Node) :
    («attribute» name value).marks = value.marks := by
  simp [marks_eq («attribute» name value), mark?, parts]

@[simp]
theorem marks_container (inner : Node) : (container inner).marks = inner.marks := by
  simp [marks_eq (container inner), mark?, parts]

@[simp]
theorem marks_compound (form : Form) (inside : List Node) :
    (compound form inside).marks = marksOfAll inside := marks_eq _

@[simp]
theorem marks_absent : absent.marks = [] := rfl

@[simp]
theorem marks_atom : atom.marks = [] := rfl

@[simp]
theorem marks_ofType (inside : List Node) : (ofType inside).marks = marksOfAll inside :=
  marks_compound ..

@[simp]
theorem marks_statement (inside : List Node) : (statement inside).marks = marksOfAll inside :=
  marks_compound ..

/-- The mark of a node in the tree is one of the tree's. -/
theorem Contains.mem_marks {tree node : Node} {mark : Mark} (contained : tree.Contains node)
    (marked : node.mark? = some mark) : mark ∈ tree.marks :=
  List.mem_filterMap.2 ⟨node, mem_nodes_iff.2 contained, marked⟩

end Node

/-- A tree marks its text truly: each mark is there, and each ends before the next begins. -/
structure Placed (source : List Char) (tree : Node) : Prop where
  stands : ∀ mark ∈ tree.marks, mark.Stands source
  ordered : tree.marks.Pairwise fun a b => a.span.stop ≤ b.span.start

/-- Where the mark of a node begins. -/
def Node.markStart? (node : Node) : Option Nat := node.mark?.map fun mark => mark.span.start

namespace Placed

variable {source : List Char} {tree a b : Node} {first second : Mark}

/-- Marks begin at different places. -/
theorem markStarts_nodup (placed : Placed source tree) :
    (tree.nodes.filterMap Node.markStart?).Nodup := by
  have starts : tree.nodes.filterMap Node.markStart? = tree.marks.map fun mark => mark.span.start :=
    List.map_filterMap.symm
  rw [starts]
  refine List.Pairwise.map _ (fun a b => id) (placed.ordered.imp_of_mem ?_)
  intro a b inTree _ apart
  have size := (placed.stands a inTree).start_lt_stop
  omega

/-- Of two marks one ends before the other begins, unless they are one. -/
theorem apart (placed : Placed source tree) (inTree : first ∈ tree.marks)
    (inTree' : second ∈ tree.marks) : first = second ∨
      first.span.stop ≤ second.span.start ∨ second.span.stop ≤ first.span.start := by
  have either : tree.marks.Pairwise fun a b =>
      a.span.stop ≤ b.span.start ∨ b.span.stop ≤ a.span.start := placed.ordered.imp .inl
  have : Std.Symm fun a b : Mark => a.span.stop ≤ b.span.start ∨ b.span.stop ≤ a.span.start :=
    ⟨fun _ _ => Or.symm⟩
  by_cases same : first = second
  · exact .inl same
  · exact .inr (either.forall inTree inTree' same)

/-- A walk meets a marked node once. -/
theorem met_once (placed : Placed source tree) {before after before' after' : List Node}
    (walk : tree.nodes = before ++ a :: after) (walk' : tree.nodes = before' ++ a :: after')
    (marked : a.mark? = some first) : before = before' := by
  have keyed : a.markStart? = some first.span.start := by rw [Node.markStart?, marked, Option.map_some]
  have distinct := placed.markStarts_nodup
  rw [walk, List.filterMap_append, List.filterMap_cons_some keyed] at distinct
  have absent := List.nodup_middle.1 distinct
  rw [List.nodup_cons, List.mem_append, not_or] at absent
  have notIn (nodes : List Node)
      (free : first.span.start ∉ nodes.filterMap Node.markStart?) : a ∉ nodes := fun met =>
    free (List.mem_filterMap.2 ⟨a, met, keyed⟩)
  obtain ⟨⟨notBefore, notAfter⟩, -⟩ := absent
  have same := walk.symm.trans walk'
  exact ((List.append_cons_inj_of_notMem (notIn before notBefore) (notIn after notAfter)).1 same).1

/-- Where a mark begins tells the path of its node. -/
theorem path_eq (placed : Placed source tree) {p q : List Nat} (leads : tree.at? p = some a)
    (leads' : tree.at? q = some b) (marked : a.mark? = some first) (marked' : b.mark? = some second)
    (same : first.span.start = second.span.start) : p = q := by
  refine Node.path_unique placed.markStarts_nodup leads leads' (k := first.span.start) ?_ ?_
  · rw [Node.markStart?, marked, Option.map_some]
  · rw [Node.markStart?, marked', same, Option.map_some]

/-- Where a mark begins tells its node. -/
theorem node_eq (placed : Placed source tree) (contained : tree.Contains a)
    (contained' : tree.Contains b) (marked : a.mark? = some first) (marked' : b.mark? = some second)
    (same : first.span.start = second.span.start) : a = b := by
  obtain ⟨p, leads⟩ := contained
  obtain ⟨q, leads'⟩ := contained'
  obtain rfl := placed.path_eq leads leads' marked marked' same
  exact Option.some.inj (leads.symm.trans leads')

/-- Where a mark begins tells the node around it. -/
theorem parent_eq (placed : Placed source tree) {outer outer' : Node} {index index' : Nat}
    (contained : tree.Contains outer) (contained' : tree.Contains outer')
    (isPart : outer.parts[index]? = some a) (isPart' : outer'.parts[index']? = some b)
    (marked : a.mark? = some first) (marked' : b.mark? = some second)
    (same : first.span.start = second.span.start) : outer = outer' ∧ index = index' := by
  obtain ⟨p, leads⟩ := contained
  obtain ⟨q, leads'⟩ := contained'
  have down := Node.at?_concat.2 ⟨outer, leads, isPart⟩
  have down' := Node.at?_concat.2 ⟨outer', leads', isPart'⟩
  have samePath := placed.path_eq down down' marked marked' same
  obtain ⟨rfl, rfl⟩ := List.append_singleton_inj.1 samePath
  exact ⟨Option.some.inj (leads.symm.trans leads'), rfl⟩

end Placed

end ClassRename.Script
