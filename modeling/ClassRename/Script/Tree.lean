import ClassRename.Span

/-!
# Syntax trees

Class names can sit in few places of a program: in string literals, in the members of object
literals, in the arguments of calls, and in the attributes of elements. A tree has a constructor of
its own for each of these; every other construct is a `compound` of its parts, in the order in which
they stand in the text, with a `Form` that says what it is.
-/

namespace ClassRename.Script

/-- A string of a program: where it stands, quotes included, and its value. The value of an attribute
string is its raw text between the quotes. -/
structure StringLiteral where
  span : Span
  value : String
  deriving DecidableEq, Repr, Inhabited

inductive AttributeName where
  /-- A plain name. -/
  | plain (name : String)
  /-- A name in a namespace. -/
  | namespaced (space name : String)
  deriving DecidableEq, Repr, Inhabited

/-- What a compound node is, as far as the grammar has to tell. -/
inductive Form where
  /-- Nothing stands here, as in a hole of an array or an attribute without a value. -/
  | absent
  /-- A literal other than a string, or a word with a meaning of its own, such as `this`. -/
  | atom
  /-- A template; its parts are the substitutions. -/
  | template
  /-- A template after a tag. -/
  | tagged
  /-- An array literal. -/
  | array
  /-- `...` and its argument. -/
  | spread
  /-- A function or class expression. -/
  | function
  /-- An arrow function. -/
  | arrowFunction
  /-- A name defined together with its default, `name = value`, as an object literal's member. -/
  | defaulted
  /-- A property of a value, by name or computed. -/
  | member
  /-- A chain that stops at a missing value. -/
  | optionalChain
  /-- `new` with its arguments, `import` with its argument. -/
  | construction
  /-- An expression with a type put to it: `as`, `satisfies`, `!` and `<T>`. -/
  | ascription
  /-- An expression with type arguments and no call. -/
  | instantiation
  /-- A unary operator on a value. -/
  | unary
  /-- `await` on a value. -/
  | await
  /-- `yield` of a value. -/
  | yield
  /-- `??` of two values. -/
  | coalesce
  /-- `||` or `&&` of two values. -/
  | logical
  /-- Any other binary operator. -/
  | binary
  /-- An assignment by `=`. -/
  | assignment
  /-- An assignment by another operator, or an update of a variable. -/
  | update
  /-- A conditional expression. -/
  | conditional
  /-- Expressions separated by commas. -/
  | sequence
  /-- An element or fragment. -/
  | element
  /-- A pattern that takes a value apart. -/
  | pattern
  /-- A type, or type parameters or arguments. -/
  | type
  /-- A statement, declaration or list of statements. -/
  | statement
  deriving DecidableEq, Repr, Inhabited

/-- A node of a program's tree. -/
inductive Node where
  /-- A name read as an expression or bound by a pattern. -/
  | identifier (name : String)
  /-- A string literal. -/
  | string (literal : StringLiteral)
  /-- An object literal, where it stands, and its members. -/
  | object (span : Span) (members : List Node)
  /-- A member `key: value` of an object literal; a method's value is its function. -/
  | property (key value : Node)
  /-- A call and its arguments. -/
  | call (callee : Node) (arguments : List Node)
  /-- An expression in parentheses. -/
  | parenthesized (inner : Node)
  /-- An attribute of an element and its value. -/
  | attribute (name : AttributeName) (value : Node)
  /-- The string of an attribute. -/
  | attributeString (literal : StringLiteral)
  /-- An expression in braces, as an attribute's value or between elements. -/
  | container (inner : Node)
  /-- Any other construct, with its parts in the order of the text. -/
  | compound (form : Form) (parts : List Node)
  deriving Inhabited

namespace Node

def form? : Node → Option Form
  | .compound form _ => some form
  | _ => none

/-- Nothing, where the grammar allows nothing to stand. -/
def absent : Node := .compound .absent []

def atom : Node := .compound .atom []

def ofType (parts : List Node) : Node := .compound .type parts

/-- A statement, declaration or list of statements. -/
def statement (parts : List Node) : Node := .compound .statement parts

mutual

/-- All nodes of a tree, each before its parts. -/
def nodes : Node → List Node
  | .identifier name => [.identifier name]
  | .string literal => [.string literal]
  | .object span members => .object span members :: nodesOfAll members
  | .property key value => .property key value :: (key.nodes ++ value.nodes)
  | .call callee arguments => .call callee arguments :: (callee.nodes ++ nodesOfAll arguments)
  | .parenthesized inner => .parenthesized inner :: inner.nodes
  | .attribute name value => .attribute name value :: value.nodes
  | .attributeString literal => [.attributeString literal]
  | .container inner => .container inner :: inner.nodes
  | .compound form parts => .compound form parts :: nodesOfAll parts

def nodesOfAll : List Node → List Node
  | [] => []
  | node :: later => node.nodes ++ nodesOfAll later

end

end Node

end ClassRename.Script
