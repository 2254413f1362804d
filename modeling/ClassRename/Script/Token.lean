import ClassRename.Span

/-!
# Tokens

A script is read token by token. Where a token ends depends on what is expected there: a slash may
divide or open a regular expression, a closing brace may end a block or go on with a template, and
the text of an element is no token of the language at all. So tokens are taken one at a time, and
the reader says which kind it wants.
-/

namespace ClassRename.Script

/-- A sign of the language. A closing angle is always taken alone, and `joinAngles` makes the longer
signs of it where an operator is expected. -/
inductive Punctuator where
  | braceOpen | braceClose | parenOpen | parenClose | bracketOpen | bracketClose
  | dot | ellipsis | semicolon | comma | colon | question | questionDot | coalesce
  | less | greater | lessEqual | greaterEqual
  | equal | notEqual | identical | notIdentical
  | plus | minus | times | power | divide | modulo | increment | decrement
  | shiftLeft | shiftRight | shiftRightUnsigned
  | bitAnd | bitOr | bitXor | bitNot | not | and | or
  | assign | operatorAssign | divideAssign
  | arrow | at
  deriving DecidableEq, Repr, Inhabited

/-- What a token is. -/
inductive Lexeme where
  /-- An identifier or keyword, decoded; `escaped` when its source form holds an escape. -/
  | word (name : String) (escaped : Bool)
  /-- A `#name`. -/
  | privateName (name : String)
  /-- A number. -/
  | number
  /-- An integer of unbounded size. -/
  | bigint
  /-- A string literal with its value. -/
  | string (value : String)
  /-- The string of an attribute with its raw text. -/
  | attributeString (raw : String)
  /-- A chunk of a template up to its end or up to the next substitution. -/
  | template (closed : Bool) (wellEscaped : Bool)
  /-- A regular expression with its flags. -/
  | regex
  /-- A run of text between elements. -/
  | markupText
  /-- A sign. -/
  | punctuator (sign : Punctuator)
  /-- The end of the text. -/
  | endOfText
  /-- Text that begins no token. -/
  | invalid
  deriving DecidableEq, Repr, Inhabited

/-- A token, where it stands, and whether a line ended right before it. -/
structure Token where
  lexeme : Lexeme
  span : Span
  afterLineEnd : Bool
  deriving DecidableEq, Repr, Inhabited

end ClassRename.Script
