/-!
# Errors of reading JSON

An error says what is wrong and, where a place in the text shows it, the line and the column, both
counted from the text's start, the column in bytes.
-/

namespace ClassRename.Json

/-- A place in a text: the line counts from one, the column is the number of bytes before it. -/
structure Place where
  line : Nat
  column : Nat
  deriving DecidableEq, Repr

inductive Fault where
  | listOpen
  | objectOpen
  | stringOpen
  | valueMissing
  | colonExpected
  | listCommaOrEndExpected
  | objectCommaOrEndExpected
  | wordExpected
  | valueExpected
  | invalidEscape
  | invalidNumber
  | numberOutOfRange
  | controlCharacter
  | keyNotString
  | loneSurrogate
  | trailingComma
  | trailingText
  | surrogateOpen
  | tooDeep
  /-- A value of another kind than the expected one. -/
  | mismatch (found expected : String)
  /-- A value that fits none of the shapes that a file of the kind may have. -/
  | noShapeFits (kind : String)
  deriving DecidableEq, Repr

def Fault.message : Fault → String
  | .listOpen => "EOF while parsing a list"
  | .objectOpen => "EOF while parsing an object"
  | .stringOpen => "EOF while parsing a string"
  | .valueMissing => "EOF while parsing a value"
  | .colonExpected => "expected `:`"
  | .listCommaOrEndExpected => "expected `,` or `]`"
  | .objectCommaOrEndExpected => "expected `,` or `\x7d`"
  | .wordExpected => "expected ident"
  | .valueExpected => "expected value"
  | .invalidEscape => "invalid escape"
  | .invalidNumber => "invalid number"
  | .numberOutOfRange => "number out of range"
  | .controlCharacter => "control character (\\u0000-\\u001F) found while parsing a string"
  | .keyNotString => "key must be a string"
  | .loneSurrogate => "lone leading surrogate in hex escape"
  | .trailingComma => "trailing comma"
  | .trailingText => "trailing characters"
  | .surrogateOpen => "unexpected end of hex escape"
  | .tooDeep => "recursion limit exceeded"
  | .mismatch found expected => "invalid type: " ++ found ++ ", expected " ++ expected
  | .noShapeFits kind => "data did not match any variant of untagged enum " ++ kind

structure Error where
  fault : Fault
  place : Option Place
  deriving DecidableEq, Repr

def Error.message (error : Error) : String :=
  match error.place with
  | none => error.fault.message
  | some place =>
    error.fault.message ++ " at line " ++ toString place.line ++ " column " ++
      toString place.column

end ClassRename.Json
