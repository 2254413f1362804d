import ClassRename.Script.StringLiteral

/-!
# Writing string literals

A new value is written in single quotes with as few escapes as the grammar allows. Attribute strings
have no escapes at all; there a value with a single quote is put in double quotes.
-/

namespace ClassRename.Script

/-- A character inside single quotes. -/
def quotedChar (c : Char) : List Char :=
  if c = '\\' then ['\\', '\\']
  else if c = '\'' then ['\\', '\'']
  else if c = '\n' then ['\\', 'n']
  else if c = '\r' then ['\\', 'r']
  else if c = '\u2028' then ['\\', 'u', '2', '0', '2', '8']
  else if c = '\u2029' then ['\\', 'u', '2', '0', '2', '9']
  else [c]

def quoted (value : String) : String :=
  String.ofList ('\'' :: value.toList.flatMap quotedChar ++ ['\''])

/-- The quote that an attribute string with the value is put in. -/
def attributeQuote (value : String) : Char :=
  if value.toList.contains '\'' then '"' else '\''

/-- A value as an attribute string. -/
def attributeQuoted (value : String) : String :=
  let quote := attributeQuote value
  String.ofList (quote :: value.toList ++ [quote])

end ClassRename.Script
