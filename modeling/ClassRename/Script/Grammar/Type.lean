import ClassRename.Script.Grammar.Binding

/-!
# Types

The grammar of types, from conditional types down to names and literals. Types matter to class names
only where an object literal stands in them, so a type keeps its parts and no more.
-/

namespace ClassRename.Script

open Script.Parser

/-! ## Questions about what is ahead -/

def seesTypeStart : Parser Bool := do
  match ← lexeme with
  | .word name _ =>
    return !reservedWords.contains name ||
      ["void", "null", "this", "typeof", "new", "import", "true", "false", "function"].contains name
  | .string _ | .number | .bigint | .template _ _ => return true
  | .punctuator sign =>
    return [Punctuator.braceOpen, .bracketOpen, .less, .bitOr, .bitAnd, .minus, .parenOpen, .times,
      .question, .not, .ellipsis].contains sign
  | _ => return false

/-- Move over what begins a parameter; a reading that meets none stops. -/
def skipParameterStart (rules : Rules) : Parser Unit := do
  let _ ← many do if ← seesPropertyModifier then advance; return some () else return none
  if ← seesWord "this" then advance
  else let _ ← rules .binding

def opensFunctionType (rules : Rules) : Parser Bool := afterNext do
  if ← seesAny [.parenClose, .ellipsis] then return true
  else
    skipParameterStart rules
    if ← seesAny [.colon, .comma, .question, .assign] then return true
    else if ← take .parenClose then sees .arrow
    else return false

def seesFunctionType (rules : Rules) : Parser Bool := do
  if ← sees .less then return true
  else if ← sees .parenOpen then opensFunctionType rules
  else if ← seesWord "new" then return true
  else if ← seesWord "abstract" then afterNext (seesWord "new")
  else return false

def opensMappedType : Parser Bool := afterNext do
  if ← seesAny [.plus, .minus] then
    advance
    seesWord "readonly"
  else
    let _ ← takeWord "readonly"
    if ← take .bracketOpen then
      if ← seesIdentifier then
        advance
        seesWord "in"
      else return false
    else return false

def opensIndexSignature : Parser Bool := afterNext do
  if ← seesAny [.ellipsis, .bracketClose] then return true
  else if ← seesIdentifier then
    advance
    if ← seesAny [.colon, .comma] then return true
    else if ← take .question then seesAny [.colon, .comma, .bracketClose]
    else return false
  else return false

/-! ## Members of object types -/

def endTypeMember : Parser Unit := do
  if ← take .comma then return else endStatement

def signature (rules : Rules) : Parser (List Node) := do
  let typeParameters ← typeParameters? rules
  let parameters ← parameters rules
  let result ← resultAnnotation? rules .colon
  return typeParameters ++ parameters ++ result

def indexSignature (rules : Rules) : Parser (List Node) := do
  expect .bracketOpen
  let parameters ← commaList .bracketClose do
    let name ← identifier
    return Node.ofType (name :: (← annotation? rules))
  expect .bracketClose
  return parameters ++ (← annotation? rules)

/-- The modifiers before a member of an object type. Only `readonly` may stand there, once. -/
def typeMemberModifiers : Parser Unit := do
  let modifiers ← many do
    match ← lexeme with
    | .word name false =>
      if ["readonly", "static", "public", "private", "protected", "declare", "abstract",
          "override"].contains name then
        if ← afterNext do return (← seesKey) && !(← afterLineEnd) then
          advance
          return some name
        else return none
      else return none
    | _ => return none
  faultIf (modifiers != [] && modifiers != ["readonly"])

/-- Take `get` or `set` where it makes the member after it an accessor. -/
def takeAccessMark : Parser Bool := do
  if (← seesAnyWord ["get", "set"]) && (← afterNext seesKey) then advance; return true
  else return false

/-- The signature or type of a member of an object type after its key. Only an accessor cannot be
missing. -/
def typeMemberRest (rules : Rules) (accesses : Bool) : Parser (List Node) := do
  if accesses then signature rules
  else
    let _ ← take .question
    if ← seesAny [.parenOpen, .less] then signature rules else annotation? rules

def typeMember (rules : Rules) : Parser Node := do
  if ← seesAny [.parenOpen, .less] then
    let parts ← signature rules
    endTypeMember
    return .ofType parts
  else if (← seesWord "new") && (← afterNext (seesAny [.parenOpen, .less])) then
    advance
    let parts ← signature rules
    endTypeMember
    return .ofType parts
  else
    typeMemberModifiers
    if (← sees .bracketOpen) && (← opensIndexSignature) then
      let parts ← indexSignature rules
      endTypeMember
      return .ofType parts
    else
      let accesses ← takeAccessMark
      let key ← memberKey rules
      let parts ← typeMemberRest rules accesses
      endTypeMember
      return .ofType (key :: parts)

def typeMembers (rules : Rules) : Parser Node := do
  expect .braceOpen
  let members ← upTo .braceClose (typeMember rules)
  expect .braceClose
  return .ofType members

/-- Take a modifier of a mapped type: after `+` or `-` it has to be there. -/
def takeChange (required optional : Parser Unit) : Parser Unit := do
  if ← seesAny [.plus, .minus] then
    advance
    required
  else optional

def mappedType (rules : Rules) : Parser Node := do
  expect .braceOpen
  takeChange (expectWord "readonly") (do let _ ← takeWord "readonly")
  expect .bracketOpen
  let name ← identifier
  expectWord "in"
  let bound ← rules .type
  let renamed ← optional (takeWord "as") (rules .type)
  expect .bracketClose
  takeChange (expect .question) (do let _ ← take .question)
  let value ← annotation? rules
  let _ ← take .semicolon
  expect .braceClose
  return .ofType ([name, bound] ++ renamed ++ value)

/-! ## Tight types -/

/-- A name of a variable, or one of the words. -/
def nameOrWord (words : List String) : Parser Node := do
  if ← seesAnyWord words then anyName else identifier

/-- A name with further names after dots, which may be any words. The word `const` is the name that
asks for the narrowest type. -/
def qualifiedName : Parser Node := do
  let first ← nameOrWord ["this", "const"]
  let later ← many do if ← take .dot then return some (← anyName) else return none
  return .ofType (first :: later)

def typeArgumentsOnLine? (rules : Rules) : Parser (List Node) := do
  if ← afterLineEnd then return [] else typeArguments? rules

def typeReference (rules : Rules) : Parser Node := do
  let name ← qualifiedName
  return .ofType (name :: (← typeArgumentsOnLine? rules))

def importOptions (rules : Rules) : Parser (List Node) := do
  if ← sees .parenClose then return []
  else
    let options ← rules (.assignment true)
    let _ ← take .comma
    return [options]

/-- The type of a module, `import("...")`. -/
def importType (rules : Rules) : Parser Node := do
  expectWord "import"
  expect .parenOpen
  let argument ← rules .type
  let options ← optionalList (take .comma) (importOptions rules)
  expect .parenClose
  let names ← many do if ← take .dot then return some (← anyName) else return none
  let arguments ← typeArguments? rules
  return .ofType ([argument] ++ options ++ names ++ arguments)

/-- The type of a variable, `typeof x`. -/
def typeQuery (rules : Rules) : Parser Node := do
  expectWord "typeof"
  if ← seesWord "import" then
    importType rules
  else
    let first ← nameOrWord ["this"]
    let later ← many do
      if ← take .dot then
        match ← lexeme with
        | .privateName _ => advance; return some .atom
        | _ => return some (← anyName)
      else return none
    return .ofType ([first] ++ later ++ (← typeArgumentsOnLine? rules))

def tupleElement (rules : Rules) : Parser Node := do
  let _ ← take .ellipsis
  if (← seesAnyName) && (← afterNext do if ← take .question then sees .colon else sees .colon) then
    let name ← anyName
    let _ ← take .question
    expect .colon
    return .ofType [name, ← rules .type]
  else rules .type

/-- A template literal type after its first chunk. -/
def templateType (rules : Rules) : Parser Node := do
  let types ← many do
    match ← lexeme with
    | .template false _ =>
      advance
      let inner ← rules .type
      failIf (!(← sees .braceClose))
      asTemplateRest
      return some inner
    | .template true _ => advance; return none
    | _ => fail
  return .ofType types

/-- The type of an assertion about a parameter, `asserts x is T`. -/
def assertionType (rules : Rules) : Parser Node := do
  expectWord "asserts"
  advance
  if ← takeWord "is" then return .ofType [← rules .type] else return .ofType []

/-- Whether an assertion about a parameter is in view. -/
def seesAssertion : Parser Bool := do
  if ← seesWord "asserts" then
    afterNext do return ((← seesIdentifier) || (← seesWord "this")) && !(← afterLineEnd)
  else return false

/-- The words that are types by themselves and take no arguments; before a dot each is a plain name. -/
def typeWords : List String :=
  ["any", "unknown", "never", "number", "object", "boolean", "undefined", "string", "symbol",
    "bigint"]

def atomicType (rules : Rules) : Parser Node := do
  match ← lexeme with
  | .word name _ =>
    if ["void", "null", "true", "false"].contains name then advance; return .ofType []
    else if name == "this" then
      if ← afterNext do return (← seesWord "is") && !(← afterLineEnd) then
        resultType rules
      else typeReference rules
    else if name == "typeof" then typeQuery rules
    else if name == "import" then importType rules
    else if ← seesAssertion then assertionType rules
    else if typeWords.contains name && !(← afterNext (sees .dot)) then advance; return .ofType []
    else typeReference rules
  | .string _ => return .ofType [← stringLiteral]
  | .number | .bigint => advance; return .ofType []
  | .template _ _ => templateType rules
  | .punctuator sign =>
    match sign with
    | .minus =>
      advance
      match ← lexeme with
      | .number | .bigint => advance; return .ofType []
      | _ => fail
    | .braceOpen => if ← opensMappedType then mappedType rules else typeMembers rules
    | .bracketOpen =>
      advance
      let elements ← commaList .bracketClose (tupleElement rules)
      expect .bracketClose
      return .ofType elements
    | .parenOpen =>
      advance
      let inner ← within ({ · with conditionalTypes := true }) (rules .type)
      expect .parenClose
      return .ofType [inner]
    | .question =>
      advance
      if ← seesAny [.comma, .braceClose, .parenClose, .greater, .assign, .bitOr] then
        return .ofType []
      else return .ofType [← rules .type]
    | .not => advance; return .ofType [← rules .tightType]
    | _ => fail
  | _ => fail

/-- What may follow a type on the same line: brackets, and the marks for values that may be
missing. -/
def typeSuffix (rules : Rules) (inner : Node) : Parser (Option Node) := do
  if ← afterLineEnd then return none
  else if ← sees .not then
    advance
    return some inner
  else if ← sees .question then
    if ← afterNext seesTypeStart then return none
    else
      advance
      return some inner
  else if ← take .bracketOpen then
    if ← seesTypeStart then
      let index ← within ({ · with conditionalTypes := true }) (rules .type)
      expect .bracketClose
      return some (.ofType [inner, index])
    else
      expect .bracketClose
      return some (.ofType [inner])
  else return none

/-- A type variable to be found by matching, `infer T`. -/
def inferredType (rules : Rules) : Parser Node := do
  expectWord "infer"
  let name ← identifier
  let bound ← attempt do
    expectWord "extends"
    let bound ← within ({ · with conditionalTypes := false }) (rules .type)
    failIf ((← context).conditionalTypes && (← sees .question))
    return bound
  return .ofType (name :: bound.toList)

/-- A type operator or anything tighter. -/
def tightType (rules : Rules) : Parser Node := do
  if ← seesAnyWord ["keyof", "unique", "readonly"] then
    advance
    return .ofType [← rules .tightType]
  else if ← seesWord "infer" then inferredType rules
  else
    let inner ← atomicType rules
    iterate (typeSuffix rules) inner

/-! ## Loose types -/

/-- Types joined by a sign, which may also stand before the first. -/
def joinedTypes (sign : Punctuator) (operand : Parser Node) : Parser Node := do
  let _ ← take sign
  let first ← operand
  let later ← many do if ← take sign then return some (← operand) else return none
  if later.isEmpty then return first else return .ofType (first :: later)

def functionType (rules : Rules) : Parser Node := do
  let _ ← takeWord "abstract"
  let _ ← takeWord "new"
  let typeParameters ← typeParameters? rules
  let parameters ← parameters rules
  expect .arrow
  let result ← resultType rules
  return .ofType (typeParameters ++ parameters ++ [result])

def unionOperand (rules : Rules) : Parser Node := do
  if ← seesFunctionType rules then functionType rules
  else joinedTypes .bitAnd (rules .tightType)

def type (rules : Rules) : Parser Node := do
  if ← seesFunctionType rules then functionType rules
  else
    let checked ← joinedTypes .bitOr (unionOperand rules)
    let mayBranch := (← context).conditionalTypes && !(← afterLineEnd)
    if mayBranch && (← seesWord "extends") then
      advance
      let bound ← within ({ · with conditionalTypes := false }) (rules .type)
      expect .question
      let yes ← within ({ · with conditionalTypes := true }) (rules .type)
      expect .colon
      let no ← within ({ · with conditionalTypes := true }) (rules .type)
      return .ofType [checked, bound, yes, no]
    else return checked

end ClassRename.Script
