import ClassRename.Script.Grammar.Statement

/-!
# Declarations of types and modules

Interfaces, type names, enumerations and namespaces where types may be written, and everywhere what
a module imports and exports.
-/

namespace ClassRename.Script

open Script.Parser

/-! ## Types and namespaces -/

def interfaceDeclaration (rules : Rules) : Parser Node := do
  expectWord "interface"
  let name ← identifier
  let parameters ← typeParameters? rules
  let parents ← optionalList (takeWord "extends") (commaSeparated (typeReference rules))
  return .statement ([name] ++ parameters ++ parents ++ [← typeMembers rules])

def typeDeclaration (rules : Rules) : Parser Node := do
  expectWord "type"
  let name ← identifier
  let parameters ← typeParameters? rules
  expect .assign
  let type ← rules .type
  endStatement
  return .statement ([name] ++ parameters ++ [type])

/-- A string that may be written as a template. -/
def stringOrTemplate : Parser Node := do
  match ← lexeme with
  | .template true wellEscaped =>
    faultIf (!wellEscaped)
    advance
    return .atom
  | _ => stringLiteral

/-- The name of a member of an enumeration: a word or a string, the latter perhaps in brackets. -/
def enumKey : Parser Node := do
  if ← take .bracketOpen then
    let key ← stringOrTemplate
    expect .bracketClose
    return key
  else externalName

def enumDeclaration (rules : Rules) : Parser Node := do
  expectWord "enum"
  let name ← identifier
  expect .braceOpen
  let members ← commaList .braceClose do
    let key ← enumKey
    return Node.statement (key :: (← initializer? rules))
  expect .braceClose
  return .statement (name :: members)

/-- A namespace, or a module by its name or path. A module may lack a body. -/
def namespaceDeclaration (rules : Rules) : Parser Node := do
  if ← takeWord "global" then return .statement [← block rules]
  else
    advance
    match ← lexeme with
    | .string _ =>
      let name ← stringLiteral
      if ← sees .braceOpen then return .statement [name, ← block rules]
      else
        endStatement
        return .statement [name]
    | _ =>
      let first ← identifier
      let later ← many do if ← take .dot then return some (← anyName) else return none
      return .statement ([first] ++ later ++ [← block rules])

/-- A module by its path, or a part of a namespace by its name. -/
def aliasedModule : Parser Node := do
  if (← seesWord "require") && (← afterNext (sees .parenOpen)) then
    advance
    expect .parenOpen
    let path ← stringLiteral
    expect .parenClose
    return path
  else qualifiedName

/-- A name that stands for a module or for a part of a namespace, from its name on. -/
def importAlias : Parser Node := do
  let name ← identifier
  expect .assign
  let value ← aliasedModule
  endStatement
  return .statement [name, value]

/-- The words that may stand before a declaration. -/
def declarationModifiers : List String :=
  ["declare", "abstract", "accessor", "async", "private", "protected", "public", "readonly",
    "static"]

/-- Whether the tokens from here on declare something; modifiers may come first. -/
def seesDeclaration : Parser Bool := ahead do
  let _ ← many do
    if (← seesAnyWord declarationModifiers) && !(← afterNext afterLineEnd) then
      advance
      return some ()
    else return none
  match ← lexeme with
  | .word name false =>
    match name with
    | "var" | "let" | "const" | "function" | "class" | "enum" => return true
    | "interface" | "type" => afterNext do return (← seesIdentifier) && !(← afterLineEnd)
    | "module" | "namespace" => afterNext do
      let names ← match ← lexeme with
        | .string _ => pure true
        | _ => seesIdentifier
      return names && !(← afterLineEnd)
    | "global" => afterNext (sees .braceOpen)
    | "import" => afterNext do
      match ← lexeme with
      | .string _ | .word _ _ => return true
      | _ => seesAny [.times, .braceOpen]
    | _ => return false
  | _ => return false

/-- Whether a declaration that only types allow is in view. -/
def seesTypedDeclaration : Parser Bool := do
  if ← typed then
    if ← seesAnyWord (["interface", "type", "module", "namespace", "global", "enum"] ++
        declarationModifiers) then seesDeclaration
    else return false
  else return false

/-- A declaration after its modifiers; `need` tells whether a function has to have a body. -/
def declarationRest (rules : Rules) (decorators : List Node) (need : BodyNeed) : Parser Node := do
  match ← lexeme with
  | .word name _ =>
    match name with
    | "interface" => interfaceDeclaration rules
    | "type" => typeDeclaration rules
    | "enum" => enumDeclaration rules
    | "module" | "namespace" | "global" => namespaceDeclaration rules
    | "class" => classFrom rules decorators true
    | "function" | "async" => functionStatement rules .list need
    | "var" => variableStatement rules .var .list
    | "let" => variableStatement rules .let .list
    | "const" =>
      if (← typed) && (← afterNext (seesWord "enum")) then
        advance
        enumDeclaration rules
      else variableStatement rules .const .list
    | "import" =>
      advance
      importAlias
    | _ => fail
  | _ => fail

/-- A declaration with the modifiers before it; after `declare` nothing needs an implementation. -/
def typedDeclaration (rules : Rules) (decorators : List Node) : Parser Node := do
  let modifiers ← many do
    match ← lexeme with
    | .word name false =>
      if name == "async" then return none
      else if declarationModifiers.contains name then
        advance
        return some name
      else return none
    | _ => return none
  let isAmbient := modifiers.contains "declare"
  let isClass ← seesWord "class"
  faultIf (modifiers.any fun name => name != "declare" && !(name == "abstract" && isClass))
  faultIf (modifiers.eraseDups != modifiers)
  within (fun context => { context with ambient := context.ambient || isAmbient })
    (declarationRest rules decorators (if isAmbient then .forbidden else .signatureAllowed))

/-! ## Imports -/

/-- The attributes that an import may be given. -/
def importAttributes? : Parser Unit := do
  if (← seesWord "with") || ((← seesWord "assert") && !(← afterLineEnd)) then
    advance
    expect .braceOpen
    let _ ← commaList .braceClose do
      let _ ← externalName
      expect .colon
      stringLiteral
    expect .braceClose

/-- Take `type` where it marks the name after it, in a list of an import or export, as one of a type.
`type` may also be the name itself, and so may `as`. -/
def takeTypeMark : Parser Unit := do
  if (← typed) && (← seesWord "type") then
    let marks ← afterNext do
      if ← seesWord "as" then
        afterNext do
          if ← seesWord "as" then afterNext seesAnyName else return !(← seesAnyName)
      else if ← seesAnyName then return true
      else return (← lexeme) matches .string _
    if marks then advance

/-- A name in braces that an import lists, perhaps with another one after `as`; the last of them has
to be a variable's. -/
def importedName : Parser Unit := do
  takeTypeMark
  if ← afterNext (seesWord "as") then
    let _ ← externalName
    expectWord "as"
  let _ ← identifier

/-- A name in braces that an export lists, perhaps with another one after `as`. The answer tells
whether the first may be a variable's. -/
def exportedName : Parser Bool := do
  takeTypeMark
  let isVariable ← seesIdentifier
  let _ ← externalName
  if ← takeWord "as" then let _ ← externalName
  return isVariable

def fromClause : Parser Node := do
  expectWord "from"
  stringLiteral

/-- Whether `type` in view makes an import one of types only. -/
def seesTypeImport : Parser Bool := do
  if (← typed) && (← seesWord "type") then
    afterNext do
      if ← seesAny [.braceOpen, .times] then return true
      else if ← seesWord "from" then afterNext do return (← seesWord "from") || (← sees .assign)
      else seesIdentifier
  else return false

/-- Whether a word in view asks for a special phase of an import. -/
def seesPhasedImport : Parser Bool := do
  if ← seesWord "defer" then afterNext (sees .times)
  else if ← seesWord "source" then
    afterNext do
      if ← seesWord "from" then afterNext (seesWord "from") else seesIdentifier
  else return false

/-- The names in braces or the whole namespace that an import lists. -/
def importList : Parser Unit := do
  if ← take .times then
    expectWord "as"
    let _ ← identifier
  else
    expect .braceOpen
    let _ ← commaList .braceClose importedName
    expect .braceClose

/-- The path of a module, and the end of the statement. -/
def moduleStatement (path : Parser Node) : Parser Node := do
  let path ← path
  importAttributes?
  endStatement
  return .statement [path]

/-- Take the word that makes an import one of types or asks for a special phase. -/
def takeImportMark : Parser Unit := do
  if ← seesTypeImport then advance
  else if ← seesPhasedImport then advance

def importClause : Parser Unit := do
  if ← seesIdentifier then
    let _ ← identifier
    if ← take .comma then importList
  else importList

def importDeclaration : Parser Node := do
  expectWord "import"
  match ← lexeme with
  | .string _ => moduleStatement stringLiteral
  | _ =>
    takeImportMark
    if (← seesIdentifier) && (← typed) && (← afterNext (sees .assign)) then importAlias
    else
      importClause
      moduleStatement fromClause

/-! ## Exports -/

/-- An export of names in braces, perhaps from another module. -/
def exportList : Parser Node := do
  expect .braceOpen
  let bindings ← commaList .braceClose exportedName
  expect .braceClose
  if ← seesWord "from" then moduleStatement fromClause
  else
    faultIf (bindings.contains false)
    endStatement
    return .statement []

/-- An export of all that another module exports. -/
def exportAll : Parser Node := do
  expect .times
  let _ ← optional (takeWord "as") externalName
  moduleStatement fromClause

def exportDefault (rules : Rules) (decorators : List Node) : Parser Node := do
  expectWord "default"
  let later ← Script.decorators rules
  if ← seesWord "class" then classFrom rules (decorators ++ later) false
  else if (← typed) && (← seesWord "abstract") && (← afterNext (seesWord "class")) then
    advance
    classFrom rules (decorators ++ later) false
  else if (← typed) && (← seesWord "interface") &&
      (← afterNext do return (← seesIdentifier) && !(← afterLineEnd)) then
    interfaceDeclaration rules
  else if (← seesWord "function") || (← seesAsyncFunction) then
    let awaiting ← takeWord "async"
    functionFrom rules awaiting .signatureAllowed (functionName? awaiting)
  else
    let value ← rules (.assignment true)
    endStatement
    return .statement [value]

/-- Take `type` where it makes an import one of types only. -/
def takeTypeImport : Parser Unit := do
  if ← seesTypeImport then advance

/-- An export that only types allow, if one is in view. -/
def typedExport? (rules : Rules) : Parser (Option Node) := do
  if !(← typed) then return none
  else if ← take .assign then
    let value ← rules .expression
    endStatement
    return some (.statement [value])
  else if ← seesWord "import" then
    advance
    takeTypeImport
    return some (← importAlias)
  else if (← seesWord "as") && (← afterNext (seesWord "namespace")) then
    advance
    advance
    let name ← identifier
    endStatement
    return some (.statement [name])
  else if (← seesWord "type") && (← afterNext (seesAny [.braceOpen, .times])) then
    advance
    if ← sees .braceOpen then return some (← exportList) else return some (← exportAll)
  else return none

def seesPlainDeclaration : Parser Bool := do
  if ← seesWord "async" then seesAsyncFunction
  else seesAnyWord ["var", "let", "const", "function", "class"]

/-- The declaration that is exported; `decorators` stand before it. -/
def exportedDeclaration (rules : Rules) (decorators : List Node) : Parser Node := do
  if ← seesTypedDeclaration then typedDeclaration rules decorators
  else
    failIf (!(← seesPlainDeclaration))
    declarationRest rules decorators .signatureAllowed

def exportDeclaration (rules : Rules) (decorators : List Node) : Parser Node := do
  expectWord "export"
  if ← sees .braceOpen then exportList
  else if ← sees .times then exportAll
  else if ← seesWord "default" then exportDefault rules decorators
  else
    match ← typedExport? rules with
    | some node => return node
    | none =>
      let later ← Script.decorators rules
      exportedDeclaration rules (decorators ++ later)

end ClassRename.Script
