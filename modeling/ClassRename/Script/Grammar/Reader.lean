import ClassRename.Script.Dialect
import ClassRename.Script.Token.Scanner
import ClassRename.Script.Tree

/-!
# Reading a script token by token

A `Parser` moves over a script with one token in view. It may look at that token, take it, read it
anew in another way, try a reading and go back, or note a fault and carry on. Every rule of the
grammar is written with these steps alone. A place carries the proof that the token in view stands in
the text, and no step leads back in the text, so the same holds wherever a rule may lead.
-/

namespace ClassRename.Script

open ClassRename.Text

/-- What is allowed at the present place. -/
structure Context where
  /-- `in` is an operator here. -/
  inOperator : Bool := true
  /-- `await` is an operator here. -/
  awaiting : Bool := false
  /-- `yield` is an operator here. -/
  yielding : Bool := false
  /-- `return` is allowed here. -/
  returning : Bool := false
  /-- Declarations here need no implementation. -/
  ambient : Bool := false
  /-- A bracket here does not go on with the expression. -/
  decorating : Bool := false
  /-- A conditional type may stand here. -/
  conditionalTypes : Bool := true

/-- The place of a parser in a script. -/
structure State where
  /-- The whole text. -/
  text : List Char
  /-- The size of the whole text. -/
  textSize : Nat
  /-- The token in view. -/
  token : Token
  /-- The text from the token in view on. -/
  front : List Char
  /-- The text after the token in view. -/
  rest : List Char
  dialect : Dialect
  context : Context
  /-- Whether a fault was noted. -/
  faulted : Bool := false
  /-- The token in view begins where its span says. -/
  begins : Takes text token.span.start front
  /-- The token in view stands in its span. -/
  stands : ∃ taken, front = taken ++ rest ∧
    token.span.stop = token.span.start + byteLength taken ∧ token.lexeme.IsText taken

/-- A script that cannot be read, and the place where reading stopped. -/
structure SyntaxError where
  offset : Nat
  deriving DecidableEq, Repr

def SyntaxError.message (error : SyntaxError) : String :=
  "Unexpected token at byte " ++ toString error.offset

namespace State

/-- The second state is in the same text as the first, at the same place or further on. -/
structure Onward (state later : State) : Prop where
  text : later.text = state.text
  start : state.token.span.start ≤ later.token.span.start

namespace Onward

theorem refl (state : State) : Onward state state := ⟨rfl, Nat.le_refl _⟩

theorem trans {first second third : State} (early : Onward first second)
    (late : Onward second third) : Onward first third :=
  ⟨late.text.trans early.text, Nat.le_trans early.start late.start⟩

end Onward

theorem start_le_stop (state : State) : state.token.span.start ≤ state.token.span.stop := by
  obtain ⟨taken, -, stop, -⟩ := state.stands
  rw [stop]
  exact Nat.le_add_right ..

/-- The text after the token in view begins where its span ends. -/
theorem takes_rest (state : State) : Takes state.text state.token.span.stop state.rest := by
  obtain ⟨taken, front, stop, -⟩ := state.stands
  rw [stop]
  exact state.begins.trans ⟨taken, front, rfl⟩

/-- Put what a scanner finds at the front of a part of the text in view. -/
def view (state : State) (scanner : Scanner) {start : Nat} {front : List Char}
    (begins : Takes state.text start front) (afterLineEnd : Bool) : State :=
  match scanned : scanner.scan front with
  | some found => { state with
      token := { lexeme := found.lexeme, span := ⟨start, start + found.size⟩, afterLineEnd }
      front, rest := found.rest
      begins
      stands := by
        obtain ⟨taken, same, size, isText⟩ := scanner.isFront scanned
        exact ⟨taken, same, by rw [size], isText⟩ }
  | none => { state with
      token := { lexeme := .invalid, span := ⟨start, start⟩, afterLineEnd }
      front, rest := front
      begins
      stands := ⟨[], rfl, rfl, trivial⟩ }

theorem start_view {state : State} {scanner : Scanner} {start : Nat} {front : List Char}
    {begins : Takes state.text start front} {afterLineEnd : Bool} :
    (state.view scanner begins afterLineEnd).token.span.start = start := by
  unfold view
  split <;> rfl

theorem onward_view {state : State} {scanner : Scanner} {start : Nat} {front : List Char}
    {begins : Takes state.text start front} {afterLineEnd : Bool}
    (later : state.token.span.start ≤ start) :
    Onward state (state.view scanner begins afterLineEnd) := by
  unfold view
  split <;> exact ⟨rfl, later⟩

/-- Skip blanks and comments, then put what a scanner finds in view. -/
def viewAfterBlanks (state : State) (scanner : Scanner) {offset : Nat} {text : List Char}
    (begins : Takes state.text offset text) (lineEnded : Bool) : State :=
  match skipped : skipBlanks (!state.dialect.moduleGoal) .blanks text 0 lineEnded with
  | some (_, _, afterLineEnd) =>
    state.view scanner (begins.trans (skipBlanks_takes_all skipped)) afterLineEnd
  | none => state.view .nothing begins false

theorem le_start_viewAfterBlanks {state : State} {scanner : Scanner} {offset : Nat}
    {text : List Char} {begins : Takes state.text offset text} {lineEnded : Bool} :
    offset ≤ (state.viewAfterBlanks scanner begins lineEnded).token.span.start := by
  unfold viewAfterBlanks
  split
  · rw [start_view]
    exact Nat.le_add_right ..
  · exact Nat.le_of_eq start_view.symm

theorem onward_viewAfterBlanks {state : State} {scanner : Scanner} {offset : Nat}
    {text : List Char} {begins : Takes state.text offset text} {lineEnded : Bool}
    (later : state.token.span.start ≤ offset) :
    Onward state (state.viewAfterBlanks scanner begins lineEnded) := by
  refine ⟨?_, Nat.le_trans later le_start_viewAfterBlanks⟩
  unfold viewAfterBlanks
  split
  · exact (onward_view (Nat.le_trans later (Nat.le_add_right ..))).text
  · exact (onward_view later).text

/-- The state with the token after the present one in view, as a scanner finds it. -/
def next (state : State) (scanner : Scanner) : State :=
  state.viewAfterBlanks scanner state.takes_rest false

/-- The state with the text right after the present token in view, as it stands between tags. -/
def nextBetweenTags (state : State) : State :=
  state.view .betweenTags state.takes_rest false

/-- The state with the token in view as another scanner finds it. -/
def review (state : State) (scanner : Scanner) : State :=
  state.view scanner state.begins state.token.afterLineEnd

/-- The line that a text may begin with to tell which program runs it: its size and the text after
it. -/
def shebang? : List Char → Option (Nat × List Char)
  | '#' :: '!' :: rest =>
    let line := rest.takeWhile fun c => !isLineEnd c
    some (1 + (1 + byteLength line), rest.drop line.length)
  | _ => none

theorem shebang?_takes {text rest : List Char} {size : Nat}
    (line : shebang? text = some (size, rest)) : Takes text size rest := by
  unfold shebang? at line
  split at line
  · cases line
    exact ((Takes.takeWhile _ _).ascii rfl).ascii rfl
  · cases line

def before (dialect : Dialect) (text : List Char) : State where
  text
  textSize := byteLength text
  token := { lexeme := .endOfText, span := ⟨0, 0⟩, afterLineEnd := false }
  front := text
  rest := text
  dialect
  context := { awaiting := dialect.moduleGoal, ambient := dialect.declarations }
  begins := .nothing text
  stands := ⟨[], rfl, rfl, trivial⟩

def start (dialect : Dialect) (text : List Char) : State :=
  match line : shebang? text with
  | some _ => (before dialect text).viewAfterBlanks .lexeme (shebang?_takes line) false
  | none => (before dialect text).viewAfterBlanks .lexeme (.nothing text) true

theorem text_start (dialect : Dialect) (text : List Char) : (start dialect text).text = text := by
  unfold start
  split
  · exact (onward_viewAfterBlanks (Nat.zero_le _)).text
  · exact (onward_viewAfterBlanks (Nat.zero_le _)).text

end State

/-- What a step over a script comes to: a value, and a place that is not before the present one. -/
structure Step (state : State) (α : Type) where
  value : α
  after : State
  onward : state.Onward after

/-- A step over a script that gives a value or stops. -/
def Parser (α : Type) := (state : State) → Except SyntaxError (Step state α)

instance : Monad Parser where
  pure value := fun state => .ok ⟨value, state, .refl state⟩
  bind first later := fun state =>
    match first state with
    | .error error => .error error
    | .ok step =>
      match later step.value step.after with
      | .error error => .error error
      | .ok further => .ok ⟨further.value, further.after, step.onward.trans further.onward⟩

namespace Parser

variable {α β : Type}

/-- Stop: the token in view has no place here. -/
def fail : Parser α := fun state => .error ⟨state.token.span.start⟩

def ask (question : State → α) : Parser α := fun state =>
  .ok ⟨question state, state, .refl state⟩

def move (place : State → State) (onward : ∀ state : State, state.Onward (place state)) :
    Parser Unit :=
  fun state => .ok ⟨(), place state, onward state⟩

def fault : Parser Unit :=
  move (fun state => { state with faulted := true }) fun _ => ⟨rfl, Nat.le_refl _⟩

def faultIf (condition : Bool) : Parser Unit := if condition then fault else pure ()

def failIf (condition : Bool) : Parser Unit := if condition then fail else pure ()

def token : Parser Token := ask (·.token)

def lexeme : Parser Lexeme := ask (·.token.lexeme)

def rest : Parser (List Char) := ask (·.rest)

def typed : Parser Bool := ask (·.dialect.typed)

def markup : Parser Bool := ask (·.dialect.markup)

def context : Parser Context := ask (·.context)

def afterLineEnd : Parser Bool := ask (·.token.afterLineEnd)

/-- Take the token in view, and put in view what a scanner finds after it. -/
def advanceTo (scanner : Scanner) : Parser Unit :=
  move (·.next scanner) fun state => State.onward_viewAfterBlanks state.start_le_stop

def advance : Parser Unit := advanceTo .lexeme

/-- Take the token in view, after which the text between tags follows. -/
def advanceBetweenTags : Parser Unit :=
  move State.nextBetweenTags fun state => State.onward_view state.start_le_stop

/-- Take the token in view, which must be one of those that are wanted. -/
def takeToken (wanted : Lexeme → Bool) : Parser { token : Token // wanted token.lexeme } :=
  fun state =>
    if isWanted : wanted state.token.lexeme then
      .ok ⟨⟨state.token, isWanted⟩, state.next .lexeme,
        State.onward_viewAfterBlanks state.start_le_stop⟩
    else fail state

def sees (sign : Punctuator) : Parser Bool := return (← lexeme) == .punctuator sign

def seesAny (signs : List Punctuator) : Parser Bool := do
  match ← lexeme with
  | .punctuator sign => return signs.contains sign
  | _ => return false

/-- Whether the token in view is the word, written without escapes. -/
def seesWord (name : String) : Parser Bool := return (← lexeme) == .word name false

/-- Whether the token in view is one of the words, written without escapes. -/
def seesAnyWord (names : List String) : Parser Bool := do
  match ← lexeme with
  | .word name false => return names.contains name
  | _ => return false

def seesEnd : Parser Bool := return (← lexeme) == .endOfText

def take (sign : Punctuator) : Parser Bool := do
  if ← sees sign then advance; return true else return false

def takeWord (name : String) : Parser Bool := do
  if ← seesWord name then advance; return true else return false

def expect (sign : Punctuator) : Parser Unit := do
  if ← sees sign then advance else fail

def takeTyped (sign : Punctuator) : Parser Bool := do
  if ← typed then take sign else return false

def expectWord (name : String) : Parser Unit := do
  if ← seesWord name then advance else fail

/-- Try a reading; when it stops, stay where it began. -/
def attempt (reading : Parser α) : Parser (Option α) := fun state =>
  match reading state with
  | .ok step => .ok ⟨some step.value, step.after, step.onward⟩
  | .error _ => .ok ⟨none, state, .refl state⟩

/-- Ask what a reading gives and stay here; where it stops, `otherwise` is the answer. -/
def aheadOr (otherwise : α) (question : Parser α) : Parser α := fun state =>
  match question state with
  | .ok step => .ok ⟨step.value, state, .refl state⟩
  | .error _ => .ok ⟨otherwise, state, .refl state⟩

/-- Ask a question about the tokens ahead and stay here; a reading that stops says no. -/
def ahead (question : Parser Bool) : Parser Bool := aheadOr false question

/-- Ask a question about the tokens after the one in view and stay here. -/
def afterNext (question : Parser Bool) : Parser Bool := ahead do advance; question

/-- Read with a changed context and set the former one again. -/
def within (change : Context → Context) (reading : Parser α) : Parser α := fun state =>
  match reading { state with context := change state.context } with
  | .ok step => .ok {
      value := step.value
      after := { step.after with context := state.context }
      onward := ⟨step.onward.text, step.onward.start⟩ }
  | .error error => .error error

/-- Steps until one gives nothing, at most `budget` of them. -/
def repeated (step : Parser (Option α)) : Nat → Parser (List α)
  | 0 => fail
  | budget + 1 => do
    match ← step with
    | none => return []
    | some value => return value :: (← repeated step budget)

/-- How many tokens there can be from the one in view on, and some more. -/
def budget : Parser Nat := ask fun state => state.textSize - state.token.span.start + 2

/-- Steps until one gives nothing. Each step has to take a token, so the size of the text that is
left bounds their number. -/
def many (step : Parser (Option α)) : Parser (List α) := do repeated step (← budget)

/-- A value that steps carry on from until one gives nothing. -/
def iterateFrom (step : α → Parser (Option α)) : Nat → α → Parser α
  | 0, _ => fail
  | budget + 1, value => do
    match ← step value with
    | none => return value
    | some value => iterateFrom step budget value

/-- Carry on from a value until a step gives nothing. -/
def iterate (step : α → Parser (Option α)) (value : α) : Parser α := do
  iterateFrom step (← budget) value

/-- Items up to the closing sign, which is not taken. -/
def upTo (close : Punctuator) (item : Parser α) : Parser (List α) :=
  many do if ← sees close then return none else return some (← item)

/-- Take the comma that must stand here unless the closing sign follows. -/
def commaBefore (close : Punctuator) : Parser Unit := do
  if ← sees close then return else expect .comma

/-- Items separated by commas up to the closing sign, which is not taken; a comma may follow the
last. -/
def commaList (close : Punctuator) (item : Parser α) : Parser (List α) :=
  upTo close do
    let value ← item
    commaBefore close
    return value

/-- One or more items separated by commas. -/
def commaSeparated (item : Parser α) : Parser (List α) := do
  let first ← item
  let later ← many do if ← take .comma then return some (← item) else return none
  return first :: later

/-- One reading where the answer is yes, and none elsewhere. -/
def optional (present : Parser Bool) (reading : Parser α) : Parser (List α) := do
  if ← present then return [← reading] else return []

/-- A list where the answer is yes, and an empty one elsewhere. -/
def optionalList (present : Parser Bool) (reading : Parser (List α)) : Parser (List α) := do
  if ← present then reading else return []

/-! ## Reading the token in view anew -/

/-- Read the token in view as another scanner finds it. -/
def viewAs (scanner : Scanner) : Parser Unit :=
  move (·.review scanner) fun _ => State.onward_view (Nat.le_refl _)

/-- Read a sign in view that begins with a slash as the start of a regular expression. -/
def asRegex : Parser Unit := viewAs .slash

/-- Read the closing brace in view as the end of a template's substitution. -/
def asTemplateRest : Parser Unit := viewAs .substitutionEnd

/-- Read the closing angle in view together with what it makes a longer sign with. -/
def asOperator : Parser Unit := do
  if ← sees .greater then viewAs .closingAngles

/-- Read a sign in view that begins with an opening angle as that angle alone. -/
def asOpeningAngle : Parser Unit := do
  if ← sees .shiftLeft then viewAs .openingAngle

/-- Go on with the word in view as a name of an element or attribute, which may hold hyphens. -/
def asMarkupName : Parser Unit := do
  match ← lexeme with
  | .word _ _ => viewAs .markupName
  | _ => return

/-- Take the closing angle in view, after which element text follows. -/
def expectBeforeText (sign : Punctuator) : Parser Unit := do
  if ← sees sign then advanceBetweenTags else fail

/-! ## Ends of statements -/

/-- Whether a statement may end before the token in view without a semicolon. -/
def seesStatementEnd : Parser Bool := do
  if ← seesAny [.semicolon, .braceClose] then return true
  else if ← seesEnd then return true
  else afterLineEnd

def endStatement : Parser Unit := do
  if ← take .semicolon then return
  else failIf (!(← seesStatementEnd))

end Parser

/-! ## The rules of the grammar as a table -/

/-- Where a statement stands. -/
inductive Place where
  /-- In a list of statements. -/
  | list
  /-- Alone, as the body of another statement. -/
  | alone
  deriving DecidableEq, Repr

/-- The rules that other rules call on, each of them a kind of phrase. -/
inductive Phrase where
  /-- Expressions separated by commas. -/
  | expression
  /-- An expression without a comma; `arrowTypes` tells whether an arrow function in it may write
  its type although a colon follows. -/
  | assignment (arrowTypes : Bool)
  /-- Operators that bind tighter than a level. -/
  | binary (level : Nat)
  /-- A unary operator or anything tighter. -/
  | unary
  /-- A call, a member or anything tighter. -/
  | leftHandSide
  /-- A value that `new` is put before. -/
  | constructed
  /-- A pattern without a default. -/
  | binding
  /-- An element or fragment; `nested` when it stands between elements. -/
  | element (nested : Bool)
  /-- A type. -/
  | type
  /-- A type operator or anything tighter. -/
  | tightType
  /-- A statement. -/
  | statement (place : Place)
  deriving DecidableEq, Repr

/-- What every rule may call on: the reader of each kind of phrase. -/
abbrev Rules := Phrase → Parser Node

end ClassRename.Script
