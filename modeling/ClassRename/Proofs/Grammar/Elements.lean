import ClassRename.Proofs.Script.Quoting
import ClassRename.Script.Grammar

/-! # Reading an element with one attribute string

A script of one element such as `<a className="x"/>` is read whatever the string is. The states of
the parser on the way are told by what they have in view, each from the one before it, and the rules
of the grammar are run on them, one inside the other.
-/

namespace ClassRename.Script

open ClassRename.Text

/-! ## What a reading comes to -/

namespace Parser

variable {α β : Type}

/-- The value that a reading gives, and the state where it ends. -/
def run (reading : Parser α) (state : State) : Except SyntaxError (α × State) :=
  (reading state).map fun step => (step.value, step.after)

@[simp] theorem run_pure (value : α) (state : State) :
    run (pure value) state = .ok (value, state) := rfl

@[simp] theorem run_bind (first : Parser α) (later : α → Parser β) (state : State) :
    run (first >>= later) state =
      match run first state with
      | .ok step => run (later step.1) step.2
      | .error error => .error error := by
  simp only [run, Bind.bind]
  cases first state with
  | error error => rfl
  | ok step =>
    simp only [Except.map]
    cases later step.value step.after <;> rfl

@[simp] theorem run_ask (question : State → α) (state : State) :
    run (ask question) state = .ok (question state, state) := rfl

@[simp] theorem run_advanceTo (scanner : Scanner) (state : State) :
    run (advanceTo scanner) state = .ok ((), state.next scanner) := rfl

@[simp] theorem run_viewAs (scanner : Scanner) (state : State) :
    run (viewAs scanner) state = .ok ((), state.review scanner) := rfl

@[simp] theorem run_aheadOr (otherwise : α) (question : Parser α) (state : State) :
    run (aheadOr otherwise question) state =
      .ok (match run question state with
        | .ok step => step.1
        | .error _ => otherwise, state) := by
  simp only [run, aheadOr]
  cases question state <;> rfl

@[simp] theorem run_many (step : Parser (Option α)) (state : State) :
    run (many step) state =
      run (repeated step (state.textSize - state.token.span.start + 2)) state := by
  simp [many, budget]

@[simp] theorem run_iterate (step : α → Parser (Option α)) (value : α) (state : State) :
    run (iterate step value) state =
      run (iterateFrom step (state.textSize - state.token.span.start + 2) value) state := by
  simp [iterate, budget]

theorem run_takeToken {wanted : Lexeme → Bool} {state : State}
    (isWanted : wanted state.token.lexeme = true) :
    run (takeToken wanted) state = .ok (⟨state.token, isWanted⟩, state.next .lexeme) := by
  simp [run, takeToken, isWanted, Except.map]

theorem exists_of_run {reading : Parser α} {state after : State} {value : α}
    (ran : run reading state = .ok (value, after)) :
    ∃ onward, reading state = .ok ⟨value, after, onward⟩ := by
  cases done : reading state with
  | error error =>
    rw [run, done] at ran
    cases ran
  | ok step =>
    rw [run, done] at ran
    cases ran
    exact ⟨step.onward, rfl⟩

end Parser

/-! ## What a state has in view -/

/-- The state of a typed module with markup has in view what is found in front of a text, and no fault
was noted. -/
structure Shows (state : State) (start : Nat) (front : List Char) (found : Scanned) : Prop where
  lexeme : state.token.lexeme = found.lexeme
  span : state.token.span = ⟨start, start + found.size⟩
  front : state.front = front
  rest : state.rest = found.rest
  dialect : state.dialect = .typedMarkup
  faulted : state.faulted = false

namespace Shows

variable {state : State} {start : Nat} {front text : List Char} {scanner : Scanner}
  {found later : Scanned}

theorem view {offset : Nat} {begins : Takes state.text offset text} {afterLineEnd : Bool}
    (shown : Shows state start front found) (scanned : scanner.scan text = some later) :
    Shows (state.view scanner begins afterLineEnd) offset text later := by
  unfold State.view
  split
  · next scanned' =>
    cases scanned.symm.trans scanned'
    exact ⟨rfl, rfl, rfl, rfl, shown.dialect, shown.faulted⟩
  · next scanned' => cases scanned.symm.trans scanned'

/-- The same text as another scanner finds it. -/
theorem review (shown : Shows state start front found) (scanner : Scanner)
    (scanned : scanner.scan front = some later) :
    Shows (state.review scanner) start front later := by
  obtain rfl := shown.front
  obtain rfl : state.token.span.start = start := by rw [shown.span]
  exact shown.view scanned

theorem viewAfterBlanks {offset size : Nat} {begins : Takes state.text offset text}
    {lineEnded afterLineEnd : Bool} {front' : List Char} (shown : Shows state start front found)
    (skipped : skipBlanks false .blanks text 0 lineEnded = some (size, front', afterLineEnd))
    (scanned : scanner.scan front' = some later) :
    Shows (state.viewAfterBlanks scanner begins lineEnded) (offset + size) front' later := by
  have sameGoal : (!state.dialect.moduleGoal) = false := by
    rw [shown.dialect]
    rfl
  unfold State.viewAfterBlanks
  split
  · next skipped' =>
    rw [sameGoal, skipped] at skipped'
    cases skipped'
    exact shown.view scanned
  · next skipped' =>
    rw [sameGoal, skipped] at skipped'
    cases skipped'

/-- What is found after the token in view and the blanks behind it. -/
theorem next {size : Nat} {afterLineEnd : Bool} (shown : Shows state start front found)
    (scanner : Scanner)
    (skipped : skipBlanks false .blanks found.rest 0 false = some (size, text, afterLineEnd))
    (scanned : scanner.scan text = some later) :
    Shows (state.next scanner) (start + found.size + size) text later := by
  have stop : state.token.span.stop = start + found.size := by rw [shown.span]
  rw [← shown.rest] at skipped
  rw [← stop]
  exact shown.viewAfterBlanks skipped scanned

end Shows

/-! ## Names and the string -/

section

variable {c : Char} (isLetter : c.isAlpha = true)

include isLetter

theorem toNat_lt_of_isAlpha : c.toNat < 0x80 := by
  rcases Bool.or_eq_true_iff.1 isLetter with upper | lower
  · have last : c.val ≤ 'Z'.val := (of_decide_eq_true upper).2
    exact Nat.lt_of_le_of_lt (UInt32.le_iff_toNat_le.1 last) (by decide)
  · have last : c.val ≤ 'z'.val := of_decide_eq_true (Bool.and_eq_true_iff.1 lower).2
    exact Nat.lt_of_le_of_lt (UInt32.le_iff_toNat_le.1 last) (by decide)

theorem isIdentifierStart_of_isAlpha : isIdentifierStart c = true := by
  simp [isIdentifierStart, toNat_lt_of_isAlpha isLetter, isLetter]

theorem isIdentifierPart_of_isAlpha : isIdentifierPart c = true := by
  simp [isIdentifierPart, toNat_lt_of_isAlpha isLetter, Char.isAlphanum, isLetter]

theorem ne_of_isAlpha {d : Char} (notLetter : d.isAlpha = false) : c ≠ d := by
  rintro rfl
  rw [isLetter] at notLetter
  cases notLetter

theorem isLineEnd_of_isAlpha : isLineEnd c = false := by
  simp [isLineEnd, ne_of_isAlpha isLetter]

theorem isBlank_of_isAlpha : isBlank c = false := by
  have small := toNat_lt_of_isAlpha isLetter
  have before : ¬0x2000 ≤ c.toNat := by omega
  simp [isBlank, ne_of_isAlpha isLetter, before]

end

/-- The name is made of letters. -/
structure IsPlainName (name : String) : Prop where
  ne_nil : name.toList ≠ []
  letters : ∀ c ∈ name.toList, c.isAlpha = true

/-- A name does not go on with the text. -/
def EndsName (rest : List Char) : Prop :=
  ∃ c after, rest = c :: after ∧ isIdentifierPart c = false ∧ c ≠ '\\' ∧ c ≠ '-'

section

variable {name : String} {rest : List Char}

theorem IsPlainName.scanWord (isName : IsPlainName name) (ends : EndsName rest) :
    scanWord (name.toList ++ rest) = some (name, false, byteLength name.toList, rest) := by
  obtain ⟨c, after, rfl, notPart, notEscape, -⟩ := ends
  have whole : (name.toList ++ c :: after).takeWhile isIdentifierPart = name.toList := by
    rw [List.takeWhile_append_of_pos fun c isLetter =>
      isIdentifierPart_of_isAlpha (isName.letters c isLetter)]
    simp [notPart]
  simp [Script.scanWord, whole, notEscape]

theorem IsPlainName.scanMarkupName (isName : IsPlainName name) (ends : EndsName rest) :
    scanMarkupName (name.toList ++ rest) =
      some ⟨.word name false, byteLength name.toList, rest⟩ := by
  have word := isName.scanWord ends
  obtain ⟨c, after, rfl, notPart, -, notHyphen⟩ := ends
  simp [Script.scanMarkupName, word, notPart, notHyphen]

theorem IsPlainName.exists_cons (isName : IsPlainName name) :
    ∃ c more, name.toList = c :: more ∧ c.isAlpha = true := by
  obtain ⟨c, more, chars⟩ := List.exists_cons_of_ne_nil isName.ne_nil
  exact ⟨c, more, chars, isName.letters c (by simp [chars])⟩

theorem IsPlainName.scanLexeme (isName : IsPlainName name) (ends : EndsName rest) :
    scanLexeme (name.toList ++ rest) = some ⟨.word name false, byteLength name.toList, rest⟩ := by
  have word := isName.scanWord ends
  obtain ⟨c, more, chars, isLetter⟩ := isName.exists_cons
  rw [chars, List.cons_append] at word
  simp [Script.scanLexeme, chars, word, isIdentifierStart_of_isAlpha isLetter,
    ne_of_isAlpha isLetter]

theorem IsPlainName.skipBlanks (isName : IsPlainName name) (size : Nat) :
    skipBlanks false .blanks (name.toList ++ rest) size false =
      some (size, name.toList ++ rest, false) := by
  obtain ⟨c, more, chars, isLetter⟩ := isName.exists_cons
  simp [Script.skipBlanks, chars, isLineEnd_of_isAlpha isLetter, isBlank_of_isAlpha isLetter,
    ne_of_isAlpha isLetter]

theorem IsPlainName.skipBlanks_space (isName : IsPlainName name) :
    Script.skipBlanks false .blanks (' ' :: (name.toList ++ rest)) 0 false =
      some (1, name.toList ++ rest, false) :=
  isName.skipBlanks 1

/-- The angle before a name is no longer sign. -/
theorem IsPlainName.scanLexeme_less (isName : IsPlainName name) :
    Script.scanLexeme ('<' :: (name.toList ++ rest)) =
      some ⟨.punctuator .less, 1, name.toList ++ rest⟩ := by
  obtain ⟨c, more, chars, isLetter⟩ := isName.exists_cons
  have notAssign : '=' ≠ c := (ne_of_isAlpha isLetter rfl).symm
  have notLess : '<' ≠ c := (ne_of_isAlpha isLetter rfl).symm
  have start : isIdentifierStart '<' = false := by decide
  simp [Script.scanLexeme, scanSign, signs, beginsWith, chars, start, notAssign, notLess]

theorem endsName_space : EndsName (' ' :: rest) :=
  ⟨' ', rest, rfl, rfl, by decide, by decide⟩

theorem endsName_assign : EndsName ('=' :: rest) :=
  ⟨'=', rest, rfl, rfl, by decide, by decide⟩

end

theorem AttributeText.skipBlanks {text rest : List Char} {raw : String}
    (isText : AttributeText text raw) :
    skipBlanks false .blanks (text ++ rest) 0 false = some (0, text ++ rest, false) := by
  obtain ⟨quote, rfl | rfl, -, rfl⟩ := isText <;> rfl

/-- The equals sign before a string is no longer sign. -/
theorem AttributeText.scanLexeme_assign {text rest : List Char} {raw : String}
    (isText : AttributeText text raw) :
    scanLexeme ('=' :: (text ++ rest)) = some ⟨.punctuator .assign, 1, text ++ rest⟩ := by
  obtain ⟨quote, rfl | rfl, -, rfl⟩ := isText <;> rfl

/-! ## The element -/

/-- What stands before the string of an element's attribute. -/
def elementFront (tag key : String) : List Char :=
  '<' :: (tag.toList ++ ' ' :: (key.toList ++ ['=']))

/-- What stands after the string of an element's attribute. -/
def elementBack : List Char := ['/', '>']

/-- What stands after the opening angle of an element with an attribute. -/
def elementRest (tag key : String) (text : List Char) : List Char :=
  tag.toList ++ ' ' :: (key.toList ++ '=' :: (text ++ elementBack))

/-- The tree of a script that is one element with an attribute string. -/
def elementTree (key : String) (span : Span) (raw : String) : Node :=
  .statement [.statement [.compound .element
    [.attribute (.plain key) (.attributeString ⟨span, raw⟩)]]]

open Script.Parser

section

variable {state : State} {start : Nat} {front text : List Char} {tag key raw : String}

theorem run_markupWord {found : Scanned} {escaped : Bool}
    (shown : Shows (state.review .markupName) start front found)
    (isWord : ∃ name escaped, state.token.lexeme = .word name escaped)
    (isName : found.lexeme = .word tag escaped) :
    run markupWord state = .ok (tag, (state.review .markupName).next .lexeme) := by
  obtain ⟨name, escaped', isWord⟩ := isWord
  simp [markupWord, asMarkupName, lexeme, advance, isWord, shown.lexeme, isName]

theorem run_attributeString {found : Scanned} (shown : Shows state start front found)
    (isString : found.lexeme = .attributeString raw) :
    run attributeString state =
      .ok (.attributeString ⟨⟨start, start + found.size⟩, raw⟩, state.next .lexeme) := by
  have isString' : state.token.lexeme = .attributeString raw := shown.lexeme.trans isString
  rw [attributeString, run_bind, run_takeToken]
  · simp [isString', shown.span]
  · rw [isString']

/-- The name of the element, after which the name of its attribute is in view. -/
theorem exists_run_elementName {rest : List Char} (isTag : IsPlainName tag) (isKey : IsPlainName key)
    (shown : Shows state start (tag.toList ++ ' ' :: (key.toList ++ '=' :: rest))
      ⟨.word tag false, byteLength tag.toList, ' ' :: (key.toList ++ '=' :: rest)⟩) :
    ∃ after, run elementName state = .ok (tag, after) ∧
      Shows after (start + byteLength tag.toList + 1) (key.toList ++ '=' :: rest)
        ⟨.word key false, byteLength key.toList, '=' :: rest⟩ := by
  have reviewed := shown.review .markupName (isTag.scanMarkupName endsName_space)
  have later := reviewed.next .lexeme isKey.skipBlanks_space (isKey.scanLexeme endsName_assign)
  have word := run_markupWord reviewed ⟨_, _, shown.lexeme⟩ rfl
  refine ⟨_, ?_, later⟩
  simp [elementName, word, take, sees, lexeme, iterateFrom, later.lexeme]

/-- The attribute with its string, after which the end of the tag is in view. -/
theorem exists_run_elementAttribute (rules : Rules) (isKey : IsPlainName key)
    (isText : AttributeText text raw)
    (shown : Shows state start (key.toList ++ '=' :: (text ++ elementBack))
      ⟨.word key false, byteLength key.toList, '=' :: (text ++ elementBack)⟩) :
    ∃ after, run (elementAttribute rules) state = .ok (.attribute (.plain key) (.attributeString
        ⟨⟨start + byteLength key.toList + 1, start + byteLength key.toList + 1 + byteLength text⟩,
          raw⟩), after) ∧
      Shows after (start + byteLength key.toList + 1 + byteLength text) elementBack
        ⟨.punctuator .divide, 1, ['>']⟩ := by
  have reviewed := shown.review .markupName (isKey.scanMarkupName endsName_assign)
  have assign := reviewed.next .lexeme rfl isText.scanLexeme_assign
  have string := assign.next .attributeValue isText.skipBlanks isText.scanAttributeValue
  have later : Shows _ _ elementBack ⟨.punctuator .divide, 1, ['>']⟩ :=
    string.next .lexeme rfl rfl
  have word := run_markupWord reviewed ⟨_, _, shown.lexeme⟩ rfl
  have value := run_attributeString string rfl
  refine ⟨_, ?_, later⟩
  simp [elementAttribute, attributeName, attributeValue, word, value, take, sees, lexeme,
    shown.lexeme, assign.lexeme, string.lexeme]

theorem byteLength_elementFront (tag key : String) :
    byteLength (elementFront tag key) =
      1 + byteLength tag.toList + 1 + byteLength key.toList + 1 := by
  have signs : ' '.utf8Size = 1 ∧ '='.utf8Size = 1 ∧ '<'.utf8Size = 1 := by decide
  simp only [elementFront, byteLength_cons, byteLength_append, byteLength_nil, signs]
  omega

/-- The element, after which the text ends. -/
theorem exists_run_element (rules : Rules) (isTag : IsPlainName tag) (isKey : IsPlainName key)
    (isText : AttributeText text raw)
    (shown : Shows state start front ⟨.punctuator .less, 1, elementRest tag key text⟩) :
    ∃ after stop, run (element rules false) state = .ok (.compound .element
        [.attribute (.plain key) (.attributeString
          ⟨⟨start + byteLength (elementFront tag key),
            start + byteLength (elementFront tag key) + byteLength text⟩, raw⟩)], after) ∧
      Shows after stop [] ⟨.endOfText, 0, []⟩ := by
  have tagSeen := shown.next .lexeme (isTag.skipBlanks 0) (isTag.scanLexeme endsName_space)
  obtain ⟨named, name, keySeen⟩ := exists_run_elementName isTag isKey tagSeen
  obtain ⟨valued, attributes, slash⟩ := exists_run_elementAttribute rules isKey isText keySeen
  have angle : Shows _ _ ['>'] ⟨.punctuator .greater, 1, []⟩ := slash.next .lexeme rfl rfl
  have ending : Shows _ _ [] ⟨.endOfText, 0, []⟩ := angle.next .lexeme rfl rfl
  refine ⟨_, _, ?_, ending⟩
  rw [byteLength_elementFront]
  simp [element, expect, take, sees, seesAny, seesEnd, lexeme, advance, typed, repeated,
    typeArguments?, expectClosing, name, attributes, shown.lexeme, tagSeen.lexeme, keySeen.lexeme,
    slash.lexeme, angle.lexeme]
  omega

end

/-! ## A script of one element -/

section

variable {state after : State} {start stop : Nat} {front text : List Char} {tag key raw : String}

/-- An element's tag begins no arrow function with type parameters. -/
theorem run_guessArrow (isTag : IsPlainName tag) (isKey : IsPlainName key) (notConst : tag ≠ "const")
    (isText : AttributeText text raw)
    (less : Shows state start front ⟨.punctuator .less, 1, elementRest tag key text⟩) :
    run guessArrow state = .ok (.no, state) := by
  have tagSeen := less.next .lexeme (isTag.skipBlanks 0) (isTag.scanLexeme endsName_space)
  have keySeen := tagSeen.next .lexeme isKey.skipBlanks_space (isKey.scanLexeme endsName_assign)
  have assign := keySeen.next .lexeme rfl isText.scanLexeme_assign
  by_cases reserved : tag ∈ reservedWords <;> by_cases bound : key = "extends" <;>
    simp [guessArrow, guessTypeParameters, guessAfterNext, seesIdentifier, seesAny, seesWord,
      takeWord, sees, advance, lexeme, typed, markup, less.lexeme, tagSeen.lexeme,
      tagSeen.dialect, keySeen.lexeme, assign.lexeme, Dialect.typedMarkup, notConst, reserved,
      bound]

section

variable {found : Scanned} {parts : List Node} (rules : Rules)
  (less : Shows state start front found) (isLess : found.lexeme = .punctuator .less)
  (ending : Shows after stop [] ⟨.endOfText, 0, []⟩)

include less isLess ending

theorem run_leftHandSide
    (read : run (rules (.element false)) state = .ok (.compound .element parts, after)) :
    run (leftHandSide rules) state = .ok (.compound .element parts, after) := by
  simp [leftHandSide, primary, memberStep, iterateFrom, lexeme, markup, less.lexeme, isLess,
    less.dialect, Dialect.typedMarkup, read, ending.lexeme]

theorem run_unary
    (read : run (rules .leftHandSide) state = .ok (.compound .element parts, after)) :
    run (unary rules) state = .ok (.compound .element parts, after) := by
  simp [unary, seesAny, seesAnyWord, sees, seesAwait, seesWord, lexeme, markup, afterLineEnd,
    less.lexeme, isLess, less.dialect, Dialect.typedMarkup, read, ending.lexeme]

theorem run_binary (read : run (rules .unary) state = .ok (.compound .element parts, after)) :
    run (binary rules 0) state = .ok (.compound .element parts, after) := by
  simp [binary, leftOperand, operatorStep, operatorSign?, iterateFrom, lexeme, less.lexeme,
    isLess, read, ending.lexeme]

theorem run_assignment (noArrow : run guessArrow state = .ok (.no, state))
    (read : run (rules (.binary 0)) state = .ok (.compound .element parts, after)) :
    run (assignment rules true) state = .ok (.compound .element parts, after) := by
  simp [assignment, seesYield, arrowFunction?, seesAsyncArrow, assignmentRest, operatorSign?,
    seesWord, lexeme, less.lexeme, isLess, noArrow, read, ending.lexeme]

omit less isLess in
theorem run_expression
    (read : run (rules (.assignment true)) state = .ok (.compound .element parts, after)) :
    run (expression rules) state = .ok (.compound .element parts, after) := by
  simp [expression, take, sees, lexeme, repeated, read, ending.lexeme]

theorem run_statement
    (read : run (rules .expression) state = .ok (.compound .element parts, after)) :
    run (statement rules .list) state = .ok (.statement [.compound .element parts], after) := by
  simp [statement, expressionStatement, endStatement, take, sees, seesStatementEnd, seesAny,
    seesEnd, failIf, lexeme, less.lexeme, isLess, read, ending.lexeme]

theorem run_program {value : Node}
    (read : run (rules (.statement .list)) state = .ok (value, after)) :
    run (program rules) state = .ok (.statement [value], after) := by
  simp [program, seesEnd, lexeme, repeated, less.lexeme, isLess, read, ending.lexeme]

end

theorem shows_start (key : String) (text : List Char) (isTag : IsPlainName tag) :
    Shows (State.start .typedMarkup ('<' :: elementRest tag key text)) 0
      ('<' :: elementRest tag key text) ⟨.punctuator .less, 1, elementRest tag key text⟩ := by
  have before : Shows (State.before .typedMarkup ('<' :: elementRest tag key text)) 0
      ('<' :: elementRest tag key text) ⟨.endOfText, 0, '<' :: elementRest tag key text⟩ :=
    ⟨rfl, rfl, rfl, rfl, rfl, rfl⟩
  obtain ⟨c, more, chars, isLetter⟩ := isTag.exists_cons
  have skipped : skipBlanks false .blanks ('<' :: elementRest tag key text) 0 true =
      some (0, '<' :: elementRest tag key text, true) := rfl
  unfold State.start
  split
  · next line => cases line
  · exact before.viewAfterBlanks skipped isTag.scanLexeme_less

/-- The script from the element on, with rules for phrases that nest deep enough. -/
theorem exists_run_program (depth : Nat) (isTag : IsPlainName tag) (isKey : IsPlainName key)
    (notConst : tag ≠ "const") (isText : AttributeText text raw)
    (less : Shows state start front ⟨.punctuator .less, 1, elementRest tag key text⟩) :
    ∃ after stop, run (program (rulesTo (depth + 7))) state = .ok (elementTree key
        ⟨start + byteLength (elementFront tag key),
          start + byteLength (elementFront tag key) + byteLength text⟩ raw, after) ∧
      Shows after stop [] ⟨.endOfText, 0, []⟩ := by
  obtain ⟨after, stop, element, ending⟩ :=
    exists_run_element (rulesTo depth) isTag isKey isText less
  have leftHandSide := run_leftHandSide (rulesTo (depth + 1)) less rfl ending element
  have unary := run_unary (rulesTo (depth + 2)) less rfl ending leftHandSide
  have binary := run_binary (rulesTo (depth + 3)) less rfl ending unary
  have noArrow := run_guessArrow isTag isKey notConst isText less
  have assignment := run_assignment (rulesTo (depth + 4)) less rfl ending noArrow binary
  have expression := run_expression (rulesTo (depth + 5)) ending assignment
  have statement := run_statement (rulesTo (depth + 6)) less rfl ending expression
  exact ⟨after, stop, run_program _ less rfl ending statement, ending⟩

end

/-- A script of one element is read whatever its string is. Only the tag `const` would begin type
parameters. -/
theorem parse_element {text : List Char} {tag key raw : String} (isTag : IsPlainName tag)
    (isKey : IsPlainName key) (notConst : tag ≠ "const") (isText : AttributeText text raw) :
    parse .typedMarkup (String.ofList (elementFront tag key ++ (text ++ elementBack))) =
      .ok (elementTree key ⟨byteLength (elementFront tag key),
        byteLength (elementFront tag key) + byteLength text⟩ raw) := by
  have whole : elementFront tag key ++ (text ++ elementBack) = '<' :: elementRest tag key text := by
    simp [elementFront, elementRest]
  obtain ⟨after, stop, ran, ending⟩ :=
    exists_run_program (8 * byteLength ('<' :: elementRest tag key text) + 25) isTag isKey notConst
      isText (shows_start key text isTag)
  rw [Nat.zero_add] at ran
  obtain ⟨onward, read⟩ := exists_of_run ran
  have noDefault (span : Span) : (elementTree key span raw).holdsDefaulted = false := rfl
  unfold parse
  dsimp only
  rw [String.toList_ofList, whole, read]
  simp [ending.faulted, noDefault]

end ClassRename.Script
