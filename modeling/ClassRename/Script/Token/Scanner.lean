import ClassRename.Script.Token.Takes

/-!
# Scanners

A scanner gives the lexeme at the front of a text together with a proof that the lexeme stands there:
what it took is the text of a string, the brace that opens an object, or any other token.
-/

namespace ClassRename.Script

open ClassRename.Text

/-! ## Templates, regular expressions and element text -/

theorem splitTemplate_takes {text chunk after : List Char} {closed : Bool}
    (split : splitTemplate text = some (closed, chunk, after)) :
    Takes text (byteLength chunk + if closed then 1 else 2) after := by
  fun_induction splitTemplate text generalizing chunk with
  | case1 => cases split
  | case2 c rest ih =>
    obtain ⟨⟨closed', chunk', after'⟩, later, split⟩ := Option.bind_eq_some_iff.1 split
    cases split
    rw [byteLength_cons, byteLength_cons, Nat.add_assoc, Nat.add_assoc]
    exact ((ih later).cons c).cons '\\'
  | case3 rest =>
    cases split
    exact (Takes.nothing _).ascii rfl
  | case4 rest =>
    cases split
    exact ((Takes.nothing _).ascii (c := '\x7b') rfl).ascii (c := '$') rfl
  | case5 c rest _ _ _ ih =>
    obtain ⟨⟨closed', chunk', after'⟩, later, split⟩ := Option.bind_eq_some_iff.1 split
    cases split
    rw [byteLength_cons, Nat.add_assoc]
    exact (ih later).cons c

theorem scanTemplate_isPlainFront {text : List Char} {found : Scanned}
    (template : scanTemplate text = some found) : found.IsPlainFront text := by
  obtain ⟨⟨closed, chunk, rest⟩, split, template⟩ := Option.bind_eq_some_iff.1 template
  cases template
  exact ⟨splitTemplate_takes split, fun _ => trivial⟩

theorem regexBody_takes {inClass : Bool} {size total : Nat} {text after : List Char}
    (body : regexBody inClass size text = some (total, after)) :
    ∃ more, total = size + more ∧ Takes text more after := by
  fun_induction regexBody inClass size text with
  | case1 => cases body
  | case2 => cases body
  | case3 inClass size c rest _ ih =>
    obtain ⟨more, rfl, takes⟩ := ih body
    exact ⟨1 + (c.utf8Size + more), by omega, (takes.cons c).ascii rfl⟩
  | case4 => cases body
  | case5 inClass size c rest _ _ closing =>
    cases body
    rw [closing.1]
    exact ⟨1, rfl, (Takes.nothing _).ascii rfl⟩
  | case6 inClass size c rest _ _ _ inClass' ih =>
    obtain ⟨more, rfl, takes⟩ := ih body
    exact ⟨c.utf8Size + more, by omega, takes.cons c⟩

/-- The flags of a regular expression are letters of one byte. -/
theorem byteLength_of_flagsAllowed {flags : List Char} (allowed : flagsAllowed flags = true) :
    byteLength flags = flags.length := by
  refine byteLength_eq_length fun c isFlag => ?_
  rw [flagsAllowed, Bool.and_eq_true] at allowed
  have letter := List.all_eq_true.1 allowed.1 c isFlag
  simp only [List.contains_cons, List.contains_nil, Bool.or_eq_true, beq_iff_eq] at letter
  rcases letter with rfl | rfl | rfl | rfl | rfl | rfl | rfl | rfl | none
  all_goals first | rfl | cases none

theorem scanRegex_isPlainFront {text : List Char} {found : Scanned}
    (regex : scanRegex text = some found) : found.IsPlainFront text := by
  obtain ⟨⟨size, rest⟩, body, regex⟩ := Option.bind_eq_some_iff.1 regex
  dsimp only at regex
  split at regex
  · next allowed =>
    cases regex
    obtain ⟨more, rfl, takes⟩ := regexBody_takes body
    have flags := Takes.takeWhile isIdentifierPart rest
    rw [byteLength_of_flagsAllowed allowed] at flags
    rw [Nat.zero_add]
    exact ⟨takes.trans flags, fun _ => trivial⟩
  · cases regex

theorem scanMarkupText_isPlainFront (text : List Char) :
    (scanMarkupText text).IsPlainFront text where
  takes := .takeWhile _ text
  plain taken := by
    simp only [scanMarkupText]
    split <;> trivial

/-! ## Signs -/

/-- Signs are written in characters of one byte, and the opening brace stands for itself alone. -/
theorem signs_ascii : ∀ entry ∈ signs, byteLength entry.1 = entry.1.length ∧
    (entry.2 = .braceOpen → entry.1 = ['\x7b']) := by
  decide

theorem isPrefixOf_of_beginsWith {text : List Char} {entry : List Char × Punctuator}
    (begins : beginsWith text entry = true) : entry.1.isPrefixOf text = true := by
  unfold beginsWith at begins
  split at begins
  · exact (Bool.and_eq_true_iff.1 begins).1
  · exact begins

theorem scanSign_takes {text rest : List Char} {kind : Punctuator} {size : Nat}
    (found : scanSign text = some (kind, size, rest)) :
    ∃ sign, text = sign ++ rest ∧ byteLength sign = size ∧ (kind = .braceOpen → sign = ['\x7b']) := by
  obtain ⟨⟨sign, kind'⟩, isSign, same⟩ := Option.map_eq_some_iff.1 found
  cases same
  obtain ⟨ascii, brace⟩ := signs_ascii _ (List.mem_of_find?_eq_some isSign)
  obtain ⟨after, rfl⟩ :=
    List.isPrefixOf_iff_prefix.1 (isPrefixOf_of_beginsWith (List.find?_some isSign))
  exact ⟨sign, by rw [List.drop_left], ascii, brace⟩

theorem joinAngles_takes (text : List Char) :
    Takes ('>' :: text) (joinAngles text).2.1 (joinAngles text).2.2 := by
  have more {c : Char} {rest after : List Char} {size : Nat} (narrow : c.utf8Size = 1)
      (later : Takes rest size after) : Takes (c :: rest) (1 + size) after := later.ascii narrow
  unfold joinAngles
  split
  · exact more rfl (more rfl (more rfl (more rfl (.nothing _))))
  · exact more rfl (more rfl (more rfl (.nothing _)))
  · exact more rfl (more rfl (more rfl (.nothing _)))
  · exact more rfl (more rfl (.nothing _))
  · exact more rfl (more rfl (.nothing _))
  · exact more rfl (.nothing _)

/-- No sign that begins with a closing angle is an opening brace. -/
theorem joinAngles_ne_braceOpen (text : List Char) : (joinAngles text).1 ≠ .braceOpen := by
  unfold joinAngles
  split <;> nofun

/-! ## Strings -/

/-- A character that neither escapes nor ends the literal nor the line is in the literal. -/
theorem splitAtQuote_char {quote c : Char} {text body after : List Char} (notEscape : c ≠ '\\')
    (notQuote : c ≠ quote) (notLineEnd : c ≠ '\n' ∧ c ≠ '\r')
    (split : splitAtQuote quote text = some (body, after)) :
    splitAtQuote quote (c :: text) = some (c :: body, after) := by
  rw [splitAtQuote]
  · simp [notQuote, notLineEnd, split]
  · intro rest escape _
    exact notEscape escape
  · intro d rest escape _
    exact notEscape escape

/-- What is split at the quote makes up the text, and is split there whatever follows. -/
theorem splitAtQuote_takes {quote : Char} (isQuote : quote = '"' ∨ quote = '\'')
    {text body after : List Char} (split : splitAtQuote quote text = some (body, after)) :
    text = body ++ quote :: after ∧
      ∀ later, splitAtQuote quote (body ++ quote :: later) = some (body, later) := by
  have notFeed : quote ≠ '\n' := by rcases isQuote with rfl | rfl <;> decide
  have notEscape : quote ≠ '\\' := by rcases isQuote with rfl | rfl <;> decide
  fun_induction splitAtQuote quote text generalizing body with
  | case1 => cases split
  | case2 rest ih =>
    obtain ⟨⟨body', after'⟩, found, split⟩ := Option.bind_eq_some_iff.1 split
    cases split
    obtain ⟨rfl, again⟩ := ih found
    refine ⟨rfl, fun later => ?_⟩
    rw [List.cons_append, List.cons_append, List.cons_append, splitAtQuote, again]
    rfl
  | case3 c rest notReturn ih =>
    obtain ⟨⟨body', after'⟩, found, split⟩ := Option.bind_eq_some_iff.1 split
    cases split
    obtain ⟨rfl, again⟩ := ih found
    refine ⟨rfl, fun later => ?_⟩
    rw [List.cons_append, List.cons_append, splitAtQuote, again]
    · rfl
    · intro rest' isReturn same
      cases body' with
      | nil => exact notFeed (List.cons.inj same).1
      | cons d body' =>
        obtain ⟨rfl, -⟩ := List.cons.inj same
        exact notReturn _ isReturn rfl
  | case4 rest notReturn notEscaped =>
    cases split
    refine ⟨rfl, fun later => ?_⟩
    rw [List.nil_append, splitAtQuote, if_pos rfl]
    · intro rest' escape _
      exact notEscape escape
    · intro d rest' escape _
      exact notEscape escape
  | case5 c rest notReturn notEscaped notQuote lineEnd => cases split
  | case6 c rest notReturn notEscaped notQuote notLineEnd ih =>
    obtain ⟨⟨body', after'⟩, found, split⟩ := Option.bind_eq_some_iff.1 split
    cases split
    obtain ⟨rfl, again⟩ := ih found
    refine ⟨rfl, fun later => ?_⟩
    have plain : c ≠ '\\' := by
      rintro rfl
      cases body' with
      | nil => exact notEscaped _ _ rfl rfl
      | cons d body' => exact notEscaped _ _ rfl rfl
    exact splitAtQuote_char plain notQuote (not_or.1 notLineEnd) (again later)

/-- A quote on each side of a text. -/
theorem byteLength_between {quote : Char} (isQuote : quote = '"' ∨ quote = '\'')
    (body : List Char) : byteLength (quote :: (body ++ [quote])) = byteLength body + 2 := by
  have narrow : quote.utf8Size = 1 := by rcases isQuote with rfl | rfl <;> rfl
  rw [byteLength_cons, byteLength_append, byteLength_cons, byteLength_nil, narrow, Nat.add_comm,
    Nat.add_assoc]

/-! ## Any token -/

theorem isFront_of_scanLexeme {text : List Char} {found : Scanned}
    (scanned : scanLexeme text = some found) : found.IsFront text := by
  unfold scanLexeme at scanned
  split at scanned
  · cases scanned
    exact ⟨[], rfl, rfl, trivial⟩
  split at scanned
  · next quote rest isQuote =>
    obtain ⟨⟨body, after⟩, split, scanned⟩ := Option.bind_eq_some_iff.1 scanned
    obtain ⟨pieces, decoded, scanned⟩ := Option.bind_eq_some_iff.1 scanned
    cases scanned
    obtain ⟨rfl, again⟩ := splitAtQuote_takes isQuote split
    refine ⟨quote :: (body ++ [quote]), by simp, byteLength_between isQuote body, ?_⟩
    exact ⟨quote, body, pieces, isQuote, rfl, again [], decoded, rfl⟩
  split at scanned
  · next c rest _ isTick =>
    subst isTick
    obtain ⟨chunk, template, scanned⟩ := Option.bind_eq_some_iff.1 scanned
    cases scanned
    exact ((scanTemplate_isPlainFront template).ascii rfl).isFront
  split at scanned
  · next c rest _ _ isHash =>
    subst isHash
    split at scanned
    · split at scanned
      · obtain ⟨⟨name, escaped, size, after⟩, word, scanned⟩ := Option.bind_eq_some_iff.1 scanned
        cases scanned
        have front : Scanned.IsPlainFront _ ⟨.privateName name, size, after⟩ :=
          ⟨scanWord_takes word, fun _ => trivial⟩
        exact (front.ascii rfl).isFront
      · cases scanned
    · cases scanned
  split at scanned
  · obtain ⟨⟨name, escaped, size, after⟩, word, scanned⟩ := Option.bind_eq_some_iff.1 scanned
    cases scanned
    exact Scanned.IsPlainFront.isFront ⟨scanWord_takes word, fun _ => trivial⟩
  split at scanned
  · exact (scanNumber_isPlainFront scanned).isFront
  · obtain ⟨⟨kind, size, after⟩, sign, scanned⟩ := Option.bind_eq_some_iff.1 scanned
    cases scanned
    obtain ⟨taken, same, size, brace⟩ := scanSign_takes sign
    refine ⟨taken, same, size, ?_⟩
    by_cases isBrace : kind = .braceOpen
    · subst isBrace
      exact brace rfl
    · exact Lexeme.isText_punctuator isBrace taken

/-! ## Tokens that have to be asked for -/

theorem isFront_of_scanAttributeValue {text : List Char} {found : Scanned}
    (scanned : scanAttributeValue text = some found) : found.IsFront text := by
  unfold scanAttributeValue at scanned
  split at scanned
  · next quote rest =>
    split at scanned
    · next isQuote =>
      dsimp only at scanned
      split at scanned
      · next c after left =>
        cases scanned
        have isEnd := List.head?_dropWhile_not (· ≠ quote) rest
        have whole := List.takeWhile_append_dropWhile (p := (· ≠ quote)) (l := rest)
        rw [left] at isEnd whole
        obtain rfl : c = quote := by simpa using isEnd
        refine ⟨c :: (rest.takeWhile (· ≠ c) ++ [c]), ?_, byteLength_between isQuote _, ?_⟩
        · rw [List.cons_append, List.append_assoc, List.singleton_append, whole]
        · refine ⟨c, isQuote, ?_, by rw [String.toList_ofList]⟩
          rw [String.toList_ofList]
          intro inside
          simpa using List.all_eq_true.1 List.all_takeWhile c inside
      · cases scanned
    · exact isFront_of_scanLexeme scanned
  · exact isFront_of_scanLexeme scanned

theorem isFront_of_scanBetweenTags {text : List Char} {found : Scanned}
    (scanned : scanBetweenTags text = some found) : found.IsFront text := by
  unfold scanBetweenTags at scanned
  split at scanned
  · exact isFront_of_scanLexeme scanned
  · cases scanned
    exact ⟨['<'], rfl, rfl, trivial⟩
  · cases scanned
    exact ⟨['\x7b'], rfl, rfl, rfl⟩
  · cases scanned
    exact (scanMarkupText_isPlainFront text).isFront

theorem isFront_of_scanSlash {text : List Char} {found : Scanned}
    (scanned : scanSlash text = some found) : found.IsFront text := by
  unfold scanSlash at scanned
  split at scanned
  · obtain ⟨regex, front, rfl⟩ := Option.map_eq_some_iff.1 scanned
    exact ((scanRegex_isPlainFront front).ascii rfl).isFront
  · cases scanned

theorem isFront_of_scanSubstitutionEnd {text : List Char} {found : Scanned}
    (scanned : scanSubstitutionEnd text = some found) : found.IsFront text := by
  unfold scanSubstitutionEnd at scanned
  split at scanned
  · obtain ⟨chunk, front, rfl⟩ := Option.map_eq_some_iff.1 scanned
    exact ((scanTemplate_isPlainFront front).ascii rfl).isFront
  · cases scanned

theorem isFront_of_scanClosingAngles {text : List Char} {found : Scanned}
    (scanned : scanClosingAngles text = some found) : found.IsFront text := by
  unfold scanClosingAngles at scanned
  split at scanned
  · next rest =>
    cases scanned
    have plain := Lexeme.isText_punctuator (joinAngles_ne_braceOpen rest)
    exact Scanned.IsPlainFront.isFront ⟨joinAngles_takes rest, plain⟩
  · cases scanned

theorem isFront_of_scanOpeningAngle {text : List Char} {found : Scanned}
    (scanned : scanOpeningAngle text = some found) : found.IsFront text := by
  unfold scanOpeningAngle at scanned
  split at scanned
  · cases scanned
    exact ⟨['<'], rfl, rfl, trivial⟩
  · cases scanned

theorem isFront_of_scanMarkupName {text : List Char} {found : Scanned}
    (scanned : scanMarkupName text = some found) : found.IsFront text := by
  obtain ⟨⟨name, escaped, size, rest⟩, word, scanned⟩ := Option.bind_eq_some_iff.1 scanned
  cases scanned
  have takes := (scanWord_takes word).trans (.takeWhile (fun c => isIdentifierPart c || c == '-') rest)
  exact Scanned.IsPlainFront.isFront ⟨takes, fun _ => trivial⟩

/-- A scanner of one kind of tokens, which finds what stands at the front of a text. -/
structure Scanner where
  scan : List Char → Option Scanned
  isFront : ∀ {text found}, scan text = some found → found.IsFront text

namespace Scanner

def nothing : Scanner := ⟨fun _ => none, nofun⟩

def lexeme : Scanner := ⟨scanLexeme, isFront_of_scanLexeme⟩

def attributeValue : Scanner := ⟨scanAttributeValue, isFront_of_scanAttributeValue⟩

def betweenTags : Scanner := ⟨scanBetweenTags, isFront_of_scanBetweenTags⟩

def slash : Scanner := ⟨scanSlash, isFront_of_scanSlash⟩

def substitutionEnd : Scanner := ⟨scanSubstitutionEnd, isFront_of_scanSubstitutionEnd⟩

def closingAngles : Scanner := ⟨scanClosingAngles, isFront_of_scanClosingAngles⟩

def openingAngle : Scanner := ⟨scanOpeningAngle, isFront_of_scanOpeningAngle⟩

def markupName : Scanner := ⟨scanMarkupName, isFront_of_scanMarkupName⟩

end Scanner

end ClassRename.Script
