import ClassRename.Proofs.Script.CodeUnits

/-! # Written strings at the front of a text

What is written as a string literal is read back whatever text follows it: the grammar and the reader
both take exactly what was written and give the value. An attribute string is read up to the next quote
of its kind, so a value with both kinds of quotes is the one thing that does not come back from it.
-/

namespace ClassRename.Script

open ClassRename.Text

variable {quote : Char} {text text' rest rest' later body body' : List Char} {units units' : List Nat}
  {raw raw' value : String}

/-! ## Literals with a text after them -/

/-- A string literal stands at the front of the text: the code units that it stands for, and the text
after it. -/
def LiteralFront (text : List Char) (units : List Nat) (rest : List Char) : Prop :=
  ∃ literal, text = literal ++ rest ∧ StringUnits literal units

/-- An attribute string stands at the front of the text: its raw text, and the text after it. -/
def AttributeFront (text : List Char) (raw : String) (rest : List Char) : Prop :=
  ∃ literal, text = literal ++ rest ∧ AttributeText literal raw

theorem NoOctalNext.append (first : NoOctalNext rest) (second : NoOctalNext later) :
    NoOctalNext (rest ++ later) := by
  cases rest with
  | nil => exact second
  | cons c rest => exact first

theorem OctalCode.append {code : Nat} (octal : OctalCode text code rest) (noOctal : NoOctalNext later) :
    OctalCode (text ++ later) code (rest ++ later) := by
  cases octal with
  | one first none => exact .one first (none.append noOctal)
  | two first second none => exact .two first second fun low => (none low).append noOctal
  | three first second third low => exact .three first second third low

/-- What follows an escape makes no difference to it unless it goes on with an octal code or the end of
a line. -/
theorem Escape.append (escape : Escape text units rest) (noOctal : NoOctalNext later)
    (noFeed : later.head? ≠ some '\n') : Escape (text ++ later) units (rest ++ later) := by
  cases escape with
  | character kind => exact .character kind
  | lineEnd kind alone =>
    refine .lineEnd kind fun isReturn => ?_
    cases rest with
    | nil => exact noFeed
    | cons c rest => exact alone isReturn
  | returnFeed isReturn isFeed => exact .returnFeed isReturn isFeed
  | octal kind code => exact .octal kind (code.append noOctal)
  | hex kind digits => exact .hex kind digits
  | unicode kind digits => exact .unicode kind digits
  | codePoint kind isBrace split filled number known =>
    subst split
    exact .codePoint kind isBrace (List.append_assoc ..) filled number known

/-- A body ends at the first quote of its kind that is in no escape. -/
theorem StringBody.front_unique (isQuote : quote = '"' ∨ quote = '\'')
    (reads : StringBody quote body units) (reads' : StringBody quote body' units')
    (same : body ++ quote :: rest = body' ++ quote :: rest') : body = body' ∧ rest = rest' := by
  have notEscape : quote ≠ '\\' := by rcases isQuote with rfl | rfl <;> decide
  have noOctal (rest : List Char) : NoOctalNext (quote :: rest) := by
    rcases isQuote with rfl | rfl <;> rfl
  have noFeed (rest : List Char) : (quote :: rest).head? ≠ some '\n' := by
    rcases isQuote with rfl | rfl <;> simp
  induction reads generalizing body' units' with
  | nil =>
    cases reads' with
    | nil => exact ⟨rfl, (List.cons.inj same).2⟩
    | character notQuote => exact absurd (List.cons.inj same).1.symm notQuote
    | escape isEscape => exact absurd ((List.cons.inj same).1.trans isEscape) notEscape
  | character notQuote notEscape' _ _ _ ih =>
    cases reads' with
    | nil => exact absurd (List.cons.inj same).1 notQuote
    | character _ _ _ _ tail =>
      obtain ⟨rfl, after⟩ := List.cons.inj same
      obtain ⟨rfl, sameRest⟩ := ih tail after
      exact ⟨rfl, sameRest⟩
    | escape isEscape => exact absurd ((List.cons.inj same).1.trans isEscape) notEscape'
  | @escape _ text _ _ _ isEscape escape _ ih =>
    cases reads' with
    | nil => exact absurd ((List.cons.inj same).1.symm.trans isEscape) notEscape
    | character _ notEscape' => exact absurd ((List.cons.inj same).1.symm.trans isEscape) notEscape'
    | @escape _ text' _ _ _ _ escape' tail =>
      have after : text ++ quote :: rest = text' ++ quote :: rest' := (List.cons.inj same).2
      have whole := escape.append (noOctal rest) (noFeed rest)
      have whole' := escape'.append (noOctal rest') (noFeed rest')
      obtain ⟨-, left⟩ := whole.unique (after ▸ whole')
      obtain ⟨rfl, rfl⟩ := ih tail left
      obtain rfl := List.append_cancel_right after
      exact ⟨congrArg (· :: text) (List.cons.inj same).1, rfl⟩

/-- A text begins with one string literal at most. -/
theorem LiteralFront.unique (front : LiteralFront text units rest)
    (front' : LiteralFront text units' rest') : units = units' ∧ rest = rest' := by
  obtain ⟨literal, rfl, quote, body, isQuote, rfl, reads⟩ := front
  obtain ⟨literal', same, quote', body', -, rfl, reads'⟩ := front'
  simp only [List.cons_append, List.append_assoc, List.nil_append] at same
  obtain ⟨rfl, bodies⟩ := List.cons.inj same
  obtain ⟨rfl, rfl⟩ := reads.front_unique isQuote reads' bodies
  exact ⟨reads.unique reads', rfl⟩

/-! ## What was written -/

/-- The grammar reads a written value back, and in one way. -/
theorem literalFront_quoted_iff :
    LiteralFront ((quoted value).toList ++ later) units rest ↔
      units = utf16 value.toList ∧ rest = later := by
  have written : LiteralFront ((quoted value).toList ++ later) (utf16 value.toList) later :=
    ⟨_, rfl, stringUnits_quoted value⟩
  constructor
  · exact fun front => front.unique written
  · rintro ⟨rfl, rfl⟩
    exact written

/-- The reader takes a written value for a string with the value. -/
theorem scanLexeme_quoted (value : String) (later : List Char) :
    scanLexeme ((quoted value).toList ++ later) =
      some ⟨.string value, byteLength (quoted value).toList, later⟩ := by
  have written : (quoted value).toList =
      '\'' :: (value.toList.flatMap quotedChar ++ ['\'']) := by
    rw [quoted, String.toList_ofList]
    rfl
  rw [written, byteLength_between (.inr rfl), List.cons_append, List.append_assoc, List.singleton_append]
  simp [scanLexeme, splitAtQuote_quoted, decodePieces_quoted, heldText_map_char]

/-- No line ends in a written value. -/
theorem isLineEnd_of_mem_quoted {c : Char} (written : c ∈ (quoted value).toList) :
    isLineEnd c = false := by
  have plain (d : Char) : ∀ c ∈ quotedChar d, isLineEnd c = false := by
    unfold quotedChar
    split_ifs with backslash quote feed return_ line paragraph
    iterate 6 simp [isLineEnd]
    simp [isLineEnd, feed, return_, line, paragraph]
  rw [quoted, String.toList_ofList, List.mem_append, List.mem_cons, List.mem_flatMap,
    List.mem_singleton] at written
  rcases written with (rfl | ⟨d, -, inside⟩) | rfl
  · rfl
  · exact plain d c inside
  · rfl

/-- An attribute string comes back from the grammar unless it holds both kinds of quotes. -/
theorem attributeFront_attributeQuoted_iff (value : String) (later : List Char) :
    AttributeFront ((attributeQuoted value).toList ++ later) value later ↔ ¬HoldsBothQuotes value := by
  constructor
  · rintro ⟨literal, same, isText⟩
    rw [← List.append_cancel_right same] at isText
    exact ((attributeText_attributeQuoted_iff value value).1 isText).2
  · exact fun notBoth => ⟨_, rfl, (attributeText_attributeQuoted_iff value value).2 ⟨rfl, notBoth⟩⟩

/-- The reader finds the same attribute string as the grammar. -/
theorem scanAttributeValue_eq_some_iff {size : Nat} :
    scanAttributeValue text = some ⟨.attributeString raw, size, rest⟩ ↔
      ∃ literal, text = literal ++ rest ∧ AttributeText literal raw ∧ byteLength literal = size := by
  constructor
  · intro scanned
    obtain ⟨literal, split, sized, isText⟩ := isFront_of_scanAttributeValue scanned
    exact ⟨literal, split, isText, sized⟩
  · rintro ⟨literal, rfl, isText, rfl⟩
    exact isText.scanAttributeValue

/-- What is written comes back, whatever text follows. By the grammar a string literal that was written is
the one literal at the front of the text, with the code units of the value; the reader takes it for a
string with the value; and no line ends in it. An attribute string comes back from the grammar and from the
reader exactly when the value does not hold both kinds of quotes. -/
theorem written_readBack (value : String) (later : List Char) :
    ((∀ units rest, LiteralFront ((quoted value).toList ++ later) units rest ↔
        units = utf16 value.toList ∧ rest = later) ∧
      scanLexeme ((quoted value).toList ++ later) =
        some ⟨.string value, byteLength (quoted value).toList, later⟩ ∧
      ∀ c ∈ (quoted value).toList, isLineEnd c = false) ∧
    (AttributeFront ((attributeQuoted value).toList ++ later) value later ↔ ¬HoldsBothQuotes value) ∧
    (scanAttributeValue ((attributeQuoted value).toList ++ later) =
        some ⟨.attributeString value, byteLength (attributeQuoted value).toList, later⟩ ↔
      ¬HoldsBothQuotes value) := by
  refine ⟨⟨fun units rest => literalFront_quoted_iff, scanLexeme_quoted value later,
    fun c => isLineEnd_of_mem_quoted⟩, attributeFront_attributeQuoted_iff value later, ?_⟩
  rw [scanAttributeValue_eq_some_iff, ← attributeFront_attributeQuoted_iff value later]
  constructor
  · rintro ⟨literal, split, isText, -⟩
    exact ⟨literal, split, isText⟩
  · rintro ⟨literal, split, isText⟩
    exact ⟨literal, split, isText, congrArg byteLength (List.append_cancel_right split).symm⟩

end ClassRename.Script
