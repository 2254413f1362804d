import ClassRename.Script.Quoting
import ClassRename.Script.Token.Scanner
import ClassRename.Proofs.Script.Marks

/-! # New values read back

A value that is written as a string literal always reads back as itself. An attribute string has no
escapes, so a value reads back from one as long as it does not hold both kinds of quotes; with both,
what is written is no attribute string at all.
-/

namespace ClassRename.Script

open ClassRename.Text

variable {c : Char} {text body after : List Char} {value : String}

/-! ## Decoding -/

/-- A character that needs no escape stands for itself. -/
theorem decodeFrom_char (notEscape : c ≠ '\\') (text : List Char) :
    decodeFrom .plain (c :: text) = (Piece.char c :: ·) <$> decodeFrom .plain text := by
  rw [decodeFrom]
  intro d rest escape _
  exact notEscape escape

/-- A backslash before a character that has no further meaning. -/
theorem decodeFrom_escape (noCode : c ≠ 'x' ∧ c ≠ 'u') (noLineEnd : isLineEnd c = false)
    (noOctal : octalDigit? c = none) (text : List Char) :
    decodeFrom .plain ('\\' :: c :: text) =
      (Piece.char (simpleEscape c) :: ·) <$> decodeFrom .plain text := by
  have noReturn : c ≠ '\r' := by
    rintro rfl
    exact absurd noLineEnd (by decide)
  rw [decodeFrom.eq_def]
  simp [noCode, noLineEnd, noOctal, noReturn]

/-- A code point in four hexadecimal digits that is no surrogate. -/
theorem decodeFrom_unicode {a b d e : Char} {code : Nat} (noBrace : a ≠ '\x7b')
    (digits : hexQuad? a b d e = some code) (whole : code < 0xD800) (text : List Char) :
    decodeFrom .plain ('\\' :: 'u' :: a :: b :: d :: e :: text) =
      (Piece.char (Char.ofNat code) :: ·) <$> decodeFrom .plain text := by
  have notHigh : ¬(0xD800 ≤ code ∧ code ≤ 0xDBFF) := by omega
  have noSurrogate : ¬(0xD800 ≤ code ∧ code ≤ 0xDFFF) := by omega
  rw [decodeFrom.eq_def]
  simp [digits, notHigh, Piece.ofCode, noSurrogate]

/-- A quoted character decodes to itself. -/
theorem decodeFrom_quotedChar (c : Char) (text : List Char) :
    decodeFrom .plain (quotedChar c ++ text) = (Piece.char c :: ·) <$> decodeFrom .plain text := by
  unfold quotedChar
  split_ifs with backslash quote feed return_ line paragraph
  · subst backslash
    exact decodeFrom_escape (by decide) (by decide) (by decide) text
  · subst quote
    exact decodeFrom_escape (by decide) (by decide) (by decide) text
  · subst feed
    exact decodeFrom_escape (by decide) (by decide) (by decide) text
  · subst return_
    exact decodeFrom_escape (by decide) (by decide) (by decide) text
  · subst line
    exact decodeFrom_unicode (by decide) (by decide) (by decide) text
  · subst paragraph
    exact decodeFrom_unicode (by decide) (by decide) (by decide) text
  · exact decodeFrom_char backslash text

/-- A quoted value decodes to its characters. -/
theorem decodePieces_quoted (text : List Char) :
    decodePieces (text.flatMap quotedChar) = some (text.map Piece.char) := by
  induction text with
  | nil => rfl
  | cons c text ih =>
    rw [decodePieces] at ih ⊢
    rw [List.flatMap_cons, decodeFrom_quotedChar, ih]
    rfl

/-- Characters alone are held as they are. -/
theorem heldText_map_char (text : List Char) : heldText (text.map Piece.char) = text := by
  have whole : (text.map Piece.char).any Piece.isSurrogate = false := by simp [Piece.isSurrogate]
  rw [heldText, if_neg (by rw [whole]; exact Bool.false_ne_true), List.flatMap_map]
  simp [Piece.unmarked]

/-! ## Finding the closing quote -/

/-- An escaped character is in the literal. -/
theorem splitAtQuote_escape {quote : Char} (notReturn : c ≠ '\r')
    (split : splitAtQuote quote text = some (body, after)) :
    splitAtQuote quote ('\\' :: c :: text) = some ('\\' :: c :: body, after) := by
  rw [splitAtQuote]
  · simp [split]
  · intro rest isReturn _
    exact notReturn isReturn

/-- A quoted character is in the literal. -/
theorem splitAtQuote_quotedChar (c : Char) (split : splitAtQuote '\'' text = some (body, after)) :
    splitAtQuote '\'' (quotedChar c ++ text) = some (quotedChar c ++ body, after) := by
  have digit {d : Char} (isDigit : d.isDigit = true) {text body : List Char}
      (split : splitAtQuote '\'' text = some (body, after)) :
      splitAtQuote '\'' (d :: text) = some (d :: body, after) := by
    refine splitAtQuote_char ?_ ?_ ⟨?_, ?_⟩ split <;> rintro rfl <;> exact absurd isDigit (by decide)
  unfold quotedChar
  split_ifs with backslash quote feed return_ line paragraph
  · exact splitAtQuote_escape (by decide) split
  · exact splitAtQuote_escape (by decide) split
  · exact splitAtQuote_escape (by decide) split
  · exact splitAtQuote_escape (by decide) split
  · exact splitAtQuote_escape (by decide) <| digit (by decide) <| digit (by decide) <|
      digit (by decide) <| digit (by decide) split
  · exact splitAtQuote_escape (by decide) <| digit (by decide) <| digit (by decide) <|
      digit (by decide) <| digit (by decide) split
  · exact splitAtQuote_char backslash quote ⟨feed, return_⟩ split

/-- A quoted value ends at the quote after it. -/
theorem splitAtQuote_quoted (text rest : List Char) :
    splitAtQuote '\'' (text.flatMap quotedChar ++ '\'' :: rest) =
      some (text.flatMap quotedChar, rest) := by
  induction text with
  | nil => simp [splitAtQuote]
  | cons c text ih =>
    rw [List.flatMap_cons, List.append_assoc]
    exact splitAtQuote_quotedChar c ih

/-! ## Both kinds of strings -/

/-- What is written as a string literal is one with the value. -/
theorem literalText_quoted (value : String) : LiteralText (quoted value).toList value := by
  refine ⟨'\'', value.toList.flatMap quotedChar, value.toList.map Piece.char, .inr rfl, ?_,
    splitAtQuote_quoted _ [], decodePieces_quoted _, ?_⟩
  · rw [quoted, String.toList_ofList]
    rfl
  · rw [heldText_map_char, String.ofList_toList]

/-- An attribute string is scanned as one, whatever follows it. -/
theorem AttributeText.scanAttributeValue {text rest : List Char} {raw : String}
    (isText : AttributeText text raw) :
    scanAttributeValue (text ++ rest) = some ⟨.attributeString raw, byteLength text, rest⟩ := by
  obtain ⟨quote, isQuote, notInside, rfl⟩ := isText
  have body : (raw.toList ++ quote :: rest).takeWhile (fun c => decide (c ≠ quote)) =
      raw.toList := by
    rw [List.takeWhile_append_of_pos]
    · simp
    · intro c inside
      exact decide_eq_true fun same => notInside (same ▸ inside)
  have size : quote.utf8Size = 1 := by rcases isQuote with rfl | rfl <;> rfl
  have together : byteLength (quote :: (raw.toList ++ [quote])) = byteLength raw.toList + 2 := by
    simp only [byteLength_cons, byteLength_append, byteLength_nil, size]
    omega
  rw [together]
  have after : (raw.toList ++ quote :: rest).dropWhile (fun c => decide (c ≠ quote)) =
      quote :: rest := by
    rw [List.dropWhile_append_of_pos]
    · simp
    · intro c inside
      exact decide_eq_true fun same => notInside (same ▸ inside)
  simp only [List.cons_append, List.append_assoc, List.nil_append, Script.scanAttributeValue,
    isQuote, if_true, body, after, String.ofList_toList]

/-- The value holds both kinds of quotes. -/
def HoldsBothQuotes (value : String) : Prop := '\'' ∈ value.toList ∧ '"' ∈ value.toList

/-- What is written as an attribute string is one exactly when the value does not hold both kinds of
quotes, and then it is one with the value. -/
theorem attributeText_attributeQuoted_iff (value raw : String) :
    AttributeText (attributeQuoted value).toList raw ↔ raw = value ∧ ¬HoldsBothQuotes value := by
  have written : (attributeQuoted value).toList =
      attributeQuote value :: (value.toList ++ [attributeQuote value]) := by
    rw [attributeQuoted, String.toList_ofList]
    rfl
  have inside : attributeQuote value ∈ value.toList ↔ HoldsBothQuotes value := by
    rw [attributeQuote, HoldsBothQuotes]
    by_cases single : '\'' ∈ value.toList <;> simp [single]
  constructor
  · rintro ⟨quote, -, notInside, same⟩
    rw [written] at same
    obtain ⟨rfl, same⟩ := List.cons.inj same
    obtain ⟨same, -⟩ := List.append_singleton_inj.1 same
    obtain rfl := String.toList_injective same
    exact ⟨rfl, mt inside.2 notInside⟩
  · rintro ⟨rfl, notBoth⟩
    refine ⟨attributeQuote raw, ?_, mt inside.1 notBoth, written⟩
    rw [attributeQuote]
    split
    · exact .inl rfl
    · exact .inr rfl

end ClassRename.Script
