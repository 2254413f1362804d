import ClassRename.Proofs.Script.Quoting
import ClassRename.Proofs.Script.StringGrammar

/-! # The reader decodes what the grammar says

The pieces that the reader decodes a literal to have the code units that the grammar gives it. A pair
of surrogates in two escapes is one piece, so a piece is what one or two escapes stand for. The text in
which a value is held has the code units of the value as long as no surrogate stands alone; each that
does makes it longer.
-/

namespace ClassRename.Script

open ClassRename.Text

variable {c : Char} {text body rest : List Char} {pieces : List Piece} {units : List Nat}

/-! ## Codes -/

/-- A code below the astral planes is its own code unit. -/
theorem utf16Point_of_lt {code : Nat} (small : code < 0x10000) : utf16Point code = [code] :=
  if_pos small

theorem toNat_ofNat {code : Nat} (valid : code.isValidChar) : (Char.ofNat code).toNat = code := by
  rw [Char.ofNat, dif_pos valid]
  rfl

/-- The piece of a code point has its code units. -/
theorem Piece.units_ofCode {code : Nat} (known : code ≤ 0x10FFFF) :
    (Piece.ofCode code).units = utf16Point code := by
  unfold Piece.ofCode
  split
  · next surrogate => rw [utf16Point_of_lt (by omega), Piece.units]
  · next noSurrogate =>
    have valid : code.isValidChar := by
      simp only [Nat.isValidChar]
      omega
    rw [Piece.units, toNat_ofNat valid]
    rfl

/-- The character of two surrogates has them as its code units. -/
theorem Piece.units_astral {high low : Nat} (isHigh : 0xD800 ≤ high ∧ high ≤ 0xDBFF)
    (isLow : 0xDC00 ≤ low ∧ low ≤ 0xDFFF) : (Piece.char (astral high low)).units = [high, low] := by
  have valid : (0x10000 + (high - 0xD800) * 0x400 + (low - 0xDC00)).isValidChar := by
    simp only [Nat.isValidChar]
    omega
  have first : 0xD800 + (0x10000 + (high - 0xD800) * 0x400 + (low - 0xDC00) - 0x10000) / 0x400 =
      high := by
    omega
  have second : 0xDC00 + (0x10000 + (high - 0xD800) * 0x400 + (low - 0xDC00) - 0x10000) % 0x400 =
      low := by
    omega
  rw [Piece.units, astral, toNat_ofNat valid, if_neg (by omega), first, second]

theorem toNat_le_toNat {a b : Char} (le : a ≤ b) : a.toNat ≤ b.toNat :=
  UInt32.le_iff_toNat_le.1 (Char.le_def.1 le)

theorem hexDigit?_lt {n : Nat} (digit : hexDigit? c = some n) : n < 16 := by
  have nine : '9'.toNat = '0'.toNat + 9 := rfl
  have smallF : 'f'.toNat = 'a'.toNat + 5 := rfl
  have capitalF : 'F'.toNat = 'A'.toNat + 5 := rfl
  rw [hexDigit?] at digit
  split_ifs at digit with decimal small capital
  · have le : c ≤ '9' := by
      rw [Char.isDigit, Bool.and_eq_true, decide_eq_true_eq, decide_eq_true_eq] at decimal
      exact decimal.2
    have below := toNat_le_toNat le
    cases digit
    omega
  · have below := toNat_le_toNat small.2
    cases digit
    omega
  · have below := toNat_le_toNat capital.2
    cases digit
    omega

theorem octalDigit?_lt {n : Nat} (digit : octalDigit? c = some n) : n < 8 := by
  have seven : '7'.toNat = '0'.toNat + 7 := rfl
  rw [octalDigit?] at digit
  split_ifs at digit with bounds
  have below := toNat_le_toNat bounds.2
  cases digit
  omega

theorem exists_of_hexPair? {a b : Char} {code : Nat} (pair : hexPair? a b = some code) :
    ∃ high low, hexDigit? a = some high ∧ hexDigit? b = some low ∧ code = high * 16 + low := by
  simp only [hexPair?, Option.bind_eq_bind, Option.bind_eq_some_iff, Option.pure_def,
    Option.some.injEq] at pair
  obtain ⟨high, highDigit, low, lowDigit, rfl⟩ := pair
  exact ⟨high, low, highDigit, lowDigit, rfl⟩

theorem exists_of_hexQuad? {a b c d : Char} {code : Nat} (quad : hexQuad? a b c d = some code) :
    ∃ high low, hexPair? a b = some high ∧ hexPair? c d = some low ∧ code = high * 256 + low := by
  simp only [hexQuad?, Option.bind_eq_bind, Option.bind_eq_some_iff, Option.pure_def,
    Option.some.injEq] at quad
  obtain ⟨high, highPair, low, lowPair, rfl⟩ := quad
  exact ⟨high, low, highPair, lowPair, rfl⟩

theorem hexPair?_lt {a b : Char} {code : Nat} (pair : hexPair? a b = some code) : code < 0x100 := by
  obtain ⟨high, low, highDigit, lowDigit, rfl⟩ := exists_of_hexPair? pair
  have := hexDigit?_lt highDigit
  have := hexDigit?_lt lowDigit
  omega

theorem hexQuad?_lt {a b c d : Char} {code : Nat} (quad : hexQuad? a b c d = some code) :
    code < 0x10000 := by
  obtain ⟨high, low, highPair, lowPair, rfl⟩ := exists_of_hexQuad? quad
  have := hexPair?_lt highPair
  have := hexPair?_lt lowPair
  omega

/-! ## Escapes -/

/-- One escape, or two of them with a backslash between. -/
inductive Escapes : List Char → List Nat → List Char → Prop where
  | one {text rest : List Char} {units : List Nat} : Escape text units rest → Escapes text units rest
  | two {text between rest : List Char} {units units' : List Nat} :
    Escape text units ('\\' :: between) → Escape between units' rest →
    Escapes text (units ++ units') rest

/-- The pieces begin with what the escapes at the front of the text stand for. -/
def FrontDecodes (text : List Char) (pieces : List Piece) : Prop :=
  ∃ first rest later, Escapes text (codeUnits first) rest ∧ decodeFrom .plain rest = some later ∧
    pieces = first ++ later

theorem FrontDecodes.of_piece {first : Piece} (escapes : Escapes text first.units rest)
    (decoded : (first :: ·) <$> decodeFrom .plain rest = some pieces) : FrontDecodes text pieces := by
  obtain ⟨later, decodedLater, rfl⟩ := Option.map_eq_some_iff.1 decoded
  rw [← List.append_nil first.units] at escapes
  exact ⟨[first], rest, later, escapes, decodedLater, rfl⟩

theorem FrontDecodes.of_code {code : Nat} (escape : Escape text [code] rest) (small : code < 0x10000)
    (decoded : (Piece.ofCode code :: ·) <$> decodeFrom .plain rest = some pieces) :
    FrontDecodes text pieces := by
  refine .of_piece (.one ?_) decoded
  rwa [Piece.units_ofCode (by omega), utf16Point_of_lt small]

/-- After the first digits of a code point in braces. -/
theorem exists_digits_of_decodeFrom {value : Nat}
    (decoded : decodeFrom (.digits value) text = some pieces) (known : value ≤ 0x10FFFF) :
    ∃ digits rest code later, text = digits ++ '\x7d' :: rest ∧
      hexValueFrom? value digits = some code ∧ code ≤ 0x10FFFF ∧
      decodeFrom .plain rest = some later ∧ pieces = Piece.ofCode code :: later := by
  induction text generalizing value with
  | nil => simp [decodeFrom] at decoded
  | cons c text ih =>
    rw [decodeFrom] at decoded
    split at decoded
    · next closes =>
      obtain ⟨later, rest, rfl⟩ := Option.map_eq_some_iff.1 decoded
      exact ⟨[], text, value, later, by simp [closes], rfl, known, rest, rfl⟩
    · obtain ⟨digit, isDigit, decoded⟩ := Option.bind_eq_some_iff.1 decoded
      dsimp only at decoded
      split at decoded
      · next known' =>
        obtain ⟨digits, rest, code, later, rfl, number, more⟩ := ih decoded known'
        refine ⟨c :: digits, rest, code, later, rfl, ?_, more⟩
        rw [hexValueFrom?, List.foldlM_cons, isDigit]
        exact number
      · cases decoded

/-- After the brace that opens a code point. -/
theorem exists_digits_of_opened (decoded : decodeFrom .opened text = some pieces) :
    ∃ digits rest code later, text = digits ++ '\x7d' :: rest ∧ digits ≠ [] ∧
      hexValueFrom? 0 digits = some code ∧ code ≤ 0x10FFFF ∧
      decodeFrom .plain rest = some later ∧ pieces = Piece.ofCode code :: later := by
  cases text with
  | nil => simp [decodeFrom] at decoded
  | cons c text =>
    rw [decodeFrom] at decoded
    obtain ⟨digit, isDigit, decoded⟩ := Option.bind_eq_some_iff.1 decoded
    have small := hexDigit?_lt isDigit
    obtain ⟨digits, rest, code, later, rfl, number, more⟩ :=
      exists_digits_of_decodeFrom decoded (by omega)
    refine ⟨c :: digits, rest, code, later, rfl, List.cons_ne_nil _ _, ?_, more⟩
    rw [hexValueFrom?, List.foldlM_cons, isDigit, Option.map_eq_map, Option.map_some, Nat.zero_mul,
      Nat.zero_add]
    exact number

theorem frontDecodes_hex (kind : escapeKind c = .hex) (isHex : c = 'x')
    (decoded : decodeFrom .plain ('\\' :: c :: text) = some pieces) : FrontDecodes (c :: text) pieces := by
  rw [decodeFrom.eq_def] at decoded
  simp only [isHex, if_true] at decoded
  split at decoded
  · next a b rest =>
    obtain ⟨code, pair, decoded⟩ := Option.bind_eq_some_iff.1 decoded
    have small := hexPair?_lt pair
    exact .of_code (.hex kind pair) (by omega) decoded
  · cases decoded

theorem frontDecodes_unicode (kind : escapeKind c = .unicode) (isUnicode : c = 'u')
    (decoded : decodeFrom .plain ('\\' :: c :: text) = some pieces) : FrontDecodes (c :: text) pieces := by
  have noHex : 'u' ≠ 'x' := by decide
  rw [decodeFrom.eq_def] at decoded
  simp only [isUnicode, noHex, if_true, if_false] at decoded
  split at decoded
  · obtain ⟨digits, rest, code, later, split, filled, number, known, decodedLater, rfl⟩ :=
      exists_digits_of_opened decoded
    have escape := Escape.codePoint kind rfl split filled number known
    rw [← Piece.units_ofCode known] at escape
    exact .of_piece (.one escape) (Option.map_eq_some_iff.2 ⟨later, decodedLater, rfl⟩)
  · next a b d e rest _ =>
    obtain ⟨high, quad, decoded⟩ := Option.bind_eq_some_iff.1 decoded
    split at decoded
    · next isHigh =>
      -- A high surrogate takes the escape after it along when that is a low one.
      split at decoded
      · next f g h i later =>
        obtain ⟨low, quad', decoded⟩ := Option.bind_eq_some_iff.1 decoded
        split at decoded
        · next isLow =>
          refine .of_piece ?_ decoded
          rw [Piece.units_astral isHigh isLow]
          exact .two (.unicode kind quad) (.unicode (by decide) quad')
        · exact .of_piece (.one (.unicode kind quad)) decoded
      · cases decoded
      · exact .of_piece (.one (.unicode kind quad)) decoded
    · exact .of_code (.unicode kind quad) (hexQuad?_lt quad) decoded
  · cases decoded

theorem frontDecodes_lineEnd (kind : escapeKind c = .lineEnd) (noCode : c ≠ 'x' ∧ c ≠ 'u')
    (isEnd : isLineEnd c = true) (decoded : decodeFrom .plain ('\\' :: c :: text) = some pieces) :
    FrontDecodes (c :: text) pieces := by
  rw [decodeFrom.eq_def] at decoded
  simp only [noCode, isEnd, if_true, if_false] at decoded
  split at decoded
  · next isReturn =>
    split at decoded
    · exact ⟨[], _, pieces, .one (.returnFeed isReturn rfl), decoded, rfl⟩
    · next noFeed =>
      refine ⟨[], text, pieces, .one (.lineEnd kind fun _ feed => ?_), decoded, rfl⟩
      obtain ⟨rest, rfl⟩ := List.head?_eq_some_iff.1 feed
      exact noFeed rest rfl
  · next noReturn => exact ⟨[], text, pieces, .one (.lineEnd kind (absurd · noReturn)), decoded, rfl⟩

theorem frontDecodes_octal {first : Nat} (kind : escapeKind c = .octal)
    (noCode : c ≠ 'x' ∧ c ≠ 'u') (noEnd : isLineEnd c = false) (noReturn : c ≠ '\r')
    (isOctal : octalDigit? c = some first)
    (decoded : decodeFrom .plain ('\\' :: c :: text) = some pieces) : FrontDecodes (c :: text) pieces := by
  have small := octalDigit?_lt isOctal
  rw [decodeFrom.eq_def] at decoded
  simp only [noCode, noEnd, noReturn, isOctal, if_false, Bool.false_eq_true] at decoded
  split at decoded
  · exact .of_code (.octal kind (.one isOctal rfl)) (by omega) decoded
  · split at decoded
    · next noSecond => exact .of_code (.octal kind (.one isOctal noSecond)) (by omega) decoded
    · next isSecond =>
      have small' := octalDigit?_lt isSecond
      split at decoded
      · next low =>
        split at decoded
        · exact .of_code (.octal kind (.two isOctal isSecond fun _ => rfl)) (by omega) decoded
        · split at decoded
          · next noThird =>
            exact .of_code (.octal kind (.two isOctal isSecond fun _ => noThird)) (by omega) decoded
          · next isThird =>
            have small'' := octalDigit?_lt isThird
            exact .of_code (.octal kind (.three isOctal isSecond isThird low)) (by omega) decoded
      · next high =>
        exact .of_code (.octal kind (.two isOctal isSecond (absurd · high))) (by omega) decoded

/-- What is decoded after a backslash begins with escapes of the grammar. -/
theorem frontDecodes_of_decodeFrom (decoded : decodeFrom .plain ('\\' :: c :: text) = some pieces) :
    FrontDecodes (c :: text) pieces := by
  by_cases isHex : c = 'x'
  · exact frontDecodes_hex (by simp [escapeKind, isHex]) isHex decoded
  by_cases isUnicode : c = 'u'
  · exact frontDecodes_unicode (by simp [escapeKind, isUnicode]) isUnicode decoded
  cases isEnd : isLineEnd c with
  | true =>
    exact frontDecodes_lineEnd (by simp [escapeKind, isHex, isUnicode, isEnd]) ⟨isHex, isUnicode⟩ isEnd
      decoded
  | false =>
    cases isOctal : octalDigit? c with
    | some first =>
      refine frontDecodes_octal (by simp [escapeKind, isHex, isUnicode, isEnd, isOctal])
        ⟨isHex, isUnicode⟩ isEnd ?_ isOctal decoded
      rintro rfl
      cases isEnd
    | none =>
      rw [decodeFrom_escape ⟨isHex, isUnicode⟩ isEnd isOctal] at decoded
      exact .of_piece (.one (.character (by simp [escapeKind, isHex, isUnicode, isEnd, isOctal]))) decoded

/-! ## Bodies -/

/-- An escape leaves less of the text. -/
theorem Escape.length_lt (escape : Escape text units rest) : rest.length < text.length := by
  cases escape with
  | octal _ octal => cases octal <;> simp only [List.length_cons] <;> omega
  | codePoint _ _ split =>
    simp only [split, List.length_cons, List.length_append]
    omega
  | _ => simp only [List.length_cons]; omega

/-- The quote ends the literal right after the body. -/
def Closed (quote : Char) (body : List Char) : Prop :=
  splitAtQuote quote (body ++ [quote]) = some (body, [])

section

variable {quote : Char}

/-- A character that is no escape neither ends the literal nor the line. -/
theorem Closed.of_cons (closed : Closed quote (c :: body)) (notEscape : c ≠ '\\') :
    (c ≠ quote ∧ c ≠ '\n' ∧ c ≠ '\r') ∧ Closed quote body := by
  rw [Closed, List.cons_append, splitAtQuote] at closed
  · split at closed
    · simp at closed
    · split at closed
      · cases closed
      · next notQuote noBreak =>
        obtain ⟨⟨body', after⟩, split, same⟩ := Option.bind_eq_some_iff.1 closed
        cases same
        exact ⟨⟨notQuote, not_or.1 noBreak⟩, split⟩
  · rintro rest rfl
    exact absurd rfl notEscape
  · rintro d rest rfl
    exact absurd rfl notEscape

theorem Closed.of_append {front : List Char} (closed : Closed quote (front ++ body))
    (noEscape : '\\' ∉ front) : Closed quote body := by
  induction front with
  | nil => exact closed
  | cons c front ih =>
    rw [List.mem_cons, not_or] at noEscape
    exact ih (closed.of_cons (Ne.symm noEscape.1)).2 noEscape.2

theorem Closed.of_returnFeed (closed : Closed quote ('\\' :: '\r' :: '\n' :: body)) :
    Closed quote body := by
  rw [Closed, List.cons_append, List.cons_append, List.cons_append, splitAtQuote] at closed
  obtain ⟨⟨body', after⟩, split, same⟩ := Option.bind_eq_some_iff.1 closed
  cases same
  exact split

theorem Closed.of_escape (isQuote : quote = '"' ∨ quote = '\'')
    (closed : Closed quote ('\\' :: c :: body)) (noFeed : c = '\r' → body.head? ≠ some '\n') :
    Closed quote body := by
  rw [Closed, List.cons_append, List.cons_append, splitAtQuote] at closed
  · obtain ⟨⟨body', after⟩, split, same⟩ := Option.bind_eq_some_iff.1 closed
    cases same
    exact split
  · rintro rest isReturn split
    cases body with
    | nil =>
      obtain ⟨rfl, -⟩ := List.cons.inj split
      simp at isQuote
    | cons d body =>
      obtain ⟨rfl, -⟩ := List.cons.inj split
      exact noFeed isReturn rfl

/-- The quote that ends a literal is in no escape. -/
theorem Escape.closed (escape : Escape text units rest) (isQuote : quote = '"' ∨ quote = '\'')
    (closed : Closed quote ('\\' :: text)) : Closed quote rest := by
  have noHex {c : Char} {n : Nat} : hexDigit? c = some n → c ≠ '\\' := by
    rintro digit rfl
    exact Option.some_ne_none n digit.symm
  have noOctal {c : Char} {n : Nat} : octalDigit? c = some n → c ≠ '\\' := by
    rintro digit rfl
    exact Option.some_ne_none n digit.symm
  have begun {c : Char} {text : List Char} {kind : EscapeKind} (is : escapeKind c = kind)
      (other : kind ≠ .lineEnd) (closed : Closed quote ('\\' :: c :: text)) : Closed quote text := by
    refine closed.of_escape isQuote ?_
    rintro rfl
    exact absurd is.symm other
  have pair {a b : Char} {code : Nat} {text : List Char} (digits : hexPair? a b = some code)
      (closed : Closed quote (a :: b :: text)) : Closed quote text := by
    obtain ⟨high, low, first, second, -⟩ := exists_of_hexPair? digits
    exact ((closed.of_cons (noHex first)).2.of_cons (noHex second)).2
  cases escape with
  | character kind => exact begun kind (by decide) closed
  | lineEnd _ noFeed => exact closed.of_escape isQuote noFeed
  | returnFeed isReturn isFeed =>
    subst isReturn isFeed
    exact closed.of_returnFeed
  | octal kind digits =>
    have rest := begun kind (by decide) closed
    cases digits with
    | one => exact rest
    | two _ second => exact (rest.of_cons (noOctal second)).2
    | three _ second third => exact ((rest.of_cons (noOctal second)).2.of_cons (noOctal third)).2
  | hex kind digits => exact pair digits (begun kind (by decide) closed)
  | unicode kind digits =>
    obtain ⟨high, low, highPair, lowPair, -⟩ := exists_of_hexQuad? digits
    exact pair lowPair (pair highPair (begun kind (by decide) closed))
  | codePoint kind isBrace split _ number =>
    subst isBrace split
    have rest := ((begun kind (by decide) closed).of_cons (by decide)).2
    have digits := rest.of_append (not_mem_of_hexValueFrom? number rfl)
    exact (digits.of_cons (by decide)).2

/-- What escapes stand for goes before what the rest of the body stands for. -/
theorem Escapes.stringBody {units' : List Nat} (escapes : Escapes text units rest)
    (later : StringBody quote rest units') : StringBody quote ('\\' :: text) (units ++ units') := by
  cases escapes with
  | one escape => exact .escape rfl escape later
  | two escape escape' =>
    rw [List.append_assoc]
    exact .escape rfl escape (.escape rfl escape' later)

theorem Escapes.closed (escapes : Escapes text units rest) (isQuote : quote = '"' ∨ quote = '\'')
    (closed : Closed quote ('\\' :: text)) : Closed quote rest := by
  cases escapes with
  | one escape => exact escape.closed isQuote closed
  | two escape escape' => exact escape'.closed isQuote (escape.closed isQuote closed)

theorem Escapes.length_lt (escapes : Escapes text units rest) : rest.length < text.length := by
  cases escapes with
  | one escape => exact escape.length_lt
  | two escape escape' =>
    have := escape.length_lt
    have := escape'.length_lt
    rw [List.length_cons] at *
    omega

/-- The reader decodes a body to the code units that the grammar gives it. -/
theorem stringBody_of_decodeFrom (isQuote : quote = '"' ∨ quote = '\'') (closed : Closed quote body)
    (decoded : decodeFrom .plain body = some pieces) : StringBody quote body (codeUnits pieces) := by
  induction size : body.length using Nat.strongRecOn generalizing body pieces with
  | ind size ih =>
    subst size
    cases body with
    | nil =>
      rw [decodeFrom] at decoded
      cases decoded
      exact .nil
    | cons c body =>
      by_cases isEscape : c = '\\'
      · subst isEscape
        cases body with
        | nil => simp [Closed, splitAtQuote] at closed
        | cons c body =>
          obtain ⟨first, rest, later, escapes, decodedLater, rfl⟩ := frontDecodes_of_decodeFrom decoded
          have shorter : rest.length < ('\\' :: c :: body).length :=
            Nat.lt_succ_of_lt escapes.length_lt
          have inside := ih _ shorter (escapes.closed isQuote closed) decodedLater rfl
          rw [codeUnits, List.flatMap_append]
          exact escapes.stringBody inside
      · rw [decodeFrom_char isEscape] at decoded
        obtain ⟨later, decodedLater, rfl⟩ := Option.map_eq_some_iff.1 decoded
        obtain ⟨⟨notQuote, noFeed, noReturn⟩, closed'⟩ := closed.of_cons isEscape
        exact .character notQuote isEscape noFeed noReturn
          (ih _ (Nat.lt_succ_self _) closed' decodedLater rfl)

end

/-! ## Literals -/

/-- The reader finds a surrogate without a partner in the literal. -/
def LoneSurrogate (text : List Char) : Prop :=
  ∃ quote body pieces code, text = quote :: (body ++ [quote]) ∧ decodePieces body = some pieces ∧
    Piece.surrogate code ∈ pieces

theorem codeUnits_map_char (text : List Char) : codeUnits (text.map Piece.char) = utf16 text := by
  rw [codeUnits, List.flatMap_map]
  rfl

theorem utf16_append (front back : List Char) : utf16 (front ++ back) = utf16 front ++ utf16 back :=
  List.flatMap_append

/-- No text has fewer code units than characters. -/
theorem length_le_length_utf16 (text : List Char) : text.length ≤ (utf16 text).length := by
  induction text with
  | nil => exact Nat.le_refl 0
  | cons c text ih =>
    have filled : 0 < (utf16Point c.toNat).length := by
      rw [utf16Point]
      split <;> exact Nat.succ_pos _
    have split : utf16 (c :: text) = utf16Point c.toNat ++ utf16 text := List.flatMap_cons
    rw [split, List.length_append, List.length_cons]
    omega

/-- Without a lone surrogate the pieces are the characters of a text. -/
theorem exists_eq_map_char (whole : ∀ code, Piece.surrogate code ∉ pieces) :
    ∃ text : List Char, pieces = text.map Piece.char := by
  induction pieces with
  | nil => exact ⟨[], rfl⟩
  | cons piece later ih =>
    obtain ⟨text, rfl⟩ := ih fun code isPiece => whole code (List.mem_cons_of_mem _ isPiece)
    cases piece with
    | char c => exact ⟨c :: text, rfl⟩
    | surrogate code => exact absurd List.mem_cons_self (whole code)

/-- Without a lone surrogate the text in which a value is held has the code units of the value. -/
theorem utf16_heldText (whole : ∀ code, Piece.surrogate code ∉ pieces) :
    utf16 (heldText pieces) = codeUnits pieces := by
  obtain ⟨text, rfl⟩ := exists_eq_map_char whole
  rw [heldText_map_char, codeUnits_map_char]

/-- A piece is held in no fewer code units than it has, a surrogate in more. -/
theorem length_units_le (piece : Piece) :
    piece.units.length ≤ (utf16 piece.marked).length ∧
      (piece.isSurrogate = true → piece.units.length < (utf16 piece.marked).length) := by
  cases piece with
  | char c =>
    refine ⟨?_, nofun⟩
    rw [Piece.marked]
    split
    · next isMark =>
      subst isMark
      decide
    · exact Nat.le_of_eq (congrArg List.length (List.append_nil _).symm)
  | surrogate code =>
    have more := length_le_length_utf16 (Piece.surrogate code).marked
    have size : (Piece.surrogate code).marked.length = 5 := rfl
    have one : (Piece.surrogate code).units.length = 1 := rfl
    exact ⟨by omega, fun _ => by omega⟩

/-- Each lone surrogate makes the text in which a value is held longer than the value. -/
theorem length_codeUnits_lt {code : Nat} (isLone : Piece.surrogate code ∈ pieces) :
    (codeUnits pieces).length < (utf16 (heldText pieces)).length := by
  have marks : pieces.any Piece.isSurrogate = true := List.any_eq_true.2 ⟨_, isLone, rfl⟩
  have held : (utf16 (heldText pieces)) = pieces.flatMap fun piece => utf16 piece.marked := by
    rw [heldText, if_pos marks, utf16, List.flatMap_assoc]
    rfl
  have atLeast (pieces : List Piece) :
      (codeUnits pieces).length ≤ (pieces.flatMap fun piece => utf16 piece.marked).length := by
    induction pieces with
    | nil => exact Nat.le_refl 0
    | cons piece later ih =>
      have first := (length_units_le piece).1
      simp only [codeUnits, List.flatMap_cons, List.length_append] at ih ⊢
      omega
  obtain ⟨before, after, rfl⟩ := List.append_of_mem isLone
  have first := atLeast before
  have second := (length_units_le (.surrogate code)).2 rfl
  have third := atLeast after
  rw [held]
  simp only [codeUnits, List.flatMap_append, List.flatMap_cons, List.length_append] at *
  omega

/-- A literal stands for the code units of its value, unless a lone surrogate is among them; then its
value is longer. -/
theorem LiteralText.exists_stringUnits {value : String} (isLiteral : LiteralText text value) :
    ∃ units, StringUnits text units ∧ (¬LoneSurrogate text → units = utf16 value.toList) ∧
      (LoneSurrogate text → units.length < (utf16 value.toList).length) := by
  obtain ⟨quote, body, pieces, isQuote, rfl, closed, decoded, rfl⟩ := isLiteral
  rw [String.toList_ofList]
  refine ⟨codeUnits pieces, ⟨quote, body, isQuote, rfl, stringBody_of_decodeFrom isQuote closed decoded⟩,
    ?_, ?_⟩
  · intro whole
    refine (utf16_heldText fun code isPiece => whole ?_).symm
    exact ⟨quote, body, pieces, code, rfl, decoded, isPiece⟩
  · rintro ⟨quote', body', pieces', code, same, decoded', isPiece⟩
    obtain ⟨rfl, same⟩ := List.cons.inj same
    obtain ⟨rfl, -⟩ := List.append_singleton_inj.1 same
    obtain rfl := Option.some.inj (decoded.symm.trans decoded')
    exact length_codeUnits_lt isPiece

/-- What is written as a string literal stands for the code units of the value. -/
theorem stringUnits_quoted (value : String) :
    StringUnits (quoted value).toList (utf16 value.toList) := by
  have inside : StringBody '\'' (value.toList.flatMap quotedChar) (utf16 value.toList) := by
    rw [← codeUnits_map_char]
    exact stringBody_of_decodeFrom (.inr rfl) (splitAtQuote_quoted _ []) (decodePieces_quoted _)
  refine ⟨'\'', _, .inr rfl, ?_, inside⟩
  rw [quoted, String.toList_ofList]
  rfl

end ClassRename.Script
