import ClassRename.Script.Token.Scan

/-!
# What a scanner takes

Every scanner takes the front of a text and leaves the rest of it, and the size that it gives is the
size of what it took. Blanks, words and numbers are taken here.
-/

namespace ClassRename.Script

open ClassRename.Text

/-- The text is some text of the size and then the rest. -/
def Takes (text : List Char) (size : Nat) (rest : List Char) : Prop :=
  ∃ taken, text = taken ++ rest ∧ byteLength taken = size

namespace Takes

variable {text middle rest : List Char} {size more : Nat}

theorem nothing (text : List Char) : Takes text 0 text := ⟨[], rfl, rfl⟩

theorem trans (first : Takes text size middle) (second : Takes middle more rest) :
    Takes text (size + more) rest := by
  obtain ⟨taken, rfl, rfl⟩ := first
  obtain ⟨further, rfl, rfl⟩ := second
  exact ⟨taken ++ further, by rw [List.append_assoc], byteLength_append taken further⟩

theorem cons (c : Char) (later : Takes text size rest) :
    Takes (c :: text) (c.utf8Size + size) rest := by
  obtain ⟨taken, rfl, rfl⟩ := later
  exact ⟨c :: taken, rfl, byteLength_cons c taken⟩

theorem ascii {c : Char} (narrow : c.utf8Size = 1) (later : Takes text size rest) :
    Takes (c :: text) (1 + size) rest := by
  have longer := later.cons c
  rwa [narrow] at longer

theorem takeWhile (p : Char → Bool) (text : List Char) :
    Takes text (byteLength (text.takeWhile p)) (text.drop (text.takeWhile p).length) := by
  refine ⟨text.takeWhile p, ?_, rfl⟩
  induction text with
  | nil => rfl
  | cons c text ih =>
    rw [List.takeWhile_cons]
    split
    · rw [List.length_cons, List.drop_succ_cons, List.cons_append, ← ih]
    · rfl

end Takes

/-- The text is that of the lexeme. Only a string and an opening brace have to be told by their text
later on; any text will do for the others. -/
def Lexeme.IsText : Lexeme → List Char → Prop
  | .string value, text => LiteralText text value
  | .attributeString raw, text => AttributeText text raw
  | .punctuator .braceOpen, text => text = ['\x7b']
  | _, _ => True

/-- Any text will do for a sign that is no opening brace. -/
theorem Lexeme.isText_punctuator {sign : Punctuator} (other : sign ≠ .braceOpen)
    (text : List Char) : (Lexeme.punctuator sign).IsText text := by
  unfold IsText
  split
  · next isString => cases isString
  · next isString => cases isString
  · next isBrace => exact absurd (Lexeme.punctuator.inj isBrace) other
  · trivial

namespace Scanned

/-- What was found stands at the front of the text. -/
def IsFront (text : List Char) (found : Scanned) : Prop :=
  ∃ taken, text = taken ++ found.rest ∧ byteLength taken = found.size ∧ found.lexeme.IsText taken

/-- What was found stands at the front of the text and is neither a string nor an opening brace. -/
structure IsPlainFront (text : List Char) (found : Scanned) : Prop where
  takes : Takes text found.size found.rest
  plain : ∀ taken, found.lexeme.IsText taken

variable {text : List Char} {found : Scanned}

theorem IsPlainFront.isFront (front : IsPlainFront text found) : IsFront text found := by
  obtain ⟨taken, rfl, size⟩ := front.takes
  exact ⟨taken, rfl, size, front.plain taken⟩

theorem IsPlainFront.ascii {c : Char} (narrow : c.utf8Size = 1) (front : IsPlainFront text found) :
    IsPlainFront (c :: text) { found with size := found.size + 1 } where
  takes := by
    rw [Nat.add_comm]
    exact front.takes.ascii narrow
  plain := front.plain

end Scanned

/-- Characters of one byte are as many as their bytes. -/
theorem byteLength_eq_length {text : List Char} (narrow : ∀ c ∈ text, c.utf8Size = 1) :
    byteLength text = text.length := by
  induction text with
  | nil => rfl
  | cons c text ih =>
    have one := narrow c List.mem_cons_self
    have later := ih fun d inText => narrow d (List.mem_cons_of_mem _ inText)
    rw [byteLength_cons, List.length_cons, one, later, Nat.add_comm]

/-! ## Blanks -/

theorem skipBlanks_takes {html : Bool} {skipping : Skipping} {text rest : List Char}
    {size total : Nat} {ended afterLineEnd : Bool}
    (skipped : skipBlanks html skipping text size ended = some (total, rest, afterLineEnd)) :
    ∃ more, total = size + more ∧ Takes text more rest := by
  induction text generalizing skipping size ended with
  | nil =>
    cases skipping <;> cases skipped
    · exact ⟨0, rfl, .nothing []⟩
    · exact ⟨0, rfl, .nothing []⟩
  | cons c text ih =>
    have step {skipping : Skipping} {ended : Bool}
        (skipped : skipBlanks html skipping text (size + c.utf8Size) ended =
          some (total, rest, afterLineEnd)) :
        ∃ more, total = size + more ∧ Takes (c :: text) more rest := by
      obtain ⟨more, rfl, takes⟩ := ih skipped
      exact ⟨c.utf8Size + more, Nat.add_assoc .., takes.cons c⟩
    cases skipping with
    | commentSign next => exact step skipped
    | blockComment =>
      rw [skipBlanks] at skipped
      split at skipped <;> exact step skipped
    | lineComment =>
      rw [skipBlanks] at skipped
      split at skipped <;> exact step skipped
    | blanks =>
      rw [skipBlanks] at skipped
      split at skipped
      · exact step skipped
      split at skipped
      · exact step skipped
      split at skipped
      · exact step skipped
      split at skipped
      · exact step skipped
      · cases skipped
        exact ⟨0, rfl, .nothing _⟩

theorem skipBlanks_takes_all {html : Bool} {text rest : List Char} {size : Nat}
    {ended afterLineEnd : Bool}
    (skipped : skipBlanks html .blanks text 0 ended = some (size, rest, afterLineEnd)) :
    Takes text size rest := by
  obtain ⟨more, rfl, takes⟩ := skipBlanks_takes skipped
  rwa [Nat.zero_add]

/-! ## Characters of one byte -/

theorem utf8Size_eq_one {c : Char} (low : c ≤ '\x7f') : c.utf8Size = 1 := by
  rw [Char.utf8Size, if_pos]
  exact low

theorem utf8Size_of_isDigit {c : Char} (isDigit : c.isDigit = true) : c.utf8Size = 1 := by
  simp only [Char.isDigit, Bool.and_eq_true, decide_eq_true_eq] at isDigit
  refine utf8Size_eq_one (Char.le_trans isDigit.2 (by decide))

theorem utf8Size_of_hexDigit? {c : Char} (isDigit : (hexDigit? c).isSome = true) :
    c.utf8Size = 1 := by
  unfold hexDigit? at isDigit
  split at isDigit
  · next decimal => exact utf8Size_of_isDigit decimal
  split at isDigit
  · next lower => exact utf8Size_eq_one (Char.le_trans lower.2 (by decide))
  split at isDigit
  · next upper => exact utf8Size_eq_one (Char.le_trans upper.2 (by decide))
  · cases isDigit

theorem utf8Size_of_octalDigit? {c : Char} (isDigit : (octalDigit? c).isSome = true) :
    c.utf8Size = 1 := by
  unfold octalDigit? at isDigit
  split at isDigit
  · next octal => exact utf8Size_eq_one (Char.le_trans octal.2 (by decide))
  · cases isDigit

/-! ## Words -/

/-- Four digits are four bytes. -/
theorem takes_of_hexQuad? {a b c d : Char} {code : Nat} (digits : hexQuad? a b c d = some code)
    (after : List Char) : Takes (a :: b :: c :: d :: after) 4 after := by
  simp only [hexQuad?, hexPair?, Option.bind_eq_bind, Option.pure_def, Option.bind_eq_some_iff] at digits
  obtain ⟨_, ⟨_, first, _, second, _⟩, _, ⟨_, third, _, fourth, _⟩, _⟩ := digits
  have narrow {c : Char} {value : Nat} (found : hexDigit? c = some value) : c.utf8Size = 1 :=
    utf8Size_of_hexDigit? (by rw [found]; rfl)
  exact ((((Takes.nothing after).ascii (narrow fourth)).ascii (narrow third)).ascii
    (narrow second)).ascii (narrow first)

theorem unicodeEscape?_takes {text after : List Char} {code size : Nat}
    (escape : unicodeEscape? text = some (code, size, after)) : Takes text size after := by
  unfold unicodeEscape? at escape
  split at escape
  · next rest =>
    have digits := Takes.takeWhile (fun c => (hexDigit? c).isSome) rest
    have narrow : byteLength (rest.takeWhile fun c => (hexDigit? c).isSome) =
        (rest.takeWhile fun c => (hexDigit? c).isSome).length :=
      byteLength_eq_length fun c isDigit =>
        utf8Size_of_hexDigit? (List.all_eq_true.1 List.all_takeWhile c isDigit)
    dsimp only at escape
    split at escape
    · next found =>
      split at escape
      · cases escape
      · cases escape
        rw [narrow, found] at digits
        have closed := digits.trans ((Takes.nothing after).ascii (c := '\x7d') rfl)
        have whole := closed.ascii (c := '\x7b') rfl
        rwa [Nat.add_comm 1, Nat.add_assoc] at whole
    · cases escape
  · obtain ⟨code', digits, same⟩ := Option.map_eq_some_iff.1 escape
    cases same
    exact takes_of_hexQuad? digits after
  · cases escape

theorem escapedWord_takes {budget : Nat} {isFirst : Bool} {text name after : List Char} {size : Nat}
    (word : escapedWord budget isFirst text = some (name, size, after)) : Takes text size after := by
  induction budget generalizing isFirst text name size with
  | zero =>
    cases word
    exact .nothing _
  | succ budget ih =>
    unfold escapedWord at word
    split at word
    · cases word
      exact .nothing _
    · next first _ _ _ budget' rest same =>
      cases same
      obtain ⟨⟨code, width, middle⟩, escape, word⟩ := Option.bind_eq_some_iff.1 word
      dsimp only at word
      generalize (if first = true then isIdentifierStart (Char.ofNat code)
        else isIdentifierPart (Char.ofNat code)) = allowed at word
      cases allowed
      · cases word
      · obtain ⟨⟨name', more, after'⟩, later, word⟩ := Option.bind_eq_some_iff.1 word
        cases word
        have escaped := ((unicodeEscape?_takes escape).trans (ih later))
        have whole := (escaped.ascii (c := 'u') rfl).ascii (c := '\\') rfl
        rwa [← Nat.add_assoc, ← Nat.add_assoc] at whole
    · cases word
    · next budget' c rest _ _ same =>
      cases same
      split at word
      · obtain ⟨⟨name', more, after'⟩, later, word⟩ := Option.bind_eq_some_iff.1 word
        cases word
        exact (ih later).cons c
      · cases word
        exact .nothing _
    · cases word
      exact .nothing []

theorem scanWord_takes {text rest : List Char} {name : String} {escaped : Bool} {size : Nat}
    (word : scanWord text = some (name, escaped, size, rest)) : Takes text size rest := by
  unfold scanWord at word
  dsimp only at word
  split at word
  · obtain ⟨⟨name', size', after⟩, found, word⟩ := Option.bind_eq_some_iff.1 word
    cases word
    exact escapedWord_takes found
  · cases word
    exact .takeWhile _ text

/-! ## Numbers -/

theorem digitRun_takes {isDigit : Char → Bool} (narrow : ∀ c, isDigit c = true → c.utf8Size = 1)
    {afterDigit : Bool} {count total : Nat} {text after : List Char}
    (run : digitRun isDigit afterDigit count text = some (total, after)) :
    ∃ more, total = count + more ∧ Takes text more after := by
  induction text generalizing afterDigit count with
  | nil =>
    cases run
    exact ⟨0, rfl, .nothing _⟩
  | cons c rest ih =>
    rw [digitRun] at run
    split at run
    · next digit =>
      obtain ⟨more, rfl, takes⟩ := ih run
      exact ⟨1 + more, Nat.add_assoc .., takes.ascii (narrow c digit)⟩
    split at run
    · next separator =>
      subst separator
      split at run
      · obtain ⟨more, rfl, takes⟩ := ih run
        exact ⟨1 + more, Nat.add_assoc .., takes.ascii rfl⟩
      · cases run
    · cases run
      exact ⟨0, rfl, .nothing _⟩

theorem digitRun_takes_all {isDigit : Char → Bool}
    (narrow : ∀ c, isDigit c = true → c.utf8Size = 1) {afterDigit : Bool} {total : Nat}
    {text after : List Char} (run : digitRun isDigit afterDigit 0 text = some (total, after)) :
    Takes text total after := by
  obtain ⟨more, rfl, takes⟩ := digitRun_takes narrow run
  rwa [Nat.zero_add]

theorem decimalRun_takes {afterDigit : Bool} {total : Nat} {text after : List Char}
    (run : digitRun Char.isDigit afterDigit 0 text = some (total, after)) :
    Takes text total after :=
  digitRun_takes_all (fun _ => utf8Size_of_isDigit) run

theorem exponentSign_takes (text : List Char) :
    Takes text (exponentSign text).1 (exponentSign text).2 := by
  unfold exponentSign
  split
  · exact (Takes.nothing _).ascii rfl
  · exact (Takes.nothing _).ascii rfl
  · exact .nothing _

theorem exponentPart_takes {text after : List Char} {size : Nat}
    (exponent : exponentPart text = some (size, after)) : Takes text size after := by
  unfold exponentPart at exponent
  split at exponent
  · next c rest =>
    split at exponent
    · next isMark =>
      have narrow : c.utf8Size = 1 := by rcases isMark with rfl | rfl <;> rfl
      obtain ⟨⟨count, after'⟩, run, exponent⟩ := Option.bind_eq_some_iff.1 exponent
      dsimp only at exponent
      split at exponent
      · cases exponent
      · cases exponent
        rw [Nat.add_assoc]
        exact ((exponentSign_takes rest).trans (decimalRun_takes run)).ascii narrow
    · cases exponent
      exact .nothing _
  · cases exponent
    exact .nothing _

theorem fractionPart_takes {text after : List Char} {size : Nat}
    (fraction : fractionPart text = some (size, after)) : Takes text size after := by
  unfold fractionPart at fraction
  split at fraction
  · obtain ⟨⟨count, middle⟩, run, fraction⟩ := Option.bind_eq_some_iff.1 fraction
    obtain ⟨⟨size', after'⟩, exponent, fraction⟩ := Option.bind_eq_some_iff.1 fraction
    cases fraction
    have digits := (decimalRun_takes run).trans (exponentPart_takes exponent)
    rw [Nat.add_assoc]
    exact digits.ascii rfl
  · exact exponentPart_takes fraction

theorem basedNumber_isPlainFront {isDigit : Char → Bool}
    (narrow : ∀ c, isDigit c = true → c.utf8Size = 1) {mark : Char} {text : List Char}
    {found : Scanned} (short : mark.utf8Size = 1) (number : basedNumber isDigit text = some found) :
    found.IsPlainFront ('0' :: mark :: text) := by
  obtain ⟨⟨count, after⟩, run, number⟩ := Option.bind_eq_some_iff.1 number
  have digits := digitRun_takes_all narrow run
  dsimp only at number
  split at number
  · cases number
  split at number
  · cases number
    have marked := digits.trans ((Takes.nothing _).ascii (c := 'n') rfl)
    have whole := (marked.ascii short).ascii (c := '0') rfl
    rw [← Nat.add_assoc, ← Nat.add_assoc, Nat.add_right_comm] at whole
    exact ⟨whole, fun _ => trivial⟩
  · cases number
    have whole := (digits.ascii short).ascii (c := '0') rfl
    rw [← Nat.add_assoc] at whole
    exact ⟨whole, fun _ => trivial⟩

theorem decimalNumber_isPlainFront {text middle : List Char} {count : Nat} {found : Scanned}
    (digits : Takes text count middle) (number : decimalNumber count middle = some found) :
    found.IsPlainFront text := by
  unfold decimalNumber at number
  split at number
  · cases number
    exact ⟨digits.trans ((Takes.nothing _).ascii rfl), fun _ => trivial⟩
  · obtain ⟨⟨size, after⟩, fraction, number⟩ := Option.bind_eq_some_iff.1 number
    cases number
    exact ⟨digits.trans (fractionPart_takes fraction), fun _ => trivial⟩

theorem zeroNumber_isPlainFront {text : List Char} {found : Scanned}
    (number : zeroNumber text = some found) : found.IsPlainFront ('0' :: text) := by
  have digits := Takes.takeWhile Char.isDigit text
  have narrow : byteLength (text.takeWhile Char.isDigit) = (text.takeWhile Char.isDigit).length :=
    byteLength_eq_length fun c isDigit =>
      utf8Size_of_isDigit (List.all_eq_true.1 List.all_takeWhile c isDigit)
  rw [narrow] at digits
  obtain ⟨⟨size, after⟩, fraction, number⟩ := Option.bind_eq_some_iff.1 number
  cases number
  refine ⟨Takes.ascii rfl (digits.trans ?_), fun _ => trivial⟩
  unfold zeroFraction at fraction
  split at fraction
  · exact fractionPart_takes fraction
  · cases fraction
    exact .nothing _

theorem numberFront_isPlainFront {text : List Char} {found : Scanned}
    (number : numberFront text = some found) : found.IsPlainFront text := by
  unfold numberFront at number
  split at number
  · next c rest =>
    split at number
    · next isMark =>
      refine basedNumber_isPlainFront ?_ (by rcases isMark with rfl | rfl <;> rfl) number
      intro d isDigit
      simp only [Bool.or_eq_true, decide_eq_true_eq] at isDigit
      rcases isDigit with rfl | rfl <;> rfl
    split at number
    · next isMark =>
      exact basedNumber_isPlainFront (fun _ => utf8Size_of_octalDigit?)
        (by rcases isMark with rfl | rfl <;> rfl) number
    split at number
    · next isMark =>
      exact basedNumber_isPlainFront (fun _ => utf8Size_of_hexDigit?)
        (by rcases isMark with rfl | rfl <;> rfl) number
    split at number
    · exact zeroNumber_isPlainFront number
    · exact decimalNumber_isPlainFront ((Takes.nothing _).ascii rfl) number
  · obtain ⟨⟨size, after⟩, fraction, number⟩ := Option.bind_eq_some_iff.1 number
    cases number
    exact ⟨fractionPart_takes fraction, fun _ => trivial⟩
  · obtain ⟨⟨count, after⟩, run, number⟩ := Option.bind_eq_some_iff.1 number
    exact decimalNumber_isPlainFront (decimalRun_takes run) number

theorem scanNumber_isPlainFront {text : List Char} {found : Scanned}
    (number : scanNumber text = some found) : found.IsPlainFront text := by
  obtain ⟨found', front, number⟩ := Option.bind_eq_some_iff.1 number
  split at number
  · cases number
  · cases number
    exact numberFront_isPlainFront front

end ClassRename.Script
