import ClassRename.Json.Value
import ClassRename.Json.Writer
import Mathlib.Data.List.Basic

/-! # What is written is read back

A reader is told by what it gives from a text and what it leaves of it, so a reader's lemma follows its
program. Strings are read back character by character, and objects of strings member by member, so an
object that was written is read back whole.
-/

namespace ClassRename.Json

open Script (hexQuad?)

/-- The cursor stands before the text and knows its size. -/
structure Cursor.Before (cursor : Cursor) (text : List Char) : Prop where
  rest : cursor.rest = text
  left : cursor.left = byteLength text

theorem Cursor.before_start (text : List Char) : (Cursor.start text).Before text := ⟨rfl, rfl⟩

/-- A cursor moves on by one character. -/
theorem Cursor.Before.step {cursor : Cursor} {c : Char} {rest : List Char}
    (before : cursor.Before (c :: rest)) : (cursor.step c rest).Before rest := by
  refine ⟨rfl, ?_⟩
  simp only [Cursor.step, before.left, byteLength_cons]
  omega

/-- Before the text the reader gives the value and stops before the rest. -/
def Yields {α : Type} (reader : Reader α) (text : List Char) (value : α) (rest : List Char) : Prop :=
  ∀ cursor : Cursor, cursor.Before text →
    ∃ after, reader cursor = .ok (value, after) ∧ after.Before rest

namespace Yields

open Reader

variable {α β : Type} {reader : Reader α} {next : α → Reader β} {text between rest : List Char}
  {value : α} {result : β} {c : Char}

theorem pure (value : α) (text : List Char) : Yields (Pure.pure value) text value text :=
  fun cursor before => ⟨cursor, rfl, before⟩

theorem bind (first : Yields reader text value between)
    (second : Yields (next value) between result rest) : Yields (reader >>= next) text result rest := by
  intro cursor before
  obtain ⟨middle, read, before'⟩ := first cursor before
  obtain ⟨after, read', before''⟩ := second middle before'
  refine ⟨after, ?_, before''⟩
  change (reader cursor >>= fun p => next p.1 p.2) = _
  rw [read]
  exact read'

/-- A reader may look at its cursor. -/
theorem get {next : Cursor → Reader β}
    (reads : ∀ cursor : Cursor, cursor.Before text → Yields (next cursor) text result rest) :
    Yields (MonadState.get >>= next) text result rest :=
  fun cursor before => reads cursor before cursor before

theorem skip (c : Char) (rest : List Char) : Yields Reader.skip (c :: rest) () rest := by
  intro cursor before
  refine ⟨cursor.step c rest, ?_, before.step⟩
  have taken : take cursor = .ok (some c, cursor.step c rest) := by
    unfold take
    rw [before.rest]
  change (take cursor >>= fun p => Except.ok ((), p.2)) = _
  rw [taken]
  rfl

theorem peek (c : Char) (rest : List Char) : Yields Reader.peek (c :: rest) (some c) (c :: rest) := by
  refine get fun cursor before => ?_
  rw [before.rest]
  exact pure _ _

/-- Blanks are passed over before a character that is none. -/
theorem peekAfterSpaces (spaces : List Char) (blank : spaces.all isSpace = true)
    (next? : ∀ c, text.head? = some c → isSpace c = false) :
    Yields Reader.peekAfterSpaces (spaces ++ text) text.head? text := by
  intro cursor before
  have passed : (afterSpaces cursor.rest cursor).Before text := by
    rw [before.rest]
    induction spaces generalizing cursor with
    | nil =>
      cases text with
      | nil => exact before
      | cons c text =>
        rw [List.nil_append, afterSpaces, if_neg (by simp [next? c rfl])]
        exact before
    | cons space spaces ih =>
      obtain ⟨first, later⟩ := Bool.and_eq_true_iff.1 (List.all_cons ▸ blank)
      rw [List.cons_append, afterSpaces, if_pos first]
      exact ih later _ before.step
  refine ⟨_, ?_, passed⟩
  simp only [Reader.peekAfterSpaces, passed.rest]

/-! ## Strings -/

/-- Four digits are read as the number that they write. -/
theorem hexQuad {a b c d : Char} {code : Nat} (one : [a, b, c, d].all (·.utf8Size = 1) = true)
    (digits : hexQuad? a b c d = some code) :
    Yields Reader.hexQuad (a :: b :: c :: d :: rest) code rest := by
  simp only [List.all_cons, List.all_nil, Bool.and_true, Bool.and_eq_true, decide_eq_true_eq] at one
  obtain ⟨oneA, oneB, oneC, oneD⟩ := one
  intro cursor before
  have place : ∃ place, Cursor.placeAfterBytes? 4 cursor.place (a :: b :: c :: d :: rest) =
      some place := by
    simp [Cursor.placeAfterBytes?, oneA, oneB, oneC, oneD]
  obtain ⟨place, after⟩ := place
  refine ⟨{ rest, left := cursor.left - 4, place }, ?_, rfl, ?_⟩
  · simp only [Reader.hexQuad, before.rest, after, digits]
  · simp only [before.left, byteLength_cons, oneA, oneB, oneC, oneD]
    omega

/-- An escape that is one letter. -/
theorem escape_letter {letter : Char}
    (means : letter = '"' ∧ c = '"' ∨ letter = '\\' ∧ c = '\\' ∨ letter = 'b' ∧ c = '\x08' ∨
      letter = 'f' ∧ c = '\x0c' ∨ letter = 'n' ∧ c = '\n' ∨ letter = 'r' ∧ c = '\r' ∨
      letter = 't' ∧ c = '\t') : Yields Reader.escape (letter :: rest) c rest := by
  refine bind (peek letter rest) ?_
  rcases means with ⟨rfl, rfl⟩ | ⟨rfl, rfl⟩ | ⟨rfl, rfl⟩ | ⟨rfl, rfl⟩ | ⟨rfl, rfl⟩ | ⟨rfl, rfl⟩ |
    ⟨rfl, rfl⟩
  all_goals exact bind (skip _ _) (pure _ _)

/-- A control is read from its number. -/
theorem escape_control (control : c.toNat < 0x20) :
    Yields Reader.escape
      ('u' :: '0' :: '0' :: lowerHex (c.toNat / 16) :: lowerHex (c.toNat % 16) :: rest) c rest := by
  have digits : ∀ n < 0x20,
      hexQuad? '0' '0' (lowerHex (n / 16)) (lowerHex (n % 16)) = some n := by decide
  have one : ∀ n < 0x20,
      ['0', '0', lowerHex (n / 16), lowerHex (n % 16)].all (·.utf8Size = 1) = true := by decide
  refine bind (peek 'u' _) (bind (skip 'u' _) ?_)
  refine bind (hexQuad (one _ control) (digits _ control)) ?_
  rw [if_neg (by omega), if_neg (by omega), Char.ofNat_toNat]
  exact pure _ _

variable {budget : Nat} {found : List Char} {body : List Char}

theorem stringBody_escape (escaped : Yields Reader.escape text c between)
    (reads : Yields (stringBody budget (c :: found)) between body rest) :
    Yields (stringBody (budget + 1) found) ('\\' :: text) body rest :=
  bind (peek '\\' text) (bind (skip '\\' text) (bind escaped reads))

theorem stringBody_plain (notQuote : c ≠ '"') (notBackslash : c ≠ '\\') (notControl : ¬c.toNat < 0x20)
    (reads : Yields (stringBody budget (c :: found)) text body rest) :
    Yields (stringBody (budget + 1) found) (c :: text) body rest := by
  refine bind (peek c text) ?_
  simp only [notQuote, notBackslash, notControl, if_false]
  exact bind (skip c text) reads

/-- A character is read back as it was written. -/
theorem stringBody_writtenChar (reads : Yields (stringBody budget (c :: found)) text body rest) :
    Yields (stringBody (budget + 1) found) (writtenChar c ++ text) body rest := by
  unfold writtenChar
  split_ifs with quote backslash back form feed return_ tab control
  · exact stringBody_escape (escape_letter (by simp [quote])) reads
  · exact stringBody_escape (escape_letter (by simp [backslash])) reads
  · exact stringBody_escape (escape_letter (by simp [back])) reads
  · exact stringBody_escape (escape_letter (by simp [form])) reads
  · exact stringBody_escape (escape_letter (by simp [feed])) reads
  · exact stringBody_escape (escape_letter (by simp [return_])) reads
  · exact stringBody_escape (escape_letter (by simp [tab])) reads
  · exact stringBody_escape (escape_control control) reads
  · exact stringBody_plain quote backslash control reads

/-- Characters are read back up to the closing quote. -/
theorem stringBody_written (found chars : List Char) (enough : chars.length < budget) :
    Yields (stringBody budget found) (chars.flatMap writtenChar ++ '"' :: rest)
      (found.reverse ++ chars) rest := by
  induction chars generalizing budget found with
  | nil =>
    obtain ⟨budget, rfl⟩ := Nat.exists_eq_add_of_lt enough
    rw [List.append_nil]
    exact bind (peek '"' rest) (bind (skip '"' rest) (pure _ _))
  | cons c chars ih =>
    cases budget with
    | zero => exact absurd enough (Nat.not_lt_zero _)
    | succ budget =>
      rw [List.flatMap_cons, List.append_assoc]
      refine stringBody_writtenChar ?_
      have later := ih (c :: found) (Nat.lt_of_succ_lt_succ enough)
      rwa [List.reverse_cons, List.append_assoc] at later

/-- Texts that are not empty take a byte at least each. -/
theorem length_le_byteLength_flatMap {written : α → List Char}
    (nonempty : ∀ entry, written entry ≠ []) (entries : List α) :
    entries.length ≤ byteLength (entries.flatMap written) := by
  induction entries with
  | nil => exact Nat.zero_le _
  | cons entry later ih =>
    have first : 0 < byteLength (written entry) :=
      Nat.pos_of_ne_zero fun none => nonempty entry (byteLength_eq_zero_iff.1 none)
    rw [List.flatMap_cons, byteLength_append, List.length_cons]
    omega

theorem writtenChar_ne_nil (c : Char) : writtenChar c ≠ [] := by
  unfold writtenChar
  split_ifs <;> exact List.cons_ne_nil _ _

/-- A string is read back after its opening quote. -/
theorem string_written (value : String) :
    Yields Reader.string (value.toList.flatMap writtenChar ++ '"' :: rest) value rest := by
  refine get fun cursor before => ?_
  have enough : value.toList.length < cursor.left + 1 := by
    have size := length_le_byteLength_flatMap writtenChar_ne_nil value.toList
    rw [before.left, byteLength_append]
    omega
  refine bind (stringBody_written [] value.toList enough) ?_
  have whole : String.ofList ([].reverse ++ value.toList) = value := String.ofList_toList
  rw [whole]
  exact pure _ _

/-- A string is written from its opening to its closing quote. -/
theorem writtenString_append (value : String) (text : List Char) :
    writtenString value ++ text = '"' :: (value.toList.flatMap writtenChar ++ '"' :: text) := by
  simp [writtenString]

/-- A string is read back where a string alone is expected. -/
theorem stringOnly_written (value : String) :
    Yields stringOnly (' ' :: writtenString value ++ rest) value rest := by
  rw [List.cons_append, writtenString_append]
  refine bind (peekAfterSpaces [' '] rfl (by simp [isSpace])) ?_
  exact bind (skip '"' _) (string_written value)

/-! ## Objects -/

variable {α : Type} {item : Reader α} {value : α} {entry : String × α}
  {entries found : List (String × α)} {inside : List Char}

/-- A member is read back from the opening quote of its key on, if its value is. -/
theorem member_written (key : String) (reads : Yields item text value rest) :
    Yields (member item) (writtenString key ++ ':' :: text) (key, value) rest := by
  rw [writtenString_append]
  refine bind (skip '"' _) (bind (string_written key) ?_)
  refine bind (peekAfterSpaces [] rfl (by simp [isSpace])) ?_
  exact bind (skip ':' _) (bind reads (pure _ _))

/-- Members are read back from blanks and the opening quote of a key on, if the reader goes on with
the rest. -/
theorem members_cons (isFirst : Bool) (spaces : List Char) (blank : spaces.all isSpace = true)
    (reads : Yields (member item) ('"' :: inside) entry between)
    (onward : Yields (members item budget false (entry :: found)) between entries rest) :
    Yields (members item (budget + 1) isFirst found)
      ((if isFirst then [] else [',']) ++ (spaces ++ '"' :: inside)) entries rest := by
  cases isFirst with
  | true => exact bind (peekAfterSpaces spaces blank (by simp [isSpace])) (bind reads onward)
  | false =>
    refine bind (peekAfterSpaces [] rfl (by simp [isSpace])) ?_
    refine bind (skip ',' _) ?_
    exact bind (peekAfterSpaces spaces blank (by simp [isSpace])) (bind reads onward)

/-- Members end before the closing brace. -/
theorem members_nil (isFirst : Bool) (spaces : List Char) (blank : spaces.all isSpace = true) :
    Yields (members item (budget + 1) isFirst found) (spaces ++ '\x7d' :: rest) found.reverse
      ('\x7d' :: rest) :=
  bind (peekAfterSpaces spaces blank (by simp [isSpace])) (pure _ _)

/-- An object is read back between its braces. -/
theorem object_members (inside : ∀ budget, byteLength text < budget →
      Yields (members item budget true []) text entries ('\x7d' :: rest)) :
    Yields (object item) ('\x7b' :: text) entries rest := by
  refine bind (skip '\x7b' text) (get fun cursor before => ?_)
  refine bind (inside _ ?_) (bind (skip '\x7d' rest) (pure _ _))
  rw [before.left]
  exact Nat.lt_succ_self _

/-! ## Values -/

/-- A value that begins with a quote is a string. -/
theorem value_written_string {depth : Nat} (text : String) :
    Yields (Reader.value (depth + 1)) (writtenString text ++ rest) (.string text) rest := by
  rw [writtenString_append]
  refine bind (peekAfterSpaces [] rfl (by simp [isSpace])) ?_
  exact bind (skip '"' _) (bind (string_written text) (pure _ _))

/-- A value that begins with a brace is an object, unless it lies too deep. -/
theorem value_object {depth : Nat} {entries : List (String × Value)}
    (reads : Yields (object (Reader.value (depth + 1))) ('\x7b' :: text) entries rest) :
    Yields (Reader.value (depth + 2)) ('\x7b' :: text) (.object entries) rest :=
  bind (peekAfterSpaces [] rfl (by simp [isSpace])) (bind reads (pure _ _))

/-! ## Objects of strings -/

/-- What is written between a member and the closing brace. -/
def writtenAfter (later : List (String × String)) : List Char :=
  if later.isEmpty then [] else ',' :: writtenLines later

theorem writtenLines_cons (key value : String) (later : List (String × String)) :
    writtenLines ((key, value) :: later) =
      ['\n', ' ', ' '] ++ (writtenString key ++ ([':', ' '] ++ writtenString value)) ++
        writtenAfter later := by
  rw [writtenLines, writtenAfter]
  split <;> simp_all [writtenLines]

/-- Members are read back from the first one's line on, if the reader goes on with the rest. -/
theorem members_line {key value : String} {later found members : List (String × String)}
    (isFirst : Bool)
    (reads : Yields (Reader.members stringOnly budget false ((key, value) :: found))
      (writtenAfter later ++ text) members rest) :
    Yields (Reader.members stringOnly (budget + 1) isFirst found)
      ((if isFirst then [] else [',']) ++ (writtenLines ((key, value) :: later) ++ text))
      members rest := by
  have line : writtenLines ((key, value) :: later) ++ text = ['\n', ' ', ' '] ++
      (writtenString key ++ ':' :: (' ' :: writtenString value ++ (writtenAfter later ++ text))) := by
    rw [writtenLines_cons]
    simp
  have member : Yields (member stringOnly)
      (writtenString key ++ ':' :: (' ' :: writtenString value ++ (writtenAfter later ++ text)))
      (key, value) (writtenAfter later ++ text) :=
    member_written key (stringOnly_written value)
  rw [writtenString_append] at member line
  rw [line]
  exact members_cons isFirst ['\n', ' ', ' '] rfl member reads

/-- The members after one that was read are read back up to the closing brace. -/
theorem members_writtenAfter (later found : List (String × String))
    (enough : later.length < budget) :
    Yields (Reader.members stringOnly budget false found)
      (writtenAfter later ++ '\n' :: '\x7d' :: rest) (found.reverse ++ later) ('\x7d' :: rest) := by
  induction later generalizing budget found with
  | nil =>
    obtain ⟨budget, rfl⟩ := Nat.exists_eq_add_of_lt enough
    rw [List.append_nil]
    exact members_nil false ['\n'] rfl
  | cons entry later ih =>
    cases budget with
    | zero => exact absurd enough (Nat.not_lt_zero _)
    | succ budget =>
      have onward := ih (entry :: found) (Nat.lt_of_succ_lt_succ enough)
      rw [List.reverse_cons, List.append_assoc] at onward
      exact members_line false onward

/-- Writing takes a byte at least for each member. -/
theorem length_le_byteLength_writtenLines (members : List (String × String)) :
    members.length ≤ byteLength (writtenLines members) := by
  induction members with
  | nil => exact Nat.zero_le _
  | cons entry later ih =>
    have after : byteLength (writtenLines later) ≤ byteLength (writtenAfter later) := by
      unfold writtenAfter
      split
      · next none =>
        rw [List.isEmpty_iff.1 none]
        exact Nat.le_refl _
      · rw [byteLength_cons]
        exact Nat.le_add_left ..
    rw [writtenLines_cons, byteLength_append, List.cons_append, byteLength_cons, List.length_cons]
    have line := Char.utf8Size_pos '\n'
    omega

/-- An object of strings is read back. -/
theorem stringMembers_written (members : List (String × String)) :
    Yields stringMembers ((writtenObject members).toList ++ rest) members rest := by
  cases members with
  | nil =>
    have braces : (writtenObject []).toList ++ rest = '\x7b' :: '\x7d' :: rest := rfl
    rw [braces]
    refine bind (peekAfterSpaces [] rfl (by simp [isSpace])) (object_members fun budget enough => ?_)
    obtain ⟨budget, rfl⟩ := Nat.exists_eq_add_of_lt enough
    exact members_nil true [] rfl
  | cons entry later =>
    have braces : (writtenObject (entry :: later)).toList ++ rest =
        '\x7b' :: (writtenLines (entry :: later) ++ '\n' :: '\x7d' :: rest) := by
      simp [writtenObject]
    rw [braces]
    refine bind (peekAfterSpaces [] rfl (by simp [isSpace])) (object_members fun budget enough => ?_)
    have size := length_le_byteLength_writtenLines (entry :: later)
    rw [byteLength_append, List.length_cons] at *
    obtain ⟨budget, rfl⟩ := Nat.exists_eq_add_of_lt enough
    exact members_line true (members_writtenAfter later [entry] (by omega))

end Yields

/-! ## Refusals -/

/-- Before the text the reader fails with the fault. -/
def Refuses {α : Type} (reader : Reader α) (text : List Char) (fault : Fault) : Prop :=
  ∀ cursor : Cursor, cursor.Before text → ∃ place, reader cursor = .error ⟨fault, place⟩

namespace Refuses

open Reader

variable {α β : Type} {reader : Reader α} {next : α → Reader β} {text between rest : List Char}
  {value : α} {fault : Fault}

theorem failNext (fault : Fault) (text : List Char) :
    Refuses (failNext fault : Reader α) text fault :=
  fun _ _ => ⟨_, rfl⟩

theorem bind (refused : Refuses reader text fault) : Refuses (reader >>= next) text fault := by
  intro cursor before
  obtain ⟨place, failed⟩ := refused cursor before
  refine ⟨place, ?_⟩
  change (reader cursor >>= fun p => next p.1 p.2) = _
  rw [failed]
  rfl

/-- A reader fails later on. -/
theorem after (first : Yields reader text value between)
    (refused : Refuses (next value) between fault) : Refuses (reader >>= next) text fault := by
  intro cursor before
  obtain ⟨middle, read, before'⟩ := first cursor before
  obtain ⟨place, failed⟩ := refused middle before'
  refine ⟨place, ?_⟩
  change (reader cursor >>= fun p => next p.1 p.2) = _
  rw [read]
  exact failed

theorem get {next : Cursor → Reader β}
    (refused : ∀ cursor : Cursor, cursor.Before text → Refuses (next cursor) text fault) :
    Refuses (MonadState.get >>= next) text fault :=
  fun cursor before => refused cursor before cursor before

variable {item : Reader α} {budget : Nat} {found : List (String × α)} {inside : List Char}

/-- A member is refused if its value is. -/
theorem member_written (key : String) (refused : Refuses item text fault) :
    Refuses (member item) (writtenString key ++ ':' :: text) fault := by
  rw [Yields.writtenString_append]
  refine after (Yields.skip '"' _) (after (Yields.string_written key) ?_)
  refine after (Yields.peekAfterSpaces [] rfl (by simp [isSpace])) ?_
  exact after (Yields.skip ':' _) (bind refused)

/-- Members are refused if the first of them is, or what comes after it. -/
theorem members_cons (isFirst : Bool) (spaces : List Char) (blank : spaces.all isSpace = true)
    (refused : Refuses (do members item budget false ((← member item) :: found)) ('"' :: inside) fault) :
    Refuses (members item (budget + 1) isFirst found)
      ((if isFirst then [] else [',']) ++ (spaces ++ '"' :: inside)) fault := by
  cases isFirst with
  | true => exact after (Yields.peekAfterSpaces spaces blank (by simp [isSpace])) refused
  | false =>
    refine after (Yields.peekAfterSpaces [] rfl (by simp [isSpace])) ?_
    refine after (Yields.skip ',' _) ?_
    exact after (Yields.peekAfterSpaces spaces blank (by simp [isSpace])) refused

/-- An object is refused if its members are. -/
theorem value_object {depth : Nat} (inside : ∀ budget, byteLength text < budget →
      Refuses (members (Reader.value (depth + 1)) budget true []) text fault) :
    Refuses (Reader.value (depth + 2)) ('\x7b' :: text) fault := by
  refine after (Yields.peekAfterSpaces [] rfl (by simp [isSpace])) (bind ?_)
  refine after (Yields.skip '\x7b' text) (get fun cursor before => bind (inside _ ?_))
  rw [before.left]
  exact Nat.lt_succ_self _

end Refuses

/-! ## Whole texts -/

/-- A text that a reader reads to its end gives what the reader gives. -/
theorem readAll_eq_ok {α : Type} {reader : Reader α} {text : String} {value : α}
    (reads : Yields reader text.toList value []) : readAll reader text = .ok value := by
  have whole : Yields (do let value ← reader; Reader.finished; return value) text.toList value [] := by
    have ended : Yields Reader.finished [] () [] :=
      Yields.bind (Yields.peekAfterSpaces [] rfl nofun) (Yields.pure _ _)
    exact Yields.bind reads (Yields.bind ended (Yields.pure _ _))
  obtain ⟨after, read, -⟩ := whole _ (Cursor.before_start _)
  unfold readAll StateT.run'
  rw [read]
  rfl

/-- A text that a reader refuses is not read. -/
theorem exists_readAll_eq_error {α : Type} {reader : Reader α} {text : String} {fault : Fault}
    (refused : Refuses reader text.toList fault) :
    ∃ place, readAll reader text = .error ⟨fault, place⟩ := by
  have whole : Refuses (do let value ← reader; Reader.finished; return value) text.toList fault :=
    refused.bind
  obtain ⟨place, failed⟩ := whole _ (Cursor.before_start _)
  refine ⟨place, ?_⟩
  unfold readAll StateT.run'
  rw [failed]
  rfl

/-- An object of strings that was written is read back, member by member. -/
theorem readAll_writtenObject (members : List (String × String)) :
    readAll Reader.stringMembers (writtenObject members) = .ok members := by
  refine readAll_eq_ok ?_
  rw [← List.append_nil (writtenObject members).toList]
  exact Yields.stringMembers_written members

end ClassRename.Json
