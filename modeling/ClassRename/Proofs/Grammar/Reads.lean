import ClassRename.Script.Grammar.Reader
import ClassRename.Proofs.Script.Marks

/-! # What a parser reads

A parser moves over the text from one place to another, and the marks of the tree that it gives stand
between the two, in the order of the text. `Reads` says so of a parser that goes on from marks which
were read before it, so the rule for one step after another is the rule of a chain: what the first
gives is what the second carries.
-/

namespace ClassRename.Script

/-- The marks stand in the text between two places, one after the other. -/
structure Between (text : List Char) (start stop : Nat) (marks : List Mark) : Prop where
  forward : start ≤ stop
  stands : ∀ mark ∈ marks, mark.Stands text
  inside : ∀ mark ∈ marks, start ≤ mark.span.start ∧ mark.span.stop ≤ stop
  ordered : marks.Pairwise fun a b => a.span.stop ≤ b.span.start

namespace Between

variable {text : List Char} {start middle stop : Nat} {marks later : List Mark}

theorem nil (forward : start ≤ stop) : Between text start stop [] :=
  ⟨forward, nofun, nofun, .nil⟩

/-- What stands up to a place and what stands from there on stand in order. -/
theorem append (early : Between text start middle marks) (late : Between text middle stop later) :
    Between text start stop (marks ++ later) where
  forward := Nat.le_trans early.forward late.forward
  stands mark isMark := (List.mem_append.1 isMark).elim (early.stands mark) (late.stands mark)
  inside mark isMark := by
    rcases List.mem_append.1 isMark with isEarly | isLate
    · have inside := early.inside mark isEarly
      exact ⟨inside.1, Nat.le_trans inside.2 late.forward⟩
    · have inside := late.inside mark isLate
      exact ⟨Nat.le_trans early.forward inside.1, inside.2⟩
  ordered := by
    refine List.pairwise_append.2 ⟨early.ordered, late.ordered, fun a isEarly b isLate => ?_⟩
    exact Nat.le_trans (early.inside a isEarly).2 (late.inside b isLate).1

/-- Some of the marks stand where all of them do. -/
theorem sublist (between : Between text start stop marks) (some : later.Sublist marks) :
    Between text start stop later where
  forward := between.forward
  stands mark isMark := between.stands mark (some.subset isMark)
  inside mark isMark := between.inside mark (some.subset isMark)
  ordered := between.ordered.sublist some

/-- Marks that stand up to a place stand up to a later one. -/
theorem widen (between : Between text start middle marks) (later : middle ≤ stop) :
    Between text start stop marks := by
  simpa using between.append (.nil later)

end Between

/-- What the token in view says of its text, where it stands. -/
theorem State.holds_token (state : State) :
    ∃ taken, Holds state.text state.token.span taken ∧ state.token.lexeme.IsText taken := by
  obtain ⟨before, text, size⟩ := state.begins
  obtain ⟨taken, front, stop, isText⟩ := state.stands
  refine ⟨taken, ⟨before, state.rest, ?_, ?_⟩, isText⟩
  · rw [text, front]
  · rw [byteLength_append, size, ← stop]

/-- What a token tells of the text. -/
def Token.mark? (token : Token) : Option Mark :=
  match token.lexeme with
  | .string value => some (.string ⟨token.span, value⟩)
  | .attributeString raw => some (.attributeString ⟨token.span, raw⟩)
  | .punctuator .braceOpen => some (.object token.span.start)
  | _ => none

/-- What the token in view tells of the text is so. -/
theorem State.stands_of_mark? {state : State} {mark : Mark} (marked : state.token.mark? = some mark) :
    mark.Stands state.text ∧ mark.span.start = state.token.span.start ∧
      mark.span.stop ≤ state.token.span.stop := by
  obtain ⟨taken, holds, isText⟩ := state.holds_token
  unfold Token.mark? at marked
  split at marked
  · next isString =>
    cases marked
    rw [isString] at isText
    exact ⟨⟨taken, holds, isText⟩, rfl, Nat.le_refl _⟩
  · next isString =>
    cases marked
    rw [isString] at isText
    exact ⟨⟨taken, holds, isText⟩, rfl, Nat.le_refl _⟩
  · next isBrace =>
    cases marked
    rw [isBrace] at isText
    obtain rfl : taken = ['\x7b'] := isText
    have stop : state.token.span.stop = state.token.span.start + 1 := holds.stop_eq
    refine ⟨?_, rfl, Nat.le_of_eq stop.symm⟩
    rw [Mark.Stands, ← stop]
    exact holds
  · cases marked

/-- A parser that goes on from the marks it carries gives a value with the marks that are told of it,
in the order in which they stand up to where it leads. -/
def Reads {α : Type} (carried : List Mark) (parser : Parser α) (given : α → List Mark) : Prop :=
  ∀ ⦃start : Nat⦄ ⦃state : State⦄ ⦃step : Step state α⦄, parser state = .ok step →
    Between state.text start state.token.span.start carried →
    Between state.text start step.after.token.span.start (given step.value)

open Script.Parser

namespace Reads

variable {α β : Type} {carried : List Mark} {parser other : Parser α} {next : α → Parser β}
  {middle given : α → List Mark} {result : β → List Mark}

/-! ## One step after another -/

/-- A value that has some of the marks that are carried. -/
theorem pure {value : α} (some : (given value).Sublist carried) :
    Reads carried (Pure.pure value) given := by
  intro start state step done between
  cases done
  exact between.sublist some

theorem bind (first : Reads carried parser middle)
    (later : ∀ value, Reads (middle value) (next value) result) :
    Reads carried (parser >>= next) result := by
  intro start state step done between
  simp only [Bind.bind] at done
  split at done
  · cases done
  · next step' first' =>
    split at done
    · cases done
    · next further later' =>
      cases done
      have between' := first first' between
      rw [← step'.onward.text] at between' ⊢
      exact later _ later' between'

/-- Whatever a parser reads, the marks that are carried stay before it. -/
theorem keep (parser : Parser α) : Reads carried parser fun _ => carried := by
  intro start state step done between
  exact between.widen step.onward.start

/-- A parser that reads marks of its own adds them to those that are carried. -/
theorem add (reads : Reads [] parser given) :
    Reads carried parser fun value => carried ++ given value := by
  intro start state step done between
  exact between.append (reads done (.nil (Nat.le_refl _)))

/-- Pass over a step whose value has no marks. -/
theorem pass (parser : Parser α) (later : ∀ value, Reads carried (next value) result) :
    Reads carried (parser >>= next) result :=
  (keep parser).bind later

/-- Go on after a step that reads marks of its own. -/
theorem andThen (reads : Reads [] parser given)
    (later : ∀ value, Reads (carried ++ given value) (next value) result) :
    Reads carried (parser >>= next) result :=
  reads.add.bind later

/-- Some of the marks may be left out. -/
theorem weaken {fewer : α → List Mark} (reads : Reads carried parser given)
    (some : ∀ value, (fewer value).Sublist (given value)) : Reads carried parser fewer := by
  intro start state step done between
  exact (reads done between).sublist (some _)

/-- The marks that are carried may be left out. -/
theorem drop (reads : Reads [] parser given) : Reads carried parser given :=
  reads.add.weaken fun _ => List.sublist_append_right ..

theorem fail : Reads carried (fail : Parser α) given := by
  intro start state step done between
  cases done

theorem ite {condition : Prop} [Decidable condition] (yes : Reads carried parser given)
    (no : Reads carried other given) :
    Reads carried (if condition then parser else other) given := by
  split
  · exact yes
  · exact no

/-- Taking a token reads what it tells of the text. -/
theorem takeToken (wanted : Lexeme → Bool) :
    Reads [] (takeToken wanted) fun token => token.val.mark?.toList := by
  intro start state step done between
  unfold Parser.takeToken at done
  split at done
  · cases done
    have after : state.token.span.stop ≤ (state.next .lexeme).token.span.start :=
      State.le_start_viewAfterBlanks
    have whole := Nat.le_trans state.start_le_stop after
    cases marked : state.token.mark? with
    | none => simpa [marked] using between.widen whole
    | some mark =>
      obtain ⟨stands, from_, upTo⟩ := State.stands_of_mark? marked
      simp only [marked, Option.toList_some]
      refine ⟨Nat.le_trans between.forward whole, ?_, ?_, List.pairwise_singleton _ _⟩
      · rintro _ (_ | ⟨_, ⟨⟩⟩)
        exact stands
      · rintro _ (_ | ⟨_, ⟨⟩⟩)
        exact ⟨from_ ▸ between.forward, Nat.le_trans upTo after⟩
  · cases done

/-! ## Readings as a whole -/

theorem within (change : Context → Context) (reads : Reads carried parser given) :
    Reads carried (within change parser) given := by
  intro start state step done between
  unfold Parser.within at done
  split at done
  · next inner done' =>
    cases done
    exact @reads start { state with context := change state.context } inner done' between
  · cases done

/-- The marks of what may be missing. -/
def ofOption (given : α → List Mark) : Option α → List Mark
  | none => []
  | some value => given value

@[simp]
theorem ofOption_none (given : α → List Mark) : ofOption given none = [] := rfl

@[simp]
theorem ofOption_some (given : α → List Mark) (value : α) :
    ofOption given (some value) = given value := rfl

section

variable (given)

theorem attempt (reads : Reads [] parser given) :
    Reads [] (attempt parser) (ofOption given) := by
  intro start state step done between
  unfold Parser.attempt at done
  split at done
  · next inner done' =>
    cases done
    exact reads done' between
  · cases done
    exact between

theorem repeated {step : Parser (Option α)} (reads : Reads [] step (ofOption given))
    (budget : Nat) : Reads [] (repeated step budget) (·.flatMap given) := by
  induction budget with
  | zero => exact fail
  | succ budget ih =>
    apply reads.bind
    intro value
    cases value with
    | none => exact pure (List.Sublist.refl _)
    | some value => exact ih.andThen fun values => pure (List.Sublist.refl _)

theorem many {step : Parser (Option α)} (reads : Reads [] step (ofOption given)) :
    Reads [] (many step) (·.flatMap given) :=
  pass budget fun budget => repeated given reads budget

/-- Each step goes on from the marks of the value before it, which stays the value where the steps
end. -/
theorem iterate {step : α → Parser (Option α)}
    (reads : ∀ value, Reads (given value) (step value) fun next => given (next.getD value))
    (value : α) : Reads (given value) (iterate step value) given := by
  apply pass budget
  intro budget
  induction budget generalizing value with
  | zero => exact fail
  | succ budget ih =>
    apply (reads value).bind
    intro next
    cases next with
    | none => exact pure (List.Sublist.refl _)
    | some next => exact ih next

theorem optional {present : Parser Bool} (reads : Reads [] parser given) :
    Reads [] (optional present parser) (·.flatMap given) := by
  refine pass present fun _ => ite ?_ (pure (List.Sublist.refl _))
  exact reads.bind fun value => pure (by simp)

theorem upTo {close : Punctuator} (reads : Reads [] parser given) :
    Reads [] (upTo close parser) (·.flatMap given) := by
  refine many given (pass (sees close) fun _ => ite (pure (List.Sublist.refl _)) ?_)
  exact reads.bind fun value => pure (List.Sublist.refl _)

theorem commaList {close : Punctuator} (reads : Reads [] parser given) :
    Reads [] (commaList close parser) (·.flatMap given) := by
  refine upTo given (reads.bind fun value => ?_)
  exact pass (commaBefore close) fun _ => pure (List.Sublist.refl _)

theorem commaSeparated (reads : Reads [] parser given) :
    Reads [] (commaSeparated parser) (·.flatMap given) := by
  apply reads.bind
  intro first
  refine andThen (many given ?_) fun later => pure (by simp)
  refine pass (take .comma) fun _ => ite ?_ (pure (List.Sublist.refl _))
  exact reads.bind fun value => pure (List.Sublist.refl _)

end

theorem optionalList {present : Parser Bool} {parser : Parser (List α)}
    {given : List α → List Mark} (reads : Reads [] parser given) (none : given [] = []) :
    Reads [] (optionalList present parser) given :=
  pass present fun _ => ite reads (pure (by rw [none]))

end Reads

/-- Every rule reads the marks of its tree. -/
def Rules.Read (rules : Rules) : Prop := ∀ phrase, Reads [] (rules phrase) Node.marks

end ClassRename.Script
