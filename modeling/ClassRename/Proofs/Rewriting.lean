import ClassRename.Rewrite
import ClassRename.Proofs.Grammar.Scripts
import ClassRename.Proofs.Rereading

/-! # Rewriting a script

What the rules ask for in the tree of a script, and what comes of it: one edit for each match site
that the matcher rewrites, in the order of the text and without conflict, so that a script which can
be read can be rewritten.
-/

namespace ClassRename

open Script

variable {dialect : Dialect} {source : String} {tree : Node}

/-- The edits of a script are one for each match site whose text the matcher rewrites, and nothing
else. Of an object that a call joins only keys are rewritten, and of every other object only values. -/
theorem Rule.allEdits_exact (parsed : parse dialect source = .ok tree) (options : Options)
    (matcher : Matcher) :
    (Rule.allEdits options matcher tree).Nodup ∧
    (∀ edit, edit ∈ Rule.allEdits options matcher tree ↔
      ∃ site, MatchSite options.classAttribute tree site ∧
        Rewrites source.toList matcher site edit) ∧
    (∀ site site' edit, MatchSite options.classAttribute tree site →
      MatchSite options.classAttribute tree site' → Rewrites source.toList matcher site edit →
      Rewrites source.toList matcher site' edit → site = site') ∧
    ∀ span members, tree.Contains (.object span members) →
      (Joined options.classAttribute tree (.object span members) →
        ∀ key literal, .property key (.string literal) ∈ members →
          ∀ edit ∈ Rule.allEdits options matcher tree, edit.span ≠ literal.span) ∧
      (¬Joined options.classAttribute tree (.object span members) →
        ∀ literal value, .property (.string literal) value ∈ members →
          ∀ edit ∈ Rule.allEdits options matcher tree, edit.span ≠ literal.span) := by
  have placed := placed_of_parse parsed
  have exact (edit : Edit) : edit ∈ Rule.allEdits options matcher tree ↔
      ∃ site, MatchSite options.classAttribute tree site ∧
        Rewrites source.toList matcher site edit :=
    placed.mem_mergedEdits_iff (List.Perm.refl _)
  have untouched {literal : StringLiteral} (contained : tree.Contains (.string literal))
      (noSite : ¬MatchSite options.classAttribute tree (.string literal)) (edit : Edit)
      (asked : edit ∈ Rule.allEdits options matcher tree) : edit.span ≠ literal.span := by
    intro same
    obtain ⟨site, isSite, rewrites⟩ := (exact edit).1 asked
    exact noSite (placed.matchSite_of_span_eq contained isSite (rewrites.span_eq.symm.trans same))
  refine ⟨?_, exact, ?_, ?_⟩
  · refine (placed.allEdits_startsBefore options matcher).imp ?_
    rintro edit _ first rfl
    exact Nat.lt_irrefl _ first
  · intro site site' edit isSite isSite' rewrites rewrites'
    exact placed.matchSite_eq isSite isSite' (rewrites.span_eq.symm.trans rewrites'.span_eq)
  · intro span members contained
    constructor
    · intro joined key literal isMember
      exact untouched (contains_value contained isMember)
        (placed.not_matchSite_of_joined joined isMember)
    · intro free literal value isMember
      exact untouched (contains_key contained isMember)
        (placed.not_matchSite_of_not_joined contained free isMember)

/-- A matcher that renames one class. -/
def oneClassMatcher : Matcher := Matcher.ofMap (RenameMap.ofList [("p-1", "m-1")])

/-- An element whose class list joins an object. -/
def joinedElement : String := "<a className=\x7bcx(\x7b'p-1': 'p-1'\x7d)\x7d/>"

/-- Of an object that is joined the key alone is rewritten, although its value holds the name too. -/
theorem Rule.allEdits_exact_joined : ∃ tree,
    parse .typedMarkup joinedElement = .ok tree ∧
    (Rule.allEdits {} oneClassMatcher tree).length = 1 ∧
    ∀ edit, edit ∈ Rule.allEdits {} oneClassMatcher tree ↔
      ∃ site, MatchSite "className" tree site ∧
        Rewrites joinedElement.toList oneClassMatcher site edit := by
  have read : (parse .typedMarkup joinedElement).isOk = true := by decide +kernel
  have one : ((parse .typedMarkup joinedElement).map fun tree =>
      (Rule.allEdits {} oneClassMatcher tree).length).toOption = some 1 := by
    decide +kernel
  cases parsed : parse .typedMarkup joinedElement with
  | error error =>
    rw [parsed] at read
    cases read
  | ok tree =>
    rw [parsed] at one
    exact ⟨tree, rfl, Option.some.inj one, (Rule.allEdits_exact parsed {} _).2.1⟩

/-- The edits of a tree can be made. -/
theorem Script.Placed.exists_applyAll_allEdits (placed : Placed source.toList tree) (options : Options)
    (matcher : Matcher) :
    ∃ result, Edit.applyAll source (Rule.allEdits options matcher tree) = .ok result := by
  obtain ⟨result, made, -⟩ := Edit.exists_applyAll_eq_ok (placed.allEdits_pairwise options matcher)
    fun edit => placed.exists_holds_of_mem_allEdits
  exact ⟨_, made⟩

/-- A script that is rewritten is read, and its edits are those that the rules ask for. There is a new
text unless they ask for nothing. -/
theorem exists_of_rewriteBy_eq_ok {read : String → Except SyntaxError Node} {options : Options}
    {matcher : Matcher} {rewritten : Rewritten}
    (done : rewriteBy read options matcher source = .ok rewritten) :
    ∃ tree, read source = .ok tree ∧ rewritten.edits = Rule.allEdits options matcher tree ∧
      (rewritten.newSource = none ↔ rewritten.edits = []) := by
  cases parsed : read source with
  | error error =>
    simp only [rewriteBy, parsed] at done
    cases done
  | ok tree =>
    refine ⟨tree, rfl, ?_⟩
    simp only [rewriteBy, parsed] at done
    split at done
    · next nothing =>
      cases done
      exact ⟨rfl, iff_of_true rfl (List.isEmpty_iff.1 nothing)⟩
    · next something =>
      split at done
      · cases done
        exact ⟨rfl, iff_of_false (Option.some_ne_none _) (mt List.isEmpty_iff.2 something)⟩
      · cases done

/-- The rules never disagree about a string of a script, their merged edits follow one another in the
text in whatever order the rules run, and making the edits succeeds. So a script is not rewritten only
when it cannot be read. -/
theorem Rule.allEdits_conflictFree (dialect : Dialect) (source : String) (options : Options)
    (matcher : Matcher) :
    (∀ tree, parse dialect source = .ok tree →
      (∀ rule rule' edit edit', edit ∈ Rule.edits options matcher rule tree →
        edit' ∈ Rule.edits options matcher rule' tree → edit.span = edit'.span →
          edit.replacement = edit'.replacement ∧ edit.message = edit'.message) ∧
      (Rule.allEdits options matcher tree).Pairwise Edit.StartsBefore ∧
      (Rule.allEdits options matcher tree).Pairwise Edit.Precedes ∧
      (∀ edit ∈ Rule.allEdits options matcher tree, ∃ old, Holds source.toList edit.span old) ∧
      (∀ rules : List Rule, rules.Perm Rule.all →
        Rule.mergedEdits options matcher rules tree = Rule.allEdits options matcher tree) ∧
      ∃ result, Edit.applyAll source (Rule.allEdits options matcher tree) = .ok result) ∧
    ∀ error, rewrite options matcher dialect source = .error error ↔
      ∃ unread, parse dialect source = .error unread ∧ error = .unreadable unread := by
  constructor
  · intro tree parsed
    have placed := placed_of_parse parsed
    refine ⟨?_, placed.allEdits_startsBefore options matcher,
      placed.allEdits_pairwise options matcher, ?_, ?_, placed.exists_applyAll_allEdits options matcher⟩
    · intro rule rule' edit edit' asked asked' same
      have apart := placed.apart_edits options matcher (List.Subset.refl Rule.all)
      have isEdit {rule : Rule} {edit : Edit} (asked : edit ∈ rule.edits options matcher tree) :
          edit ∈ Rule.all.flatMap fun rule => rule.edits options matcher tree :=
        List.mem_flatMap.2 ⟨rule, by cases rule <;> decide, asked⟩
      obtain rfl := apart.eq_of_span_eq (isEdit asked) (isEdit asked') same
      exact ⟨rfl, rfl⟩
    · intro edit asked
      exact (placed.exists_holds_of_mem_allEdits asked).2
    · intro rules all
      exact placed.mergedEdits_eq all
  · intro error
    unfold rewrite rewriteBy
    cases parsed : parse dialect source with
    | error unread => simp [eq_comm]
    | ok tree =>
      obtain ⟨result, made⟩ := (placed_of_parse parsed).exists_applyAll_allEdits options matcher
      dsimp only
      split
      · simp
      · simp [made]

/-- An element with its classes by slot. -/
def slottedElement : String := "<a classes=\x7b\x7bb: 'p-1'\x7d\x7d/>"

/-- An object that two rules look at is edited without conflict. -/
theorem Rule.allEdits_conflictFree_classes : ∃ tree,
    parse .typedMarkup slottedElement = .ok tree ∧
    ∃ result, Edit.applyAll slottedElement
      (Rule.allEdits {} oneClassMatcher tree) = .ok result := by
  have read : (parse .typedMarkup slottedElement).isOk = true := by decide +kernel
  cases parsed : parse .typedMarkup slottedElement with
  | error error =>
    rw [parsed] at read
    cases read
  | ok tree =>
    exact ⟨tree, rfl, ((Rule.allEdits_conflictFree ..).1 tree parsed).2.2.2.2.2⟩

/-- The rule for the attribute with classes by slot asks for nothing that the rule for objects does not
ask for, so the name of that attribute makes no difference: not to the edits of a script, and not to
what becomes of any source. -/
theorem Rule.classesAttribute_inert (classAttribute classesAttribute classesAttribute' : String)
    (matcher : Matcher) :
    (∀ dialect source tree, parse dialect source = .ok tree →
      (∀ edit ∈ Rule.classesAttribute.edits ⟨classAttribute, classesAttribute⟩ matcher tree,
        edit ∈ Rule.objectValues.edits ⟨classAttribute, classesAttribute'⟩ matcher tree) ∧
      Rule.allEdits ⟨classAttribute, classesAttribute⟩ matcher tree =
        Rule.allEdits ⟨classAttribute, classesAttribute'⟩ matcher tree) ∧
    ∀ dialect source, rewrite ⟨classAttribute, classesAttribute⟩ matcher dialect source =
      rewrite ⟨classAttribute, classesAttribute'⟩ matcher dialect source := by
  constructor
  · intro dialect source tree parsed
    have placed := placed_of_parse parsed
    refine ⟨fun edit asked => ?_, placed.allEdits_congr matcher rfl⟩
    obtain ⟨site, found, asks⟩ := List.mem_filterMap.1 asked
    have found' := Rule.mem_sites_objectValues_of_classesAttribute placed found
    exact List.mem_filterMap.2 ⟨site, found', asks⟩
  · intro dialect source
    unfold rewrite rewriteBy
    cases parsed : parse dialect source with
    | error unread => rfl
    | ok tree =>
      have same : Rule.allEdits ⟨classAttribute, classesAttribute⟩ matcher tree =
          Rule.allEdits ⟨classAttribute, classesAttribute'⟩ matcher tree :=
        (placed_of_parse parsed).allEdits_congr matcher rfl
      dsimp only
      rw [same]

/-- The rule for the attribute with classes by slot asks for an edit or not by the name of that attribute,
and yet all edits are the same, even if it is the name of the class list attribute. -/
theorem Rule.classesAttribute_inert_slotted : ∃ tree,
    parse .typedMarkup slottedElement = .ok tree ∧
    (Rule.classesAttribute.edits ⟨"className", "classes"⟩ oneClassMatcher tree).length = 1 ∧
    (Rule.classesAttribute.edits ⟨"className", "className"⟩ oneClassMatcher tree).length = 0 ∧
    Rule.allEdits ⟨"className", "classes"⟩ oneClassMatcher tree =
      Rule.allEdits ⟨"className", "className"⟩ oneClassMatcher tree := by
  have read : (parse .typedMarkup slottedElement).isOk = true := by decide +kernel
  have counts : ((parse .typedMarkup slottedElement).map fun tree =>
      ((Rule.classesAttribute.edits ⟨"className", "classes"⟩ oneClassMatcher tree).length,
        (Rule.classesAttribute.edits ⟨"className", "className"⟩ oneClassMatcher tree).length)).toOption =
      some (1, 0) := by
    decide +kernel
  cases parsed : parse .typedMarkup slottedElement with
  | error error =>
    rw [parsed] at read
    cases read
  | ok tree =>
    rw [parsed] at counts
    obtain ⟨one, none⟩ := Prod.mk.inj (Option.some.inj counts)
    exact ⟨tree, rfl, one, none,
      ((Rule.classesAttribute_inert "className" "classes" "className" oneClassMatcher).1
        .typedMarkup slottedElement tree parsed).2⟩

end ClassRename
