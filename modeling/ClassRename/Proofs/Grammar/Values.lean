import ClassRename.Script.Grammar.Class
import ClassRename.Script.Grammar.Markup
import ClassRename.Proofs.Grammar.Types

/-! # Literals with parts, classes and elements read their marks

An object literal reads the mark of its opening brace before those of its members, and the string of
an attribute is a mark of its own.
-/

namespace ClassRename.Script

open Script.Parser

variable {rules : Rules}

/-! ## Templates and functions -/

theorem template_reads (read : rules.Read) (hasTag : Bool) :
    Reads [] (template rules hasTag) Node.marks := by
  refine .bind (.many Node.marks (.pass lexeme fun lexeme => ?_)) fun inside => .pure (by simp)
  split
  · refine .pass _ fun _ => .pass _ fun _ => .ite (.pure (by simp)) ?_
    apply Reads.bind (.within _ (read _))
    intro inner
    exact .pass _ fun _ => .pass _ fun _ => .pass _ fun _ => .pure (by simp)
  · exact .fail

theorem functionBody_reads (read : rules.Read) : Reads [] (functionBody rules) Node.marks := by
  refine .pass _ fun _ => .bind (.within _ (.upTo _ (read _))) fun statements => ?_
  exact .pass _ fun _ => .pure (by simp)

/-- The marks of a function after its name. -/
def FunctionParts.marks (function : FunctionParts) : List Mark := Node.marksOfAll function.parts

theorem functionParts_reads (read : rules.Read) :
    Reads [] (functionParts rules) FunctionParts.marks := by
  apply (typeParameters?_reads read).bind
  intro typeParameters
  apply Reads.andThen (parameters_reads read)
  intro parameters
  apply Reads.andThen (resultAnnotation?_reads read _)
  intro result
  exact .andThen (.optional _ (functionBody_reads read)) fun body =>
    .pure (by simp [FunctionParts.marks])

theorem functionRest_reads (read : rules.Read) (awaiting yielding : Bool) (need : BodyNeed) :
    Reads [] (functionRest rules awaiting yielding need) FunctionParts.marks :=
  (Reads.within _ (functionParts_reads read)).bind fun _ =>
    .pass _ fun _ => .pure (List.Sublist.refl _)

theorem functionFrom_reads (read : rules.Read) (awaiting : Bool) (need : BodyNeed)
    {name : Bool → Parser (List Node)} (reads : ∀ yielding, Reads [] (name yielding) Node.marksOfAll) :
    Reads [] (functionFrom rules awaiting need name) Node.marks := by
  refine .pass _ fun _ => .pass _ fun yielding => (reads yielding).bind fun name => ?_
  exact .andThen (functionRest_reads read ..) fun function =>
    .pure (by simp [FunctionParts.marks])

theorem functionName?_reads (awaiting yielding : Bool) :
    Reads [] (functionName? awaiting yielding) Node.marksOfAll := by
  refine .pass _ fun _ => .ite ?_ (.pure (by simp))
  exact (Reads.within _ identifier_reads).bind fun name => .pure (by simp)

theorem functionExpression_reads (read : rules.Read) :
    Reads [] (functionExpression rules) Node.marks :=
  .pass _ fun awaiting => functionFrom_reads read _ _ (functionName?_reads awaiting)

theorem method_reads (read : rules.Read) (awaiting yielding : Bool) (need : BodyNeed) :
    Reads [] (method rules awaiting yielding need) Node.marks :=
  (functionRest_reads read ..).bind fun function => .pure (by simp [FunctionParts.marks])

theorem accessor_reads (read : rules.Read) (reads : Bool) (need : BodyNeed) :
    Reads [] (accessor rules reads need) Node.marks :=
  (functionRest_reads read ..).bind fun function =>
    .pass _ fun _ => .pure (by simp [FunctionParts.marks])

/-! ## Arrays and objects -/

theorem spread_reads (read : rules.Read) : Reads [] (spread rules) Node.marks := by
  refine .pass _ fun _ => .bind (.within _ (read _)) fun argument => .pass _ fun comma => .pure ?_
  cases comma <;> simp

theorem arrayLiteral_reads (read : rules.Read) : Reads [] (arrayLiteral rules) Node.marks := by
  refine .pass _ fun _ => .bind (.within _ (.commaList Node.marks ?_)) fun elements => ?_
  · refine .pass _ fun _ => .ite (.pure (by simp)) (.pass _ fun _ => .ite ?_ (read _))
    exact spread_reads read
  · exact .pass _ fun _ => .pure (by simp)

theorem shorthand_reads (read : rules.Read) (key : Node) :
    Reads key.marks (shorthand rules key) Node.marks := by
  unfold shorthand
  split
  · apply Reads.andThen (initializer?_reads read)
    intro default
    split
    · exact .pure (by simp)
    · exact .pure (by simp)
  · exact .fail

theorem objectMember_reads (read : rules.Read) : Reads [] (objectMember rules) Node.marks := by
  have accessorMember (reads : Bool) : Reads [] (do
      let key ← memberKey rules
      return .property key (← accessor rules reads .required)) Node.marks := by
    apply (memberKey_reads read).bind
    intro key
    exact .andThen (accessor_reads read ..) fun value => .pure (by simp)
  refine .pass _ fun _ => .ite (spread_reads read) ?_
  refine .pass _ fun _ => .pass _ fun _ => .ite (.pass _ fun _ => accessorMember true) ?_
  refine .pass _ fun _ => .pass _ fun _ => .ite (.pass _ fun _ => accessorMember false) ?_
  refine .pass _ fun _ => .pass _ fun _ => .pass _ fun _ => ?_
  refine (memberKey_reads read).bind fun key => .pass _ fun _ => .ite ?_ ?_
  · exact .andThen (method_reads read ..) fun value => .pure (by simp)
  · refine .pass _ fun _ => .ite ?_ (.pass _ fun _ => shorthand_reads read key)
    exact .andThen (read _) fun value => .pure (by simp)

theorem objectLiteral_reads (read : rules.Read) : Reads [] (objectLiteral rules) Node.marks := by
  apply (Reads.takeToken _).bind
  intro opening
  apply Reads.andThen (.within _ (.commaList _ (objectMember_reads read)))
  intro members
  have isBrace : opening.val.lexeme = .punctuator .braceOpen := eq_of_beq opening.property
  exact .pass _ fun _ => .pass _ fun _ => .pure (by simp [Token.mark?, isBrace])

/-! ## Classes -/

theorem fieldValue?_reads (read : rules.Read) : Reads [] (fieldValue? rules) Node.marksOfAll :=
  .within _ (initializer?_reads read)

theorem classMemberRest_reads (read : rules.Read) (modifiers : List String) :
    Reads [] (classMemberRest rules modifiers) Node.marksOfAll := by
  have accessorMember (reads : Bool) : Reads [] (do
      let key ← classMemberKey rules
      return [key, ← accessor rules reads .signatureAllowed]) Node.marksOfAll := by
    apply (classMemberKey_reads read).bind
    intro key
    exact .andThen (accessor_reads read ..) fun value => .pure (by simp)
  refine .pass _ fun _ => .pass _ fun _ => .ite (.pass _ fun _ => .pass _ fun _ => ?_) ?_
  · apply Reads.bind (.within _ (.upTo _ (read _)))
    intro statements
    exact .pass _ fun _ => .pure (by simp)
  refine .pass _ fun _ => .pass _ fun _ => .ite (.pass _ fun _ => accessorMember true) ?_
  refine .pass _ fun _ => .pass _ fun _ => .ite (.pass _ fun _ => accessorMember false) ?_
  refine .pass _ fun _ => .pass _ fun _ => .pass _ fun _ => .ite ?_ ?_
  · exact (indexSignature_reads read).bind fun parts => .pass _ fun _ => .pure (by simp)
  refine .pass _ fun _ => .pass _ fun _ => (classMemberKey_reads read).bind fun key => ?_
  refine .pass _ fun _ => .pass _ fun _ => .ite ?_ ?_
  · exact .andThen (method_reads read ..) fun value => .pure (by simp)
  · apply Reads.andThen (annotation?_reads read)
    intro type
    apply Reads.andThen (fieldValue?_reads read)
    intro value
    exact .pass _ fun _ => .pure (by simp)

theorem classMember_reads (read : rules.Read) : Reads [] (classMember rules) Node.marks := by
  refine .pass _ fun _ => .ite (.pure (by simp)) ((decorators_reads read).bind fun decorators => ?_)
  refine .pass _ fun _ => .andThen (classMemberRest_reads read _) fun parts => .pure (by simp)

theorem heritage_reads (read : rules.Read) : Reads [] (heritage rules) Node.marksOfAll := by
  refine .bind (.many Node.marksOfAll (.pass _ fun _ => .ite ?_ ?_)) fun clauses => .pure ?_
  · apply (read _).bind
    intro parent
    exact .andThen (typeArguments?_reads read) fun arguments => .pure (by simp)
  · refine .pass _ fun _ => .pass _ fun _ => .ite (.pass _ fun _ => ?_) (.pure (by simp))
    exact (Reads.commaSeparated _ (typeReference_reads read)).bind fun types => .pure (by simp)
  · simp

/-- The marks of the decorators, which come before the class, stay before those of the class. -/
theorem classFrom_reads (read : rules.Read) (decorators : List Node) (needsName : Bool) :
    Reads (Node.marksOfAll decorators) (classFrom rules decorators needsName) Node.marks := by
  refine .pass _ fun _ => .andThen (.optional _ identifier_reads) fun name => .pass _ fun _ => ?_
  apply Reads.andThen (typeParameters?_reads read)
  intro typeParameters
  refine .andThen (heritage_reads read) fun heritage => .pass _ fun _ => ?_
  apply Reads.andThen (.within _ (.upTo _ (classMember_reads read)))
  intro members
  exact .pass _ fun _ => .pure (by simp)

/-! ## Elements -/

theorem contained_reads (read : rules.Read) (nested : Bool) :
    Reads [] (contained rules nested) Node.marks := by
  refine .pass _ fun _ => .ite (.pure (by simp)) (.pass _ fun _ => .ite (.pass _ fun _ => ?_) ?_)
  · exact (read _).bind fun inner => .pure (by simp)
  · exact (read _).bind fun inner => .pass _ fun _ => .pure (by simp)

theorem container_reads (read : rules.Read) (nested : Bool) :
    Reads [] (container rules nested) Node.marks := by
  refine .pass _ fun _ => .bind (.within _ (contained_reads read nested)) fun inner => ?_
  exact .pass _ fun _ => .pure (by simp)

theorem attributeString_reads : Reads [] attributeString Node.marks := by
  apply (Reads.takeToken _).bind
  intro token
  split
  · next isString => exact .pure (by simp [Token.mark?, isString])
  · exact .fail

theorem attributeValue_reads (read : rules.Read) :
    Reads [] (attributeValue rules) Node.marks := by
  apply Reads.pass lexeme
  intro lexeme
  split
  · exact attributeString_reads
  · exact container_reads read false
  · exact read _
  · exact .fail

theorem elementAttribute_reads (read : rules.Read) :
    Reads [] (elementAttribute rules) Node.marks := by
  refine .pass _ fun _ => .ite (.pass _ fun _ => ?_) (.pass _ fun _ => .pass _ fun _ => .ite ?_ ?_)
  · apply Reads.bind (.within _ (read _))
    intro inner
    exact .pass _ fun _ => .pure (by simp)
  · exact .pass _ fun _ => (attributeValue_reads read).bind fun value => .pure (by simp)
  · exact .pure (by simp)

theorem elementChildren_reads (read : rules.Read) :
    Reads [] (elementChildren rules) Node.marksOfAll := by
  refine .many Node.marks (.pass lexeme fun lexeme => ?_)
  split
  · exact .pass _ fun _ => .pure (by simp)
  · exact (container_reads read true).bind fun child => .pure (by simp)
  · refine .pass _ fun _ => .ite (.pure (by simp)) ?_
    exact (read _).bind fun child => .pure (by simp)
  · exact .fail

theorem element_reads (read : rules.Read) (nested : Bool) :
    Reads [] (element rules nested) Node.marks := by
  refine .pass _ fun _ => .pass _ fun _ => .ite (.pass _ fun _ => ?_) (.pass _ fun _ => ?_)
  · exact (elementChildren_reads read).bind fun children => .pass _ fun _ => .pure (by simp)
  refine (typeArguments?_reads read).bind fun types => .andThen (.many Node.marks ?_) fun attributes => ?_
  · refine .pass _ fun _ => .pass _ fun _ => .ite (.pure (by simp)) ?_
    exact (elementAttribute_reads read).bind fun value => .pure (by simp)
  · refine .pass _ fun _ => .ite (.pass _ fun _ => .pure (by simp)) (.pass _ fun _ => ?_)
    apply Reads.andThen (elementChildren_reads read)
    intro children
    exact .pass _ fun _ => .pure (by simp)

end ClassRename.Script
