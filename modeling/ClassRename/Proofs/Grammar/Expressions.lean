import ClassRename.Script.Grammar.Expression
import ClassRename.Proofs.Grammar.Values

/-! # Expressions read their marks

What stands before an assignment is read as an expression and then taken as a target, which keeps the
strings in their order and forgets the objects that are taken apart.
-/

namespace ClassRename.Script

open Script.Parser

variable {rules : Rules}

/-! ## Targets -/

namespace Node

mutual

/-- A target has some of the marks of the expression that it was read as. -/
theorem marks_sublist_of_asTarget? {node target : Node} (isTarget : node.asTarget? = some target) :
    target.marks.Sublist node.marks := by
  unfold asTarget? at isTarget
  split at isTarget
  · obtain ⟨targets, are, rfl⟩ := Option.map_eq_some_iff.1 isTarget
    simpa using (marks_sublist_of_membersAsTargets? are).cons _
  · obtain ⟨targets, are, rfl⟩ := Option.map_eq_some_iff.1 isTarget
    simpa using marks_sublist_of_elementsAsTargets? are
  · split at isTarget
    · cases isTarget
      exact List.Sublist.refl _
    · cases isTarget
termination_by (sizeOf node, 0)

theorem marks_sublist_of_asTargetWithDefault? {node target : Node}
    (isTarget : node.asTargetWithDefault? = some target) : target.marks.Sublist node.marks := by
  unfold asTargetWithDefault? at isTarget
  split at isTarget
  · cases isTarget
    simp
  · exact marks_sublist_of_asTarget? isTarget
termination_by (sizeOf node, 1)

theorem marks_sublist_of_membersAsTargets? {members targets : List Node}
    (are : membersAsTargets? members = some targets) :
    (marksOfAll targets).Sublist (marksOfAll members) := by
  unfold membersAsTargets? at are
  split at are
  · cases are
    exact List.Sublist.refl _
  · obtain ⟨later, areLater, are⟩ := Option.bind_eq_some_iff.1 are
    cases are
    simpa using marks_sublist_of_membersAsTargets? areLater
  · obtain ⟨target, isTarget, are⟩ := Option.bind_eq_some_iff.1 are
    obtain ⟨later, areLater, are⟩ := Option.bind_eq_some_iff.1 are
    cases are
    have first := marks_sublist_of_asTargetWithDefault? isTarget
    simpa using first.append (marks_sublist_of_membersAsTargets? areLater)
  · obtain ⟨target, isTarget, are⟩ := Option.bind_eq_some_iff.1 are
    cases are
    simpa using marks_sublist_of_asTarget? isTarget
  · cases are
termination_by (sizeOf members, 0)

theorem marks_sublist_of_elementsAsTargets? {elements targets : List Node}
    (are : elementsAsTargets? elements = some targets) :
    (marksOfAll targets).Sublist (marksOfAll elements) := by
  unfold elementsAsTargets? at are
  split at are
  · cases are
    exact List.Sublist.refl _
  · obtain ⟨later, areLater, are⟩ := Option.bind_eq_some_iff.1 are
    cases are
    simpa using marks_sublist_of_elementsAsTargets? areLater
  · obtain ⟨target, isTarget, are⟩ := Option.bind_eq_some_iff.1 are
    cases are
    simpa using marks_sublist_of_asTarget? isTarget
  · cases are
  · obtain ⟨target, isTarget, are⟩ := Option.bind_eq_some_iff.1 are
    obtain ⟨later, areLater, are⟩ := Option.bind_eq_some_iff.1 are
    cases are
    have first := marks_sublist_of_asTargetWithDefault? isTarget
    simpa using first.append (marks_sublist_of_elementsAsTargets? areLater)
termination_by (sizeOf elements, 0)

end

end Node

theorem target_reads (expression : Node) :
    Reads expression.marks (target expression) Node.marks := by
  unfold target
  split
  · next isTarget => exact .pure (Node.marks_sublist_of_asTarget? isTarget)
  · exact .fail

theorem simpleTarget_reads (expression : Node) :
    Reads expression.marks (simpleTarget expression) Node.marks :=
  .ite (.pure (List.Sublist.refl _)) .fail

/-! ## Values -/

theorem parenthesized_reads (read : rules.Read) : Reads [] (parenthesized rules) Node.marks := by
  refine .pass _ fun _ => .bind (.within _ (read _)) fun inner => ?_
  exact .pass _ fun _ => .pure (by simp)

theorem arguments_reads (read : rules.Read) : Reads [] (arguments rules) Node.marksOfAll := by
  refine .pass _ fun _ => .bind (.within _ (.commaList Node.marks ?_)) fun arguments => ?_
  · exact .pass _ fun _ => .ite (spread_reads read) (read _)
  · exact .pass _ fun _ => .pure (by simp)

theorem importExpression_reads (read : rules.Read) :
    Reads [] (importExpression rules) Node.marks := by
  refine .pass _ fun _ => .pass _ fun _ => .ite ?_ ?_
  · refine .pass _ fun _ => .ite (.pure (by simp)) ?_
    refine .pass _ fun _ => .pass _ fun _ => .pass _ fun _ => ?_
    exact (arguments_reads read).bind fun arguments => .pure (by simp)
  · exact (arguments_reads read).bind fun arguments => .pass _ fun _ => .pure (by simp)

theorem primary_reads (read : rules.Read) : Reads [] (primary rules) Node.marks := by
  apply Reads.pass lexeme
  intro lexeme
  split
  · refine .ite (.pass _ fun _ => .pure (by simp)) (.ite (functionExpression_reads read) ?_)
    refine .ite (classFrom_reads read [] false) (.ite (importExpression_reads read) (.ite ?_ ?_))
    · exact .pass _ fun _ => .pass _ fun _ => .pass _ fun _ => .pure (by simp)
    refine .ite (read _) (.pass _ fun _ => .ite (functionExpression_reads read) ?_)
    exact identifier_reads
  · exact .pass _ fun _ => .pure (by simp)
  · exact .pass _ fun _ => .pure (by simp)
  · exact stringLiteral_reads
  · exact template_reads read false
  · exact parenthesized_reads read
  · exact arrayLiteral_reads read
  · exact objectLiteral_reads read
  · exact .pass _ fun _ => .pass _ fun _ => .ite (.pass _ fun _ => .pure (by simp)) .fail
  · exact .pass _ fun _ => .pass _ fun _ => .ite (.pass _ fun _ => .pure (by simp)) .fail
  · exact (decorators_reads read).bind fun decorators => classFrom_reads read decorators false
  · exact .pass _ fun _ => .ite (read _) .fail
  · exact .fail

/-! ## Members and calls -/

theorem valueTypeArguments_reads (read : rules.Read) :
    Reads [] (valueTypeArguments rules) Node.marks := by
  refine .pass _ fun _ => .pass _ fun _ => .bind (.commaList _ (read _)) fun types => ?_
  refine .pass _ fun _ => .pass _ fun _ => .pass _ fun _ => .pass _ fun _ => .pass _ fun _ => ?_
  apply Reads.pass lexeme
  intro lexeme
  split
  · exact .pure (by simp)
  · exact .pure (by simp)
  · exact .fail
  · exact .fail
  · exact .fail
  · exact .fail
  · exact .pass _ fun _ => .pass _ fun _ => .pass _ fun _ => .pass _ fun _ => .pure (by simp)

theorem afterTypeArguments_reads (read : rules.Read) (calls : Bool) (value types : Node) :
    Reads (value.marks ++ types.marks) (afterTypeArguments rules calls value types) Node.marks := by
  apply Reads.pass lexeme
  intro lexeme
  split
  · refine .ite ?_ (.pure (by simp))
    exact .andThen (arguments_reads read) fun arguments => .pure (by simp)
  · exact .andThen (template_reads read true) fun template => .pure (by simp)
  · exact .pure (by simp)

theorem memberName_reads : Reads [] memberName Node.marks := by
  apply Reads.pass lexeme
  intro lexeme
  split
  · exact .pass _ fun _ => .pure (by simp)
  · exact anyName_reads

theorem computedName_reads (read : rules.Read) : Reads [] (computedName rules) Node.marks := by
  refine .pass _ fun _ => .bind (.within _ (read _)) fun key => ?_
  exact .pass _ fun _ => .pure (by simp)

theorem optionalLink_reads (read : rules.Read) (value : Node) :
    Reads value.marks (optionalLink rules value) Node.marks := by
  apply Reads.pass lexeme
  intro lexeme
  have instantiated : Reads value.marks (do
      failIf (!(← typed))
      let types ← valueTypeArguments rules
      return .call (.compound .instantiation [value, types]) (← arguments rules)) Node.marks := by
    refine .pass _ fun _ => .pass _ fun _ => .andThen (valueTypeArguments_reads read) fun types => ?_
    exact .andThen (arguments_reads read) fun arguments => .pure (by simp)
  split
  · exact .andThen (arguments_reads read) fun arguments => .pure (by simp)
  · exact .andThen (computedName_reads read) fun key => .pure (by simp)
  · exact instantiated
  · exact instantiated
  · exact .andThen memberName_reads fun key => .pure (by simp)

/-- The marks of a chain are those of its value. -/
def Chained.marks (chain : Chained) : List Mark := chain.1.marks

theorem typedStep_reads (read : rules.Read) (calls : Bool) (value : Node) (chained : Bool) :
    Reads (Chained.marks (value, chained)) (do
      if ← typed then
        match ← attempt (valueTypeArguments rules) with
        | some types => return some (← afterTypeArguments rules calls value types, chained)
        | none => return none
      else return none) fun next => Chained.marks (next.getD (value, chained)) := by
  have stays : Reads (Chained.marks (value, chained)) (return none) fun next =>
      Chained.marks (next.getD (value, chained)) := .pure (List.Sublist.refl _)
  refine .pass _ fun _ => .ite (.andThen (.attempt _ (valueTypeArguments_reads read)) ?_) stays
  intro types
  split
  · exact (afterTypeArguments_reads read ..).bind fun value => .pure (by simp [Chained.marks])
  · exact .pure (by simp)

theorem memberStep_reads (read : rules.Read) (calls : Bool) (chain : Chained) :
    Reads chain.marks (memberStep rules calls chain) fun next => (next.getD chain).marks := by
  obtain ⟨value, chained⟩ := chain
  have stays : Reads (Chained.marks (value, chained)) (return none) fun next =>
      Chained.marks (next.getD (value, chained)) := .pure (List.Sublist.refl _)
  have instantiated := typedStep_reads read calls value chained
  apply Reads.pass lexeme
  intro lexeme
  split
  · exact .pass _ fun _ => .andThen memberName_reads fun key => .pure (by simp [Chained.marks])
  · refine .pass _ fun _ => .ite stays (.andThen (computedName_reads read) fun key => ?_)
    exact .pure (by simp [Chained.marks])
  · refine .pass _ fun _ => .pass _ fun _ => .ite (.pass _ fun _ => ?_) stays
    exact .pure (by simp [Chained.marks])
  · refine .pass _ fun _ => .andThen (template_reads read true) fun template => ?_
    exact .pure (by simp [Chained.marks])
  · exact instantiated
  · exact instantiated
  · refine .ite (.andThen (arguments_reads read) fun arguments => ?_) stays
    exact .pure (by simp [Chained.marks])
  · refine .ite (.pass _ fun _ => (optionalLink_reads read value).bind fun value => ?_) stays
    exact .pure (by simp [Chained.marks])
  · exact stays

theorem leftHandSide_reads (read : rules.Read) : Reads [] (leftHandSide rules) Node.marks := by
  apply (primary_reads read).bind
  intro value
  apply (Reads.iterate _ (memberStep_reads read true) (value, false)).bind
  intro chain
  exact .ite (.pure (by simp [Chained.marks])) (.pure (by simp [Chained.marks]))

theorem constructed_reads (read : rules.Read) : Reads [] (constructed rules) Node.marks := by
  refine .pass _ fun _ => .pass _ fun _ => .ite (.pass _ fun _ => .pure (by simp)) ?_
  apply (primary_reads read).bind
  intro value
  apply (Reads.iterate _ (memberStep_reads read false) (value, false)).bind
  intro chain
  refine .pass _ fun _ => .pass _ fun _ => ?_
  apply Reads.andThen (.optionalList (arguments_reads read) rfl)
  intro arguments
  exact .pure (by simp [Chained.marks])

/-! ## Operators -/

theorem unary_reads (read : rules.Read) : Reads [] (unary rules) Node.marks := by
  refine .pass _ fun _ => .ite (.pass _ fun _ => (read _).bind fun value => ?_) ?_
  · exact (simpleTarget_reads value).bind fun target => .pure (by simp)
  refine .pass _ fun _ => .pass _ fun _ => .ite (.pass _ fun _ => ?_) ?_
  · exact (read _).bind fun value => .pure (by simp)
  refine .pass _ fun _ => .pass _ fun _ => .ite (.pass _ fun _ => .pass _ fun _ => .pass _ fun _ => ?_) ?_
  · refine (read _).bind fun type => .pass _ fun _ => ?_
    exact .andThen (read _) fun value => .pure (by simp)
  refine .pass _ fun _ => .ite (.pass _ fun _ => .pass _ fun _ => .pass _ fun _ => ?_) ?_
  · exact (Reads.within _ (read _)).bind fun value => .pure (by simp)
  refine (read _).bind fun value => .pass _ fun _ => .pass _ fun _ => .ite ?_ (.pure (by simp))
  exact (simpleTarget_reads value).bind fun target => .pass _ fun _ => .pure (by simp)

theorem joinOperands_reads (sign : Punctuator) (left right : Node) :
    Reads (left.marks ++ right.marks) (joinOperands sign left right) Node.marks := by
  unfold joinOperands
  split
  · exact .pass _ fun _ => .pure (by simp)
  · exact .pure (by simp)
  · exact .pure (by simp)
  · exact .pass _ fun _ => .pure (by simp)
  · exact .pure (by simp)

theorem operatorStep_reads (read : rules.Read) (level : Nat) (left : Node) :
    Reads left.marks (operatorStep rules level left) fun next => (next.getD left).marks := by
  have stays : Reads left.marks (return none) fun next => (next.getD left).marks :=
    .pure (List.Sublist.refl _)
  apply Reads.pass lexeme
  intro lexeme
  split
  · refine .ite stays (.pass _ fun _ => .ite (.pass _ fun _ => ?_) ?_)
    · exact .andThen (read _) fun right => .pure (by simp)
    refine .pass _ fun _ => .pass _ fun _ => .ite (.pass _ fun _ => ?_) stays
    exact .andThen (read _) fun type => .pure (by simp)
  · apply Reads.pass _
    intro sign
    split
    · exact stays
    split
    · exact stays
    refine .ite stays (.pass _ fun _ => .pass _ fun _ => .andThen (read _) fun right => ?_)
    exact (joinOperands_reads ..).bind fun value => .pure (by simp)

theorem leftOperand_reads (read : rules.Read) : Reads [] (leftOperand rules) Node.marks := by
  apply Reads.pass lexeme
  intro lexeme
  split
  · exact .pass _ fun _ => .pass _ fun _ => .pass _ fun _ => .pure (by simp)
  · exact read _

theorem binary_reads (read : rules.Read) (level : Nat) : Reads [] (binary rules level) Node.marks :=
  (leftOperand_reads read).bind fun first => .iterate _ (operatorStep_reads read level) first

/-! ## Arrow functions -/

theorem arrowBody_reads (read : rules.Read) (awaiting arrowTypes : Bool) :
    Reads [] (arrowBody rules awaiting arrowTypes) Node.marks := by
  refine .pass _ fun _ => .pass _ fun _ => .pass _ fun _ => .pass _ fun _ => .pass _ fun _ => ?_
  exact .pass _ fun _ => .ite (.within _ (functionBody_reads read)) (.within _ (read _))

/-- The marks of what stands before an arrow. -/
def ArrowHead.marks (head : ArrowHead) : List Mark := Node.marksOfAll (head.parameters ++ head.result)

theorem arrowHead_reads (read : rules.Read) : Reads [] (arrowHead rules) ArrowHead.marks := by
  apply (typeParameters?_reads read).bind
  intro typeParameters
  apply Reads.andThen (parameters_reads read)
  intro parameters
  exact .andThen (resultAnnotation?_reads read _) fun result => .pure (by simp [ArrowHead.marks])

theorem arrowFunction_reads (read : rules.Read) (arrowTypes : Bool) :
    Reads [] (arrowFunction rules arrowTypes) Node.marks := by
  refine .pass _ fun _ => .bind (.within _ (arrowHead_reads read)) fun head => ?_
  refine .andThen (arrowBody_reads read ..) fun body => .pass _ fun _ => .pass _ fun _ => ?_
  exact .pure (by simp [ArrowHead.marks])

theorem arrowFunction?_reads (read : rules.Read) (arrowTypes : Bool) :
    Reads [] (arrowFunction? rules arrowTypes) (Reads.ofOption Node.marks) := by
  apply Reads.pass _
  intro guess
  split
  · exact .pure (List.Sublist.refl _)
  · exact (arrowFunction_reads read arrowTypes).bind fun function => .pure (List.Sublist.refl _)
  · exact .attempt _ (arrowFunction_reads read arrowTypes)

/-! ## Assignments and lists -/

theorem yieldExpression_reads (read : rules.Read) :
    Reads [] (yieldExpression rules) Node.marks := by
  refine .pass _ fun _ => .pass _ fun _ => .pass _ fun _ => .pass _ fun _ => .ite (.pure (by simp)) ?_
  refine .pass _ fun _ => .pass _ fun _ => .ite (.pure (by simp)) ?_
  exact (read _).bind fun value => .pure (by simp)

theorem assignmentRest_reads (read : rules.Read) (arrowTypes : Bool) (left : Node) :
    Reads left.marks (assignmentRest rules arrowTypes left) Node.marks := by
  have updates : Reads left.marks (do
      let target ← simpleTarget left
      asOperator
      advance
      return .compound .update [target, ← rules (.assignment arrowTypes)]) Node.marks := by
    refine (simpleTarget_reads left).bind fun target => .pass _ fun _ => .pass _ fun _ => ?_
    exact .andThen (read _) fun value => .pure (by simp)
  apply Reads.pass _
  intro sign
  split
  · refine (target_reads left).bind fun target => .pass _ fun _ => ?_
    exact .andThen (read _) fun value => .pure (by simp)
  · exact updates
  · exact updates
  · refine .pass _ fun _ => .andThen (.within _ (read _)) fun yes => .pass _ fun _ => ?_
    exact .andThen (read _) fun no => .pure (by simp)
  · exact .pure (by simp)

theorem assignment_reads (read : rules.Read) (arrowTypes : Bool) :
    Reads [] (assignment rules arrowTypes) Node.marks := by
  refine .pass _ fun _ => .ite (yieldExpression_reads read) ?_
  apply (arrowFunction?_reads read arrowTypes).bind
  intro arrow
  split
  · exact .pure (by simp)
  refine .pass _ fun _ => .ite (.pass _ fun _ => identifier_reads.bind fun parameter => ?_) ?_
  · exact .andThen (arrowBody_reads read ..) fun body => .pure (by simp)
  apply (read _).bind
  intro left
  split
  · refine .pass _ fun _ => .ite ?_ (assignmentRest_reads read arrowTypes _)
    exact .andThen (arrowBody_reads read ..) fun body => .pure (by simp)
  · exact assignmentRest_reads read arrowTypes _

theorem expression_reads (read : rules.Read) : Reads [] (expression rules) Node.marks := by
  refine (read _).bind fun first => .andThen (.many Node.marks ?_) fun later => ?_
  · refine .pass _ fun _ => .ite ?_ (.pure (by simp))
    exact (read _).bind fun value => .pure (by simp)
  · exact .ite (.pure (by simp)) (.pure (by simp))

end ClassRename.Script
