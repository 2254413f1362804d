import ClassRename.Script.Grammar.Type
import ClassRename.Proofs.Grammar.Names

/-! # Types read their marks

A type keeps the marks of its parts: an object literal can stand in one as the options of an import.
-/

namespace ClassRename.Script

open Script.Parser

variable {rules : Rules}

/-! ## Members of object types -/

theorem signature_reads (read : rules.Read) : Reads [] (signature rules) Node.marksOfAll := by
  apply (typeParameters?_reads read).bind
  intro typeParameters
  apply Reads.andThen (parameters_reads read)
  intro parameters
  exact .andThen (resultAnnotation?_reads read _) fun result => .pure (by simp)

theorem indexSignature_reads (read : rules.Read) :
    Reads [] (indexSignature rules) Node.marksOfAll := by
  refine .pass _ fun _ => .bind (.commaList Node.marks ?_) fun parameters => .pass _ fun _ => ?_
  · apply identifier_reads.bind
    intro name
    exact .andThen (annotation?_reads read) fun type => .pure (by simp)
  · exact .andThen (annotation?_reads read) fun type => .pure (by simp)

theorem typeMemberRest_reads (read : rules.Read) (accesses : Bool) :
    Reads [] (typeMemberRest rules accesses) Node.marksOfAll := by
  refine .ite (signature_reads read) (.pass _ fun _ => .pass _ fun _ => .ite ?_ ?_)
  · exact signature_reads read
  · exact annotation?_reads read

theorem typeMember_reads (read : rules.Read) : Reads [] (typeMember rules) Node.marks := by
  refine .pass _ fun _ => .ite ?_ (.pass _ fun _ => .pass _ fun _ => .ite (.pass _ fun _ => ?_) ?_)
  · exact (signature_reads read).bind fun parts => .pass _ fun _ => .pure (by simp)
  · exact (signature_reads read).bind fun parts => .pass _ fun _ => .pure (by simp)
  · refine .pass _ fun _ => .pass _ fun _ => .pass _ fun _ => .ite ?_ (.pass _ fun _ => ?_)
    · exact (indexSignature_reads read).bind fun parts => .pass _ fun _ => .pure (by simp)
    · apply (memberKey_reads read).bind
      intro key
      apply Reads.andThen (typeMemberRest_reads read _)
      intro parts
      exact .pass _ fun _ => .pure (by simp)

theorem typeMembers_reads (read : rules.Read) : Reads [] (typeMembers rules) Node.marks := by
  refine .pass _ fun _ => .bind (.upTo _ (typeMember_reads read)) fun members => ?_
  exact .pass _ fun _ => .pure (by simp)

theorem mappedType_reads (read : rules.Read) : Reads [] (mappedType rules) Node.marks := by
  refine .pass _ fun _ => .pass _ fun _ => .pass _ fun _ => identifier_reads.bind fun name => ?_
  refine .pass _ fun _ => .andThen (read _) fun bound => ?_
  refine .andThen (.optional _ (read _)) fun renamed => .pass _ fun _ => .pass _ fun _ => ?_
  apply Reads.andThen (annotation?_reads read)
  intro value
  exact .pass _ fun _ => .pass _ fun _ => .pure (by simp)

/-! ## Tight types -/

theorem nameOrWord_reads (words : List String) : Reads [] (nameOrWord words) Node.marks :=
  .pass _ fun _ => .ite anyName_reads identifier_reads

/-- Names after dots. -/
theorem dottedNames_reads :
    Reads [] (many do if ← take .dot then return some (← anyName) else return none)
      Node.marksOfAll := by
  refine .many Node.marks (.pass _ fun _ => .ite ?_ (.pure (by simp)))
  exact anyName_reads.bind fun name => .pure (by simp)

theorem qualifiedName_reads : Reads [] qualifiedName Node.marks := by
  apply (nameOrWord_reads _).bind
  intro first
  exact .andThen dottedNames_reads fun later => .pure (by simp)

theorem typeArgumentsOnLine?_reads (read : rules.Read) :
    Reads [] (typeArgumentsOnLine? rules) Node.marksOfAll :=
  .pass _ fun _ => .ite (.pure (by simp)) (typeArguments?_reads read)

theorem typeReference_reads (read : rules.Read) : Reads [] (typeReference rules) Node.marks := by
  apply qualifiedName_reads.bind
  intro name
  exact .andThen (typeArgumentsOnLine?_reads read) fun arguments => .pure (by simp)

theorem importOptions_reads (read : rules.Read) :
    Reads [] (importOptions rules) Node.marksOfAll := by
  refine .pass _ fun _ => .ite (.pure (by simp)) ((read _).bind fun options => ?_)
  exact .pass _ fun _ => .pure (by simp)

theorem importType_reads (read : rules.Read) : Reads [] (importType rules) Node.marks := by
  refine .pass _ fun _ => .pass _ fun _ => (read _).bind fun argument => ?_
  refine .andThen (.optionalList (importOptions_reads read) rfl) fun options => .pass _ fun _ => ?_
  apply Reads.andThen dottedNames_reads
  intro names
  exact .andThen (typeArguments?_reads read) fun arguments => .pure (by simp)

theorem typeQuery_reads (read : rules.Read) : Reads [] (typeQuery rules) Node.marks := by
  refine .pass _ fun _ => .pass _ fun _ => .ite (importType_reads read) ?_
  refine (nameOrWord_reads _).bind fun first => .andThen (.many Node.marks ?_) fun later => ?_
  · refine .pass _ fun _ => .ite (.pass lexeme fun lexeme => ?_) (.pure (by simp))
    split
    · exact .pass _ fun _ => .pure (by simp)
    · exact anyName_reads.bind fun name => .pure (by simp)
  · exact .andThen (typeArgumentsOnLine?_reads read) fun arguments => .pure (by simp)

theorem tupleElement_reads (read : rules.Read) : Reads [] (tupleElement rules) Node.marks := by
  refine .pass _ fun _ => .pass _ fun _ => .pass _ fun _ => .ite ?_ (read _)
  refine anyName_reads.bind fun name => .pass _ fun _ => .pass _ fun _ => ?_
  exact .andThen (read _) fun type => .pure (by simp)

theorem templateType_reads (read : rules.Read) : Reads [] (templateType rules) Node.marks := by
  refine .bind (.many Node.marks (.pass lexeme fun lexeme => ?_)) fun types => .pure (by simp)
  split
  · refine .pass _ fun _ => (read _).bind fun inner => ?_
    exact .pass _ fun _ => .pass _ fun _ => .pass _ fun _ => .pure (by simp)
  · exact .pass _ fun _ => .pure (by simp)
  · exact .fail

theorem assertionType_reads (read : rules.Read) : Reads [] (assertionType rules) Node.marks := by
  refine .pass _ fun _ => .pass _ fun _ => .pass _ fun _ => .ite ?_ (.pure (by simp))
  exact (read _).bind fun type => .pure (by simp)

/-- A type that is one word or number. -/
theorem typeWord_reads (before : Parser Unit) :
    Reads [] (do before; return Node.ofType []) Node.marks :=
  .pass _ fun _ => .pure (by simp)

theorem atomicType_reads (read : rules.Read) : Reads [] (atomicType rules) Node.marks := by
  apply Reads.pass lexeme
  intro lexeme
  split
  · refine .ite (typeWord_reads _) (.ite (.pass _ fun _ => .ite ?_ ?_) ?_)
    · exact resultType_reads read
    · exact typeReference_reads read
    refine .ite (typeQuery_reads read) (.ite (importType_reads read) ?_)
    refine .pass _ fun _ => .ite (assertionType_reads read) (.pass _ fun _ => .ite ?_ ?_)
    · exact typeWord_reads _
    · exact typeReference_reads read
  · exact stringLiteral_reads.bind fun literal => .pure (by simp)
  · exact typeWord_reads _
  · exact typeWord_reads _
  · exact templateType_reads read
  · split
    · refine .pass _ fun _ => .pass _ fun lexeme => ?_
      split
      · exact typeWord_reads _
      · exact typeWord_reads _
      · exact .fail
    · exact .pass _ fun _ => .ite (mappedType_reads read) (typeMembers_reads read)
    · refine .pass _ fun _ => .bind (.commaList _ (tupleElement_reads read)) fun elements => ?_
      exact .pass _ fun _ => .pure (by simp)
    · refine .pass _ fun _ => .bind (.within _ (read _)) fun inner => ?_
      exact .pass _ fun _ => .pure (by simp)
    · refine .pass _ fun _ => .pass _ fun _ => .ite (.pure (by simp)) ?_
      exact (read _).bind fun type => .pure (by simp)
    · exact .pass _ fun _ => (read _).bind fun type => .pure (by simp)
    · exact .fail
  · exact .fail

theorem typeSuffix_reads (read : rules.Read) (inner : Node) :
    Reads inner.marks (typeSuffix rules inner) fun next => (next.getD inner).marks := by
  refine .pass _ fun _ => .ite (.pure (by simp)) (.pass _ fun _ => .ite ?_ (.pass _ fun _ => ?_))
  · exact .pass _ fun _ => .pure (by simp)
  refine .ite (.pass _ fun _ => .ite (.pure (by simp)) ?_) (.pass _ fun _ => .ite ?_ ?_)
  · exact .pass _ fun _ => .pure (by simp)
  · refine .pass _ fun _ => .ite (.andThen (.within _ (read _)) fun index => ?_) ?_
    · exact .pass _ fun _ => .pure (by simp)
    · exact .pass _ fun _ => .pure (by simp)
  · exact .pure (by simp)

theorem inferredType_reads (read : rules.Read) : Reads [] (inferredType rules) Node.marks := by
  refine .pass _ fun _ => identifier_reads.bind fun name => ?_
  refine .andThen (.attempt Node.marks (.pass _ fun _ => ?_)) fun bound => ?_
  · apply Reads.bind (.within _ (read _))
    intro bound
    exact .pass _ fun _ => .pass _ fun _ => .pass _ fun _ => .pure (by simp)
  · refine .pure ?_
    cases bound <;> simp

theorem tightType_reads (read : rules.Read) : Reads [] (tightType rules) Node.marks := by
  refine .pass _ fun _ => .ite (.pass _ fun _ => ?_) (.pass _ fun _ => .ite ?_ ?_)
  · exact (read _).bind fun type => .pure (by simp)
  · exact inferredType_reads read
  · exact (atomicType_reads read).bind fun inner => .iterate _ (typeSuffix_reads read) inner

/-! ## Loose types -/

theorem joinedTypes_reads {sign : Punctuator} {operand : Parser Node}
    (reads : Reads [] operand Node.marks) : Reads [] (joinedTypes sign operand) Node.marks := by
  refine .pass _ fun _ => reads.bind fun first => .andThen (.many Node.marks ?_) fun later => ?_
  · refine .pass _ fun _ => .ite ?_ (.pure (by simp))
    exact reads.bind fun type => .pure (by simp)
  · exact .ite (.pure (by simp)) (.pure (by simp))

theorem functionType_reads (read : rules.Read) : Reads [] (functionType rules) Node.marks := by
  refine .pass _ fun _ => .pass _ fun _ => (typeParameters?_reads read).bind fun typeParameters => ?_
  refine .andThen (parameters_reads read) fun parameters => .pass _ fun _ => ?_
  exact .andThen (resultType_reads read) fun result => .pure (by simp)

theorem unionOperand_reads (read : rules.Read) : Reads [] (unionOperand rules) Node.marks :=
  .pass _ fun _ => .ite (functionType_reads read) (joinedTypes_reads (read _))

theorem type_reads (read : rules.Read) : Reads [] (type rules) Node.marks := by
  refine .pass _ fun _ => .ite (functionType_reads read) ?_
  apply (joinedTypes_reads (unionOperand_reads read)).bind
  intro checked
  refine .pass _ fun _ => .pass _ fun _ => .pass _ fun _ => .ite (.pass _ fun _ => ?_) ?_
  · refine .andThen (.within _ (read _)) fun bound => .pass _ fun _ => ?_
    refine .andThen (.within _ (read _)) fun yes => .pass _ fun _ => ?_
    exact .andThen (.within _ (read _)) fun no => .pure (by simp)
  · exact .pure (by simp)

end ClassRename.Script
