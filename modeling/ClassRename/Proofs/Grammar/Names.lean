import ClassRename.Script.Grammar.Binding
import ClassRename.Proofs.Grammar.Reads

/-! # Names, annotations and patterns read their marks

One lemma for each rule of the grammar; each goes along the steps of the rule.
-/

namespace ClassRename.Script

open Script.Parser

variable {rules : Rules}

/-! ## Names -/

theorem identifier_reads : Reads [] identifier Node.marks := by
  apply Reads.pass lexeme
  intro lexeme
  split
  · refine .pass _ fun _ => .pass _ fun _ => .pass _ fun _ => .pass _ fun _ => .pass _ fun _ => ?_
    exact .pure (by simp)
  · exact .fail

theorem anyName_reads : Reads [] anyName Node.marks := by
  apply Reads.pass lexeme
  intro lexeme
  split
  · exact .pass _ fun _ => .pure (by simp)
  · exact .fail

theorem stringLiteral_reads : Reads [] stringLiteral Node.marks := by
  apply (Reads.takeToken _).bind
  intro token
  split
  · next isString => exact .pure (by simp [Token.mark?, isString])
  · exact .fail

theorem externalName_reads : Reads [] externalName Node.marks := by
  apply Reads.pass lexeme
  intro lexeme
  split
  · exact stringLiteral_reads
  · exact anyName_reads

theorem memberKey_reads (read : rules.Read) : Reads [] (memberKey rules) Node.marks := by
  apply Reads.pass lexeme
  intro lexeme
  split
  · exact anyName_reads
  · exact stringLiteral_reads
  · exact .pass _ fun _ => .pure (by simp)
  · exact .pass _ fun _ => .pure (by simp)
  · refine .pass advance fun _ => .bind (.within _ (read _)) fun key => ?_
    exact .pass _ fun _ => .pure (by simp)
  · exact .fail

theorem classMemberKey_reads (read : rules.Read) : Reads [] (classMemberKey rules) Node.marks := by
  apply Reads.pass lexeme
  intro lexeme
  split
  · exact .pass _ fun _ => .pure (by simp)
  · exact memberKey_reads read

/-! ## Annotations -/

theorem typeArguments_reads (read : rules.Read) : Reads [] (typeArguments rules) Node.marks := by
  refine .pass _ fun _ => .pass _ fun _ => .bind (.commaList _ (read _)) fun arguments => ?_
  exact .pass _ fun _ => .pass _ fun _ => .pure (by simp)

theorem typeArguments?_reads (read : rules.Read) :
    Reads [] (typeArguments? rules) Node.marksOfAll := by
  refine .pass _ fun _ => .pass _ fun _ => .ite ?_ (.pure (by simp))
  exact (typeArguments_reads read).bind fun arguments => .pure (by simp)

theorem typeParameter_reads (read : rules.Read) : Reads [] (typeParameter rules) Node.marks := by
  refine .pass _ fun _ => .bind identifier_reads fun name => ?_
  apply Reads.andThen (.optional _ (read _))
  intro bound
  exact .andThen (.optional _ (read _)) fun default => .pure (by simp)

theorem typeParameters?_reads (read : rules.Read) :
    Reads [] (typeParameters? rules) Node.marksOfAll := by
  refine .pass _ fun _ => .pass _ fun _ => .ite ?_ (.pure (by simp))
  refine .pass _ fun _ => .bind (.commaList _ (typeParameter_reads read)) fun parameters => ?_
  exact .pass _ fun _ => .pass _ fun _ => .pure (by simp)

theorem annotation?_reads (read : rules.Read) :
    Reads [] (annotation? rules) Node.marksOfAll := by
  refine .pass _ fun _ => .pass _ fun _ => .ite ?_ (.pure (by simp))
  exact .pass _ fun _ => (read _).bind fun type => .pure (by simp)

theorem resultType_reads (read : rules.Read) : Reads [] (resultType rules) Node.marks := by
  refine .pass _ fun _ => .ite ?_ (read _)
  exact .pass _ fun _ => .pass _ fun _ => (read _).bind fun type => .pure (by simp)

theorem resultAnnotation?_reads (read : rules.Read) (sign : Punctuator) :
    Reads [] (resultAnnotation? rules sign) Node.marksOfAll := by
  refine .pass _ fun _ => .pass _ fun _ => .ite ?_ (.pure (by simp))
  exact .pass _ fun _ => (resultType_reads read).bind fun type => .pure (by simp)

/-! ## Patterns and parameters -/

theorem initializer?_reads (read : rules.Read) :
    Reads [] (initializer? rules) Node.marksOfAll := by
  refine .pass _ fun _ => .ite ?_ (.pure (by simp))
  exact (Reads.within _ (read _)).bind fun value => .pure (by simp)

theorem bindingWithDefault_reads (read : rules.Read) :
    Reads [] (bindingWithDefault rules) Node.marks := by
  refine (read _).bind fun target => .andThen (initializer?_reads read) fun default => ?_
  split
  · exact .pure (by simp)
  · exact .pure (by simp)

theorem restBinding_reads (read : rules.Read) : Reads [] (restBinding rules) Node.marks := by
  refine .pass _ fun _ => (read _).bind fun target => ?_
  exact .pass _ fun _ => .pass _ fun _ => .pure (by simp)

theorem arrayPattern_reads (read : rules.Read) : Reads [] (arrayPattern rules) Node.marks := by
  refine .pass _ fun _ => .bind (.commaList Node.marks ?_) fun elements => ?_
  · refine .pass _ fun _ => .ite (.pure (by simp)) (.pass _ fun _ => .ite ?_ ?_)
    · exact restBinding_reads read
    · exact bindingWithDefault_reads read
  · exact .pass _ fun _ => .pure (by simp)

theorem patternMember_reads (read : rules.Read) : Reads [] (patternMember rules) Node.marks := by
  refine .pass _ fun _ => .ite (restBinding_reads read) (.pass _ fun _ => ?_)
  refine (memberKey_reads read).bind fun key => .pass _ fun _ => .ite ?_ (.pass _ fun _ => ?_)
  · exact .andThen (bindingWithDefault_reads read) fun target => .pure (by simp)
  · apply Reads.andThen (initializer?_reads read)
    intro default
    split
    · exact .pure (by simp)
    · exact .pure (by simp)

theorem objectPattern_reads (read : rules.Read) : Reads [] (objectPattern rules) Node.marks := by
  refine .pass _ fun _ => .bind (.commaList _ (patternMember_reads read)) fun members => ?_
  exact .pass _ fun _ => .pure (by simp)

theorem binding_reads (read : rules.Read) : Reads [] (binding rules) Node.marks := by
  refine .pass _ fun _ => .ite (arrayPattern_reads read) (.pass _ fun _ => .ite ?_ ?_)
  · exact objectPattern_reads read
  · exact identifier_reads

theorem decorator_reads (read : rules.Read) : Reads [] (decorator rules) Node.marks :=
  .pass _ fun _ => .within _ (read _)

theorem decorators_reads (read : rules.Read) : Reads [] (decorators rules) Node.marksOfAll := by
  refine .many Node.marks (.pass _ fun _ => .ite ?_ (.pure (by simp)))
  exact (decorator_reads read).bind fun decorator => .pure (by simp)

theorem parameter_reads (read : rules.Read) : Reads [] (parameter rules) Node.marks := by
  refine (decorators_reads read).bind fun decorators => .pass _ fun _ => .pass _ fun _ => ?_
  refine .ite (.pass _ fun _ => ?_) (.pass _ fun _ => .pass _ fun _ => .ite (.pass _ fun _ => ?_) ?_)
  · refine .andThen (read _) fun target => .andThen (annotation?_reads read) fun type => ?_
    apply Reads.andThen (initializer?_reads read)
    intro default
    exact .pass _ fun _ => .pass _ fun _ => .pass _ fun _ => .pure (by simp)
  · exact .andThen (annotation?_reads read) fun type => .pure (by simp)
  · refine .andThen (read _) fun target => .pass _ fun _ => ?_
    apply Reads.andThen (annotation?_reads read)
    intro type
    exact .andThen (initializer?_reads read) fun default => .pure (by simp)

theorem parameters_reads (read : rules.Read) : Reads [] (parameters rules) Node.marksOfAll := by
  refine .pass _ fun _ => .bind (.commaList _ (parameter_reads read)) fun parameters => ?_
  exact .pass _ fun _ => .pure (by simp)

end ClassRename.Script
