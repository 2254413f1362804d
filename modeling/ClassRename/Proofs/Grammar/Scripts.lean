import ClassRename.Script.Grammar
import ClassRename.Proofs.Grammar.Declarations

/-! # Scripts read their marks

Every rule of the grammar reads the marks of its tree when the rules that it calls on do. By induction
on the depth to which phrases nest all of them do, and so does a whole script: the tree of a script
that is read marks the script truly.
-/

namespace ClassRename.Script

open Script.Parser

variable {rules : Rules}

theorem decoratedStatement_reads (read : rules.Read) (place : Place) :
    Reads [] (decoratedStatement rules place) Node.marks := by
  apply (decorators_reads read).bind
  intro decorators
  refine .pass _ fun _ => .ite (exportDeclaration_reads read decorators) ?_
  refine .pass _ fun _ => .ite (classStatement_reads read place decorators) ?_
  exact .pass _ fun _ => .ite (typedDeclaration_reads read decorators) .fail

theorem wordStatement_reads (read : rules.Read) (place : Place) (word : String) :
    Reads [] (wordStatement rules place word) Node.marks := by
  unfold wordStatement
  split
  · exact ifStatement_reads read
  · exact forStatement_reads read
  · exact whileStatement_reads read
  · exact doStatement_reads read
  · exact jumpStatement_reads
  · exact jumpStatement_reads
  · exact returnStatement_reads read
  · exact throwStatement_reads read
  · exact switchStatement_reads read
  · exact tryStatement_reads read
  · refine .pass _ fun _ => (headExpression_reads read).bind fun scope => ?_
    exact .andThen (read _) fun body => .pure (by simp)
  · exact .pass _ fun _ => .pass _ fun _ => .pure (by simp)
  · exact functionStatement_reads read ..
  · exact classStatement_reads read place []
  · exact variableStatement_reads read ..
  · refine .pass _ fun _ => .pass _ fun _ => .ite (typedDeclaration_reads read []) ?_
    exact variableStatement_reads read ..
  · exact .pass _ fun _ => .ite (variableStatement_reads read ..) (expressionStatement_reads read)
  · exact exportDeclaration_reads read []
  · exact .pass _ fun _ => .ite (expressionStatement_reads read) importDeclaration_reads
  · refine .pass _ fun _ => .ite (functionStatement_reads read ..) ?_
    refine .pass _ fun _ => .ite (typedDeclaration_reads read []) ?_
    refine .pass _ fun _ => .ite (variableStatement_reads read ..) ?_
    refine .pass _ fun _ => .ite (.pass _ fun _ => ?_) (expressionStatement_reads read)
    exact variableStatement_reads read ..

theorem statement_reads (read : rules.Read) (place : Place) :
    Reads [] (statement rules place) Node.marks := by
  apply Reads.pass lexeme
  intro lexeme
  split
  · exact block_reads read
  · exact .pass _ fun _ => .pure (by simp)
  · exact decoratedStatement_reads read place
  · exact wordStatement_reads read place _
  · exact expressionStatement_reads read

/-- Each rule reads the marks of its tree when those that it calls on do. -/
theorem ruleOf_reads (read : rules.Read) : (ruleOf rules).Read
  | .expression => expression_reads read
  | .assignment arrowTypes => assignment_reads read arrowTypes
  | .binary level => binary_reads read level
  | .unary => unary_reads read
  | .leftHandSide => leftHandSide_reads read
  | .constructed => constructed_reads read
  | .binding => binding_reads read
  | .element nested => element_reads read nested
  | .type => type_reads read
  | .tightType => tightType_reads read
  | .statement place => statement_reads read place

theorem rulesTo_reads (depth : Nat) : (rulesTo depth).Read := by
  induction depth with
  | zero => exact fun _ => .fail
  | succ depth ih => exact ruleOf_reads ih

theorem program_reads (read : rules.Read) : Reads [] (program rules) Node.marks := by
  refine .bind (.many Node.marks ?_) fun statements => .pure (by simp)
  refine .pass _ fun _ => .ite (.pure (by simp)) ?_
  exact (read _).bind fun statement => .pure (by simp)

/-- The tree of a script that is read marks the script truly. -/
theorem placed_of_parse {dialect : Dialect} {source : String} {tree : Node}
    (parsed : parse dialect source = .ok tree) : Placed source.toList tree := by
  unfold parse at parsed
  dsimp only at parsed
  split at parsed
  · cases parsed
  · next tree' state onward done =>
    split at parsed
    · cases parsed
    · cases parsed
      have text : (State.start dialect source.toList).text = source.toList := State.text_start ..
      have between := program_reads (rulesTo_reads _) done (.nil (Nat.zero_le _))
      rw [text] at between
      exact ⟨between.stands, between.ordered⟩

end ClassRename.Script
