import ClassRename.Script.Grammar.Statement
import ClassRename.Proofs.Grammar.Expressions

/-! # Statements read their marks

The head of a loop is read before what kind of loop it is can be told, so the marks of the head are
carried into the rest.
-/

namespace ClassRename.Script

open Script.Parser

variable {rules : Rules}

/-! ## Variables and blocks -/

theorem declarator_reads (read : rules.Read) (kind : VariableKind) (inLoopHead : Bool) :
    Reads [] (declarator rules kind inLoopHead) Node.marks := by
  refine (read _).bind fun target => .pass _ fun _ => ?_
  apply Reads.andThen (annotation?_reads read)
  intro type
  apply Reads.andThen (.optional _ (read _))
  intro value
  exact .pass _ fun _ => .pass _ fun _ => .pure (by simp)

theorem declarators_reads (read : rules.Read) (kind : VariableKind) (inLoopHead : Bool) :
    Reads [] (declarators rules kind inLoopHead) Node.marksOfAll :=
  .commaSeparated _ (declarator_reads read kind inLoopHead)

theorem variableStatement_reads (read : rules.Read) (kind : VariableKind) (place : Place) :
    Reads [] (variableStatement rules kind place) Node.marks := by
  refine .pass _ fun _ => (declarators_reads read ..).bind fun declarators => ?_
  exact .pass _ fun _ => .pass _ fun _ => .pure (by simp)

theorem block_reads (read : rules.Read) : Reads [] (block rules) Node.marks := by
  refine .pass _ fun _ => .bind (.upTo _ (read _)) fun statements => ?_
  exact .pass _ fun _ => .pure (by simp)

theorem headExpression_reads (read : rules.Read) : Reads [] (headExpression rules) Node.marks := by
  refine .pass _ fun _ => .bind (.within _ (read _)) fun inner => ?_
  exact .pass _ fun _ => .pure (by simp)

theorem functionStatement_reads (read : rules.Read) (place : Place) (need : BodyNeed) :
    Reads [] (functionStatement rules place need) Node.marks := by
  refine .pass _ fun _ => functionFrom_reads read _ _ fun yielding => .pass _ fun _ => ?_
  exact identifier_reads.bind fun name => .pure (by simp)

theorem classStatement_reads (read : rules.Read) (place : Place) (decorators : List Node) :
    Reads (Node.marksOfAll decorators) (classStatement rules place decorators) Node.marks :=
  .pass _ fun _ => classFrom_reads read decorators true

/-! ## Branches and loops -/

theorem ifStatement_reads (read : rules.Read) : Reads [] (ifStatement rules) Node.marks := by
  refine .pass _ fun _ => (headExpression_reads read).bind fun condition => ?_
  apply Reads.andThen (read _)
  intro yes
  exact .andThen (.optional _ (read _)) fun no => .pure (by simp)

theorem caseLabel_reads (read : rules.Read) : Reads [] (caseLabel rules) Node.marksOfAll := by
  refine .pass _ fun _ => .ite (.pure (by simp)) (.pass _ fun _ => ?_)
  exact (read _).bind fun label => .pure (by simp)

theorem switchCase_reads (read : rules.Read) : Reads [] (switchCase rules) Node.marks := by
  refine (caseLabel_reads read).bind fun label => .pass _ fun _ => ?_
  refine .andThen (.many Node.marks ?_) fun statements => .pure (by simp)
  refine .pass _ fun _ => .pass _ fun _ => .ite (.pure (by simp)) ?_
  exact (read _).bind fun statement => .pure (by simp)

theorem switchStatement_reads (read : rules.Read) : Reads [] (switchStatement rules) Node.marks := by
  refine .pass _ fun _ => (headExpression_reads read).bind fun value => .pass _ fun _ => ?_
  apply Reads.andThen (.upTo _ (switchCase_reads read))
  intro cases
  exact .pass _ fun _ => .pure (by simp)

theorem catchParameter_reads (read : rules.Read) :
    Reads [] (catchParameter rules) Node.marksOfAll := by
  refine (read _).bind fun target => .andThen (annotation?_reads read) fun type => ?_
  exact .pass _ fun _ => .pure (by simp)

theorem catchClause_reads (read : rules.Read) : Reads [] (catchClause rules) Node.marksOfAll := by
  apply Reads.bind (.optionalList (catchParameter_reads read) rfl)
  intro parameter
  exact .andThen (block_reads read) fun handler => .pure (by simp)

theorem tryStatement_reads (read : rules.Read) : Reads [] (tryStatement rules) Node.marks := by
  refine .pass _ fun _ => (block_reads read).bind fun body => ?_
  apply Reads.andThen (.optionalList (catchClause_reads read) rfl)
  intro handler
  apply Reads.andThen (.optional _ (block_reads read))
  intro final
  exact .pass _ fun _ => .pure (by simp)

theorem loopedValue_reads (read : rules.Read) : Reads [] (loopedValue rules) Node.marks :=
  .pass _ fun _ => .ite (read _) (.pass _ fun _ => read _)

theorem eachLoop_reads (read : rules.Read) (awaits : Bool) (head : List Node) :
    Reads (Node.marksOfAll head) (eachLoop rules awaits head) Node.marks := by
  refine .pass _ fun _ => .pass _ fun _ => .andThen (loopedValue_reads read) fun value => ?_
  exact .pass _ fun _ => .andThen (read _) fun body => .pure (by simp)

theorem countingLoop_reads (read : rules.Read) (awaits : Bool) (head : List Node) :
    Reads (Node.marksOfAll head) (countingLoop rules awaits head) Node.marks := by
  refine .pass _ fun _ => .andThen (.optional _ (read _)) fun condition => .pass _ fun _ => ?_
  refine .andThen (.optional _ (read _)) fun step => .pass _ fun _ => .pass _ fun _ => ?_
  exact .andThen (read _) fun body => .pure (by simp)

theorem declaringLoop_reads (read : rules.Read) (kind : VariableKind) (awaits : Bool) :
    Reads [] (declaringLoop rules kind awaits) Node.marks := by
  apply Reads.bind (.within _ (declarators_reads read kind true))
  intro declarators
  refine .pass _ fun _ => .ite (.pass _ fun _ => ?_) ?_
  · exact eachLoop_reads read awaits declarators
  · exact countingLoop_reads read awaits declarators

theorem forStatement_reads (read : rules.Read) : Reads [] (forStatement rules) Node.marks := by
  refine .pass _ fun _ => .pass _ fun awaits => .pass _ fun _ => .pass _ fun _ => .pass _ fun _ => ?_
  refine .pass _ fun _ => .ite (countingLoop_reads read awaits []) ?_
  refine .pass _ fun _ => .ite (declaringLoop_reads read ..) ?_
  refine .pass _ fun _ => .ite (declaringLoop_reads read ..) ?_
  refine .pass _ fun _ => .ite (.pass _ fun _ => declaringLoop_reads read ..) ?_
  refine .pass _ fun _ => .pass _ fun _ => .ite (.pass _ fun _ => declaringLoop_reads read ..) ?_
  refine .pass _ fun _ => .ite (.pass _ fun _ => .pass _ fun _ => declaringLoop_reads read ..) ?_
  refine .pass _ fun _ => .pass _ fun _ => .pass _ fun _ => .bind (.within _ (read _)) fun head => ?_
  refine .pass _ fun _ => .ite (.pass _ fun _ => .pass _ fun _ => ?_) ?_
  · apply (target_reads head).bind
    intro target
    simpa using eachLoop_reads read awaits [target]
  · simpa using countingLoop_reads read awaits [head]

theorem whileStatement_reads (read : rules.Read) : Reads [] (whileStatement rules) Node.marks := by
  refine .pass _ fun _ => (headExpression_reads read).bind fun condition => ?_
  exact .andThen (read _) fun body => .pure (by simp)

theorem doStatement_reads (read : rules.Read) : Reads [] (doStatement rules) Node.marks := by
  refine .pass _ fun _ => (read _).bind fun body => .pass _ fun _ => ?_
  apply Reads.andThen (headExpression_reads read)
  intro condition
  exact .pass _ fun _ => .pure (by simp)

/-! ## Jumps and expressions -/

theorem jumpStatement_reads : Reads [] jumpStatement Node.marks :=
  .pass _ fun _ => .pass _ fun _ => .pass _ fun _ => .pure (by simp)

theorem returnStatement_reads (read : rules.Read) :
    Reads [] (returnStatement rules) Node.marks := by
  refine .pass _ fun _ => .pass _ fun _ => .pass _ fun _ => .bind (.optional _ (read _)) ?_
  exact fun value => .pass _ fun _ => .pure (by simp)

theorem throwStatement_reads (read : rules.Read) : Reads [] (throwStatement rules) Node.marks := by
  refine .pass _ fun _ => .pass _ fun _ => .pass _ fun _ => (read _).bind fun value => ?_
  exact .pass _ fun _ => .pure (by simp)

theorem expressionStatement_reads (read : rules.Read) :
    Reads [] (expressionStatement rules) Node.marks := by
  apply (read _).bind
  intro value
  split
  · refine .pass _ fun _ => .ite (.andThen (read _) fun body => .pure (by simp)) ?_
    exact .pass _ fun _ => .pure (by simp)
  · exact .pass _ fun _ => .pure (by simp)

end ClassRename.Script
