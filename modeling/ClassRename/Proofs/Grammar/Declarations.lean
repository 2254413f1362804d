import ClassRename.Script.Grammar.Declaration
import ClassRename.Proofs.Grammar.Statements

/-! # Declarations read their marks

Decorators stand before the words that tell what they belong to, so their marks are carried into the
declaration. The strings of import and export lists are in no tree, and only the path of a module has
a mark.
-/

namespace ClassRename.Script

open Script.Parser

variable {rules : Rules}

/-! ## Types and namespaces -/

theorem interfaceDeclaration_reads (read : rules.Read) :
    Reads [] (interfaceDeclaration rules) Node.marks := by
  refine .pass _ fun _ => identifier_reads.bind fun name => ?_
  apply Reads.andThen (typeParameters?_reads read)
  intro parameters
  apply Reads.andThen (.optionalList (.commaSeparated _ (typeReference_reads read)) rfl)
  intro parents
  exact .andThen (typeMembers_reads read) fun members => .pure (by simp)

theorem typeDeclaration_reads (read : rules.Read) : Reads [] (typeDeclaration rules) Node.marks := by
  refine .pass _ fun _ => identifier_reads.bind fun name => ?_
  refine .andThen (typeParameters?_reads read) fun parameters => .pass _ fun _ => ?_
  exact .andThen (read _) fun type => .pass _ fun _ => .pure (by simp)

theorem stringOrTemplate_reads : Reads [] stringOrTemplate Node.marks := by
  apply Reads.pass lexeme
  intro lexeme
  split
  · exact .pass _ fun _ => .pass _ fun _ => .pure (by simp)
  · exact stringLiteral_reads

theorem enumKey_reads : Reads [] enumKey Node.marks := by
  refine .pass _ fun _ => .ite (stringOrTemplate_reads.bind fun key => ?_) externalName_reads
  exact .pass _ fun _ => .pure (by simp)

theorem enumDeclaration_reads (read : rules.Read) : Reads [] (enumDeclaration rules) Node.marks := by
  refine .pass _ fun _ => identifier_reads.bind fun name => .pass _ fun _ => ?_
  refine .andThen (.commaList Node.marks ?_) fun members => .pass _ fun _ => .pure (by simp)
  apply enumKey_reads.bind
  intro key
  exact .andThen (initializer?_reads read) fun value => .pure (by simp)

theorem namespaceDeclaration_reads (read : rules.Read) :
    Reads [] (namespaceDeclaration rules) Node.marks := by
  refine .pass _ fun _ => .ite ?_ (.pass _ fun _ => .pass lexeme fun lexeme => ?_)
  · exact (block_reads read).bind fun body => .pure (by simp)
  split
  · refine stringLiteral_reads.bind fun name => .pass _ fun _ => .ite ?_ ?_
    · exact .andThen (block_reads read) fun body => .pure (by simp)
    · exact .pass _ fun _ => .pure (by simp)
  · refine identifier_reads.bind fun first => .andThen dottedNames_reads fun later => ?_
    exact .andThen (block_reads read) fun body => .pure (by simp)

theorem aliasedModule_reads : Reads [] aliasedModule Node.marks := by
  refine .pass _ fun _ => .pass _ fun _ => .ite ?_ qualifiedName_reads
  refine .pass _ fun _ => .pass _ fun _ => stringLiteral_reads.bind fun path => ?_
  exact .pass _ fun _ => .pure (by simp)

theorem importAlias_reads : Reads [] importAlias Node.marks := by
  refine identifier_reads.bind fun name => .pass _ fun _ => ?_
  exact .andThen aliasedModule_reads fun value => .pass _ fun _ => .pure (by simp)

theorem declarationRest_reads (read : rules.Read) (decorators : List Node) (need : BodyNeed) :
    Reads (Node.marksOfAll decorators) (declarationRest rules decorators need) Node.marks := by
  apply Reads.pass lexeme
  intro lexeme
  split
  · split
    · exact (interfaceDeclaration_reads read).drop
    · exact (typeDeclaration_reads read).drop
    · exact (enumDeclaration_reads read).drop
    · exact (namespaceDeclaration_reads read).drop
    · exact (namespaceDeclaration_reads read).drop
    · exact (namespaceDeclaration_reads read).drop
    · exact classFrom_reads read decorators true
    · exact (functionStatement_reads read ..).drop
    · exact (functionStatement_reads read ..).drop
    · exact (variableStatement_reads read ..).drop
    · exact (variableStatement_reads read ..).drop
    · refine .pass _ fun _ => .pass _ fun _ => .ite (.pass _ fun _ => ?_) ?_
      · exact (enumDeclaration_reads read).drop
      · exact (variableStatement_reads read ..).drop
    · exact .pass _ fun _ => importAlias_reads.drop
    · exact .fail
  · exact .fail

theorem typedDeclaration_reads (read : rules.Read) (decorators : List Node) :
    Reads (Node.marksOfAll decorators) (typedDeclaration rules decorators) Node.marks := by
  refine .pass _ fun modifiers => .pass _ fun _ => .pass _ fun _ => .pass _ fun _ => ?_
  exact .within _ (declarationRest_reads read decorators _)

/-! ## Imports and exports -/

theorem fromClause_reads : Reads [] fromClause Node.marks :=
  .pass _ fun _ => stringLiteral_reads

theorem moduleStatement_reads {path : Parser Node} (reads : Reads [] path Node.marks) :
    Reads [] (moduleStatement path) Node.marks :=
  reads.bind fun path => .pass _ fun _ => .pass _ fun _ => .pure (by simp)

theorem importDeclaration_reads : Reads [] importDeclaration Node.marks := by
  refine .pass _ fun _ => .pass lexeme fun lexeme => ?_
  split
  · exact moduleStatement_reads stringLiteral_reads
  · refine .pass _ fun _ => .pass _ fun _ => .pass _ fun _ => .pass _ fun _ => .ite importAlias_reads ?_
    exact .pass _ fun _ => moduleStatement_reads fromClause_reads

theorem exportList_reads : Reads [] exportList Node.marks := by
  refine .pass _ fun _ => .pass _ fun _ => .pass _ fun _ => .pass _ fun _ => .ite ?_ ?_
  · exact moduleStatement_reads fromClause_reads
  · exact .pass _ fun _ => .pass _ fun _ => .pure (by simp)

theorem exportAll_reads : Reads [] exportAll Node.marks :=
  .pass _ fun _ => .pass _ fun _ => moduleStatement_reads fromClause_reads

theorem exportDefault_reads (read : rules.Read) (decorators : List Node) :
    Reads (Node.marksOfAll decorators) (exportDefault rules decorators) Node.marks := by
  refine .pass _ fun _ => .andThen (decorators_reads read) fun later => ?_
  have ofClass : Reads (Node.marksOfAll decorators ++ Node.marksOfAll later)
      (classFrom rules (decorators ++ later) false) Node.marks := by
    simpa using classFrom_reads read (decorators ++ later) false
  refine .pass _ fun _ => .ite ofClass ?_
  refine .pass _ fun _ => .pass _ fun _ => .pass _ fun _ => .ite (.pass _ fun _ => ofClass) ?_
  refine .pass _ fun _ => .pass _ fun _ => .pass _ fun _ => .ite ?_ ?_
  · exact (interfaceDeclaration_reads read).drop
  refine .pass _ fun _ => .pass _ fun _ => .ite (.pass _ fun awaiting => ?_) ?_
  · exact (functionFrom_reads read _ _ (functionName?_reads awaiting)).drop
  · exact (read _).drop.bind fun value => .pass _ fun _ => .pure (by simp)

theorem typedExport?_reads (read : rules.Read) :
    Reads [] (typedExport? rules) (Reads.ofOption Node.marks) := by
  refine .pass _ fun _ => .ite (.pure (by simp)) (.pass _ fun _ => .ite ?_ ?_)
  · exact (read _).bind fun value => .pass _ fun _ => .pure (by simp)
  refine .pass _ fun _ => .ite (.pass _ fun _ => .pass _ fun _ => ?_) ?_
  · exact importAlias_reads.bind fun value => .pure (by simp)
  refine .pass _ fun _ => .pass _ fun _ => .ite (.pass _ fun _ => .pass _ fun _ => ?_) ?_
  · exact identifier_reads.bind fun name => .pass _ fun _ => .pure (by simp)
  refine .pass _ fun _ => .pass _ fun _ => .ite (.pass _ fun _ => .pass _ fun _ => .ite ?_ ?_) ?_
  · exact exportList_reads.bind fun value => .pure (by simp)
  · exact exportAll_reads.bind fun value => .pure (by simp)
  · exact .pure (by simp)

theorem exportedDeclaration_reads (read : rules.Read) (decorators : List Node) :
    Reads (Node.marksOfAll decorators) (exportedDeclaration rules decorators) Node.marks := by
  refine .pass _ fun _ => .ite (typedDeclaration_reads read decorators) ?_
  exact .pass _ fun _ => .pass _ fun _ => declarationRest_reads read decorators _

theorem exportDeclaration_reads (read : rules.Read) (decorators : List Node) :
    Reads (Node.marksOfAll decorators) (exportDeclaration rules decorators) Node.marks := by
  refine .pass _ fun _ => .pass _ fun _ => .ite exportList_reads.drop ?_
  refine .pass _ fun _ => .ite exportAll_reads.drop (.pass _ fun _ => .ite ?_ ?_)
  · exact exportDefault_reads read decorators
  apply Reads.andThen (typedExport?_reads read)
  intro found
  split
  · exact .pure (by simp)
  · apply Reads.andThen (decorators_reads read)
    intro later
    simpa using exportedDeclaration_reads read (decorators ++ later)

end ClassRename.Script
