import ClassRename.Proofs.Rewriting
import ClassRename.Proofs.SharedFiles
import ClassRename.Proofs.Text.Position
import ClassRename.Proofs.Text.Utf8

/-! # What a run tells of its edits

A file that was rewritten is reported with notes, one for each edit of its text, and each note has the
position of the string that the edit is for in the text as it was. The notes are in the order of
reading, since edits are in the order of the text and later places have later positions.
-/

namespace ClassRename

open Script

variable {options : Options} {matcher : Matcher} {source : String} {edit : Edit} {edits : List Edit}

/-! ## Notes of edits -/

/-- The note tells of the edit: its message, and where its span begins, by the lines before it and the
characters before it on its own line. -/
def EditNote.Tells (source : List Char) (note : EditNote) (edit : Edit) : Prop :=
  note.message = edit.message ∧ ∃ front old back, source = front ++ (old ++ back) ∧
    edit.span = ⟨byteLength front, byteLength (front ++ old)⟩ ∧
    note.position = ⟨1 + front.count '\n', 1 + (Text.lastLine front).length⟩

/-- The note of an edit tells of it. -/
theorem EditNote.tells_ofEdit {old : List Char} (holds : Holds source.toList edit.span old) :
    (EditNote.ofEdit source edit).Tells source.toList edit := by
  obtain ⟨front, back, text, span⟩ := holds
  refine ⟨rfl, front, old, back, text, span, ?_⟩
  rw [EditNote.ofEdit, span, text]
  exact Text.Position.ofOffset_append ..

/-- Edits in the order of the text have their notes in the order of reading. -/
theorem pairwise_map_ofEdit (ordered : edits.Pairwise Edit.StartsBefore)
    (held : ∀ edit ∈ edits, ∃ old, Holds source.toList edit.span old) :
    (edits.map (EditNote.ofEdit source)).Pairwise fun a b => a.position.Before b.position := by
  rw [List.pairwise_map]
  refine ordered.imp_of_mem fun {a b} isEdit isEdit' first => ?_
  have between := (exists_holds_iff.1 (held a isEdit)).2.1
  have between' := (exists_holds_iff.1 (held b isEdit')).2.1
  exact Text.Position.before_ofOffset between between' first

/-! ## Rewritten files -/

namespace Sources

/-- The file at a path was rewritten: it had the source as its text, the source reads as the tree, and
the edits that the rules ask for there made the text that it has now. -/
structure RewrittenFile (options : Options) (matcher : Matcher) (path : String)
    (files after : FileSystem) (source text : String) (tree : Node) : Prop where
  had : ∃ content, files.read path = .ok content ∧ Text.Utf8.decode content = .ok source
  parsed : parse (.ofPath path) source = .ok tree
  made : rewrite options matcher (.ofPath path) source =
    .ok ⟨Rule.allEdits options matcher tree, some text⟩
  has : after.read path = .ok (Text.Utf8.encode text)

variable {path : String} {files after : FileSystem} {notes : List EditNote}

/-- A file that is reported as rewritten was rewritten, and its notes are those of its edits. -/
theorem exists_rewrittenFile
    (went : execOn files (rewriteFile options matcher path) = (.ok (.rewritten notes), after)) :
    ∃ source text tree, RewrittenFile options matcher path files after source text tree ∧
      notes = (Rule.allEdits options matcher tree).map (EditNote.ofEdit source) := by
  have step := step_rewriteFileBy (rewrite options matcher) path ⟨files, []⟩
  rw [mirrors_rewriteFileBy (rewrite options matcher) path files, ← rewriteFile, went] at step
  obtain ⟨content, bytes, readable, processed, now⟩ := step.settled
  cases processed with
  | rewritten decoded made =>
    obtain ⟨tree, parsed, rfl, -⟩ := exists_of_rewriteBy_eq_ok made
    exact ⟨_, _, tree, ⟨⟨content, readable, decoded⟩, parsed, made, now⟩, rfl⟩

/-- What a run tells of the edits in its files. A file that is reported as rewritten has one note for each
edit that the rules ask for in its text, in their order; the edits rewrite strings of the text, and the
notes have the positions of these, one after the other. In a run over a root the text of a file is the one
that it has when its turn comes, and so the one that it had at first if no path before it leads to it. And
whatever the text, offsets between characters are in the order of their positions. -/
theorem rewriteAll_notes (config : Config) (matcher : Matcher) :
    (∀ (files : FileSystem) path notes after,
      execOn files (rewriteFile config.attributes matcher path) = (.ok (.rewritten notes), after) →
      ∃ source text tree,
        RewrittenFile config.attributes matcher path files after source text tree ∧
        (∀ edit ∈ Rule.allEdits config.attributes matcher tree, ∃ site,
          MatchSite config.attributes.classAttribute tree site ∧
            Rewrites source.toList matcher site edit) ∧
        List.Forall₂ (EditNote.Tells source.toList) notes
          (Rule.allEdits config.attributes matcher tree) ∧
        notes.Pairwise fun a b => a.position.Before b.position) ∧
    (∀ (files : FileSystem) root done after,
      execOn files (rewriteAll config matcher root) = (.ok done, after) →
      ∀ before path notes later, done = before ++ (path, .rewritten notes) :: later →
      ∃ between next,
        execOn files (rewriteFilesBy (rewrite config.attributes matcher) (before.map (·.1))) =
          (.ok before, between) ∧
        execOn between (rewriteFile config.attributes matcher path) =
          (.ok (.rewritten notes), next) ∧
        ((∀ taken ∈ before.map (·.1), files.Apart taken path) →
          between.read path = files.read path)) ∧
    ∀ text offset offset', BetweenChars text offset → BetweenChars text offset' →
      ((Text.Position.ofOffset text offset).Before (Text.Position.ofOffset text offset') ↔
        offset < offset') ∧
      (Text.Position.ofOffset text offset = Text.Position.ofOffset text offset' ↔
        offset = offset') := by
  refine ⟨?_, ?_, ?_⟩
  · intro files path notes after went
    obtain ⟨source, text, tree, rewritten, rfl⟩ := exists_rewrittenFile went
    have placed := placed_of_parse rewritten.parsed
    have asked (edit : Edit) (isEdit : edit ∈ Rule.allEdits config.attributes matcher tree) :=
      (placed.mem_mergedEdits_iff (List.Perm.refl _)).1 isEdit
    have held (edit : Edit) (isEdit : edit ∈ Rule.allEdits config.attributes matcher tree) :=
      (placed.exists_holds_of_mem_allEdits isEdit).2
    refine ⟨source, text, tree, rewritten, asked, ?_, ?_⟩
    · rw [List.forall₂_map_left_iff, List.forall₂_same]
      intro edit isEdit
      obtain ⟨old, holds⟩ := held edit isEdit
      exact EditNote.tells_ofEdit holds
    · exact pairwise_map_ofEdit (placed.allEdits_startsBefore config.attributes matcher) held
  · intro files root done after went before path notes later listed
    obtain ⟨paths, went⟩ := exists_rewriteFilesBy_of_rewriteAll went
    obtain ⟨between, next, reached, here⟩ := exists_reached went listed
    exact ⟨between, next, reached, here, read_eq_of_rewriteFilesBy reached⟩
  · intro text offset offset' between between'
    exact ⟨Text.Position.before_ofOffset_iff between between',
      Text.Position.ofOffset_inj between between'⟩

/-! ## Two lines -/

/-- A text with an edit on each of its lines, the second one behind characters of several bytes. -/
def twoLines : String := "<a className=\"p-1\">é\n😀<b className=\"p-1\"/></a>"

/-- A file with the text. -/
def twoLineFile : FileSystem where
  nodes := [(["a.tsx"], .file (Text.Utf8.encode twoLines))]
  current := []

/-- The edits of the text. -/
def twoLineEdits : List Edit :=
  [⟨⟨13, 18⟩, "'m-1'", "Rename class 'p-1' to 'm-1'"⟩,
    ⟨⟨39, 44⟩, "'m-1'", "Rename class 'p-1' to 'm-1'"⟩]

theorem rewrite_twoLines : rewrite {} oneRename .typedMarkup twoLines =
    .ok ⟨twoLineEdits, some "<a className='m-1'>é\n😀<b className='m-1'/></a>"⟩ := by
  have asked : ((parse .typedMarkup twoLines).map fun tree =>
      Rule.all.flatMap fun rule => rule.edits {} oneRename tree).toOption = some twoLineEdits := by
    decide +kernel
  have sorted : twoLineEdits.Pairwise fun a b => a.before b = true := by decide
  have ordered : twoLineEdits.Pairwise Edit.StartsBefore := by
    rw [twoLineEdits, List.pairwise_pair, Edit.StartsBefore]
    decide
  have made : Edit.applyAll twoLines twoLineEdits =
      .ok "<a className='m-1'>é\n😀<b className='m-1'/></a>" := by
    rw [Edit.applyAll, Edit.latestFirst_eq_reverse ordered]
    decide +kernel
  cases parsed : parse .typedMarkup twoLines with
  | error error =>
    rw [parsed] at asked
    cases asked
  | ok tree =>
    rw [parsed] at asked
    have edits : (Rule.all.flatMap fun rule => rule.edits {} oneRename tree) = twoLineEdits :=
      Option.some.inj asked
    have merged : Rule.allEdits {} oneRename tree = twoLineEdits := by
      rw [Rule.allEdits, Rule.mergedEdits, edits, Edit.merge, List.mergeSort_of_pairwise sorted]
      decide
    simp only [rewrite, rewriteBy, parsed, merged, made]
    rfl

/-- The note of the edit on the second line has a column that begins with the line and counts
characters, not bytes. -/
theorem rewriteAll_notes_twoLines : ∃ notes after,
    execOn twoLineFile (rewriteAll {} oneRename ".") =
      (.ok [("./a.tsx", .rewritten notes)], after) ∧
    notes.map (·.position) = [⟨1, 14⟩, ⟨2, 15⟩] ∧
    (∃ source text tree, RewrittenFile {} oneRename "./a.tsx" twoLineFile after source text tree ∧
      List.Forall₂ (EditNote.Tells source.toList) notes (Rule.allEdits {} oneRename tree)) ∧
    (notes.Pairwise fun a b => a.position.Before b.position) ∧
    (Text.Position.ofOffset twoLines.toList 13).Before
      (Text.Position.ofOffset twoLines.toList 39) := by
  have found : twoLineFile.find "./a.tsx" = .ok ["a.tsx"] := by decide +kernel
  have held : twoLineFile.node? ["a.tsx"] = some (.file (Text.Utf8.encode twoLines)) := by
    decide +kernel
  have dialect : Dialect.ofPath "./a.tsx" = .typedMarkup := by decide +kernel
  have made : rewriteContentBy (rewrite {} oneRename) "./a.tsx" (Text.Utf8.encode twoLines) =
      (some "<a className='m-1'>é\n😀<b className='m-1'/></a>",
        .rewritten (twoLineEdits.map (EditNote.ofEdit twoLines))) := by
    simp only [rewriteContentBy, Text.Utf8.decode_encode, dialect, rewrite_twoLines]
  have collected : (execOn twoLineFile (collect {} ".")).1 = .ok ["./a.tsx"] := by decide +kernel
  have ran := execOn_rewriteFileBy found held made
  have went := (execOn_rewriteAllBy collected).trans
    (execOn_rewriteFilesBy_cons.2 ⟨_, _, [], ran, rfl, rfl⟩)
  obtain ⟨ofFile, ofRun, ofText⟩ := rewriteAll_notes {} oneRename
  obtain ⟨between, after, reached, here, -⟩ := ofRun _ "." _ _ went [] _ _ [] rfl
  cases reached
  cases here.symm.trans ran
  obtain ⟨source, text, tree, rewritten, -, tells, ordered⟩ := ofFile _ _ _ _ here
  have positions : (twoLineEdits.map (EditNote.ofEdit twoLines)).map (·.position) =
      [⟨1, 14⟩, ⟨2, 15⟩] := by
    decide +kernel
  have between : BetweenChars twoLines.toList 13 :=
    ⟨twoLines.toList.take 13, twoLines.toList.drop 13, by decide +kernel⟩
  have between' : BetweenChars twoLines.toList 39 :=
    ⟨twoLines.toList.take 35, twoLines.toList.drop 35, by decide +kernel⟩
  exact ⟨_, _, went, positions, ⟨source, text, tree, rewritten, tells⟩, ordered,
    (ofText _ _ _ between between').1.2 (by decide)⟩

end Sources

end ClassRename
