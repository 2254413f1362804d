import ClassRename.Proofs.EditNotes
import ClassRename.Proofs.Edits.Turning
import ClassRename.Proofs.Rereading

/-! # Every edit has an effect

An edit is asked for where the value of a string changes, and what is written there reads as the new
value or not at all. So it is never the text that the string has already, in whatever quotes and with
whatever escapes that is written. A string whose value stays has no edit and is kept as it is written.
-/

namespace ClassRename

open Script

variable {options : Options} {matcher : Matcher} {source newSource : String} {tree : Node} {site : Site}
  {edit : Edit} {text : List Char} {value new : String}

/-! ## New values -/

/-- A renaming is another value. -/
theorem Matcher.value_ne_of_rewriteValue {change : Renaming}
    (renamed : matcher.rewriteValue value = .ok (some change)) : change.value ≠ value := by
  unfold Matcher.rewriteValue at renamed
  dsimp only at renamed
  -- One branch gives a renaming, after asking whether the text is another one.
  split at renamed
  · cases renamed
  · split at renamed
    · cases renamed
    · split at renamed
      · cases renamed
      · split at renamed
        · cases renamed
        · next differs =>
          cases renamed
          exact differs

/-- If what is written for a value reads as a string of its kind, that has the value. -/
theorem Site.eq_of_isText_written (isText : site.IsText (site.written new).toList value) :
    value = new := by
  cases site with
  | string literal => exact LiteralText.unique isText (literalText_quoted new)
  | «attribute» literal => exact ((attributeText_attributeQuoted_iff new value).1 isText).1

/-- The source has a string where a site of its tree is. -/
theorem Site.stands_iff {source : List Char} : site.mark.Stands source ↔
    ∃ text, Holds source site.literal.span text ∧ site.IsText text site.literal.value := by
  cases site <;> rfl

/-- A mark of a string in the tree is that of a string there. -/
theorem Site.contains_of_mem_marks (isMark : site.mark ∈ tree.marks) : tree.Contains site.node := by
  obtain ⟨node, met, marked⟩ := List.mem_filterMap.1 isMark
  have sameNode : node = site.node := by
    cases site <;> cases node <;> simp_all [Node.mark?, Site.mark, Site.node]
  exact Node.mem_nodes_iff.1 (sameNode ▸ met)

/-! ## Edits -/

/-- The edit changes the value of the string at the site. The source has a text with the old value there,
and in its place comes another text, which has the new value if it reads as a string of its kind. -/
structure Changes (source : List Char) (matcher : Matcher) (site : Site) (edit : Edit)
    (old : List Char) (value new : String) : Prop where
  place : edit.span = site.literal.span
  holds : Holds source edit.span old
  isText : site.IsText old value
  renamed : ∃ change, matcher.rewriteValue value = .ok (some change) ∧ change.value = new
  differs : new ≠ value
  written : edit.replacement = site.written new
  reads : ∀ any, site.IsText edit.replacement.toList any → any = new
  effective : edit.replacement.toList ≠ old

/-- An edit that rewrites a string changes its value. -/
theorem Rewrites.exists_changes {source : List Char} (rewrites : Rewrites source matcher site edit) :
    ∃ old value new, Changes source matcher site edit old value new := by
  obtain ⟨old, value, change, holds, isText, renamed, written⟩ : ∃ old value change,
      Holds source edit.span old ∧ site.IsText old value ∧
        matcher.rewriteValue value = .ok (some change) ∧
        edit.replacement = site.written change.value := by
    cases rewrites with
    | string holds isText renamed => exact ⟨_, _, _, holds, isText, renamed, rfl⟩
    | «attribute» holds isText renamed => exact ⟨_, _, _, holds, isText, renamed, rfl⟩
  have differs := Matcher.value_ne_of_rewriteValue renamed
  have reads (any : String) (isText' : site.IsText edit.replacement.toList any) :
      any = change.value :=
    Site.eq_of_isText_written (written ▸ isText')
  refine ⟨old, value, change.value, rewrites.span_eq, holds, isText, ⟨change, renamed, rfl⟩, differs,
    written, reads, ?_⟩
  rintro rfl
  exact differs (reads value isText).symm

namespace Script.Placed

/-- All edits stand apart from a string whose value stays. -/
theorem clear_of_rename_eq_none (placed : Placed source.toList tree)
    (contained : tree.Contains site.node) (stays : matcher.rename site.literal.value = none)
    (asked : edit ∈ Rule.allEdits options matcher tree) :
    edit.span.stop ≤ site.literal.span.start ∨ site.literal.span.stop ≤ edit.span.start := by
  obtain ⟨site', isSite, rewrites⟩ := (placed.mem_mergedEdits_iff (List.Perm.refl _)).1 asked
  have inTree := contained.mem_marks site.mark?_node
  rw [rewrites.span_eq, ← Site.span_mark, ← Site.span_mark]
  rcases placed.apart (isSite.contains.mem_marks site'.mark?_node) inTree with same | apart
  · -- The edit would be one of the string itself.
    have sameNode := placed.node_eq isSite.contains contained site'.mark?_node site.mark?_node
      (congrArg (·.span.start) same)
    obtain rfl := Site.node_injective sameNode
    have wanted := (Site.edit?_eq_some_iff (placed.stands _ inTree)).2 rewrites
    rw [Site.edit?, stays] at wanted
    cases wanted
  · exact apart

/-- What a script becomes around a string whose value stays. -/
theorem turns_of_rename_eq_none (placed : Placed source.toList tree)
    (splices : Edit.Splices 0 (Rule.allEdits options matcher tree) source.toList newSource.toList)
    (contained : tree.Contains site.node) (stays : matcher.rename site.literal.value = none)
    (holds : Holds source.toList site.literal.span text) :
    Edit.Turns (Rule.allEdits options matcher tree) [] source.toList newSource.toList
      site.literal.span text text := by
  refine splices.turns_self holds ?_ ?_
  · exact fun edit asked => (placed.exists_holds_of_mem_allEdits asked).1
  · exact fun edit asked => placed.clear_of_rename_eq_none contained stays asked

end Script.Placed

/-- No edit of a script is idle: the text that it puts in is not the one that stands there, since the value
of a string changes. A string whose value the matcher leaves has no edit, and in the new text it stands
as it is written, between what comes of the text before it and of the text after it. So in a file that is
reported as rewritten some string has another value. -/
theorem Rule.allEdits_effective (options : Options) (matcher : Matcher) :
    (∀ dialect source tree, parse dialect source = .ok tree →
      (∀ edit ∈ Rule.allEdits options matcher tree, ∃ site old value new,
        MatchSite options.classAttribute tree site ∧
          Changes source.toList matcher site edit old value new) ∧
      ∀ site : Site, tree.Contains site.node → matcher.rename site.literal.value = none →
        (∀ edit ∈ Rule.allEdits options matcher tree, edit.span ≠ site.literal.span) ∧
        ∃ text, Holds source.toList site.literal.span text ∧ site.IsText text site.literal.value ∧
          ∀ edits newSource, rewrite options matcher dialect source = .ok ⟨edits, some newSource⟩ →
            Edit.Turns edits [] source.toList newSource.toList site.literal.span text text) ∧
    ∀ (files : FileSystem) path notes after,
      execOn files (Sources.rewriteFile options matcher path) = (.ok (.rewritten notes), after) →
      ∃ source text tree, Sources.RewrittenFile options matcher path files after source text tree ∧
        ∃ edit ∈ Rule.allEdits options matcher tree, ∃ site old value new,
          MatchSite options.classAttribute tree site ∧
          Changes source.toList matcher site edit old value new ∧
          Edit.Turns (Rule.allEdits options matcher tree) [edit] source.toList text.toList edit.span
            old edit.replacement.toList := by
  constructor
  · intro dialect source tree parsed
    have placed := placed_of_parse parsed
    constructor
    · intro edit asked
      obtain ⟨site, isSite, rewrites⟩ := (placed.mem_mergedEdits_iff (List.Perm.refl _)).1 asked
      obtain ⟨old, value, new, changes⟩ := rewrites.exists_changes
      exact ⟨site, old, value, new, isSite, changes⟩
    · intro site contained stays
      obtain ⟨text, holds, isText⟩ :=
        Site.stands_iff.1 (placed.stands _ (contained.mem_marks site.mark?_node))
      refine ⟨fun edit asked same => ?_, text, holds, isText, fun edits newSource made => ?_⟩
      · have size := (placed.exists_holds_of_mem_allEdits asked).1
        have apart := placed.clear_of_rename_eq_none contained stays asked
        rw [same] at size apart
        omega
      · obtain ⟨tree', parsed', rfl, -⟩ := exists_of_rewriteBy_eq_ok made
        cases parsed.symm.trans parsed'
        exact placed.turns_of_rename_eq_none (placed.splices_of_rewriteBy parsed made rfl) contained
          stays holds
  · intro files path notes after went
    obtain ⟨source, text, tree, rewritten, -⟩ := Sources.exists_rewrittenFile went
    have placed := placed_of_parse rewritten.parsed
    have splices := placed.splices_of_rewriteBy rewritten.parsed rewritten.made rfl
    -- There would be no new text without an edit.
    obtain ⟨_, -, -, nothing⟩ := exists_of_rewriteBy_eq_ok rewritten.made
    obtain ⟨edit, asked⟩ := List.exists_mem_of_ne_nil _ (mt nothing.2 (Option.some_ne_none _))
    obtain ⟨site, isSite, rewrites⟩ := (placed.mem_mergedEdits_iff (List.Perm.refl _)).1 asked
    obtain ⟨old, value, new, changes⟩ := rewrites.exists_changes
    obtain ⟨old', holds, turns⟩ := splices.turns_replacement asked
    obtain rfl := holds.unique changes.holds
    exact ⟨source, text, tree, rewritten, edit, asked, site, _, value, new, isSite, changes, turns⟩

/-- An object with two members in one spelling, of which one has a class that is renamed. -/
def spelledMembers : String := "(\x7ba: \"\\x70-1\", b: \"\\x70-2\"\x7d)"

/-- A file with the object. -/
def spelledFile : FileSystem where
  nodes := [(["a.tsx"], .file (Text.Utf8.encode spelledMembers))]
  current := []

/-- The string that is edited has another text, and the other one keeps its double quotes and its escape.
What it becomes is told for the source and for a file. -/
theorem Rule.allEdits_effective_spelled : ∃ tree,
    parse .typedMarkup spelledMembers = .ok tree ∧
    (∀ edit ∈ Rule.allEdits {} Sources.oneRename tree, ∃ old,
      Holds spelledMembers.toList edit.span old ∧ edit.replacement.toList ≠ old) ∧
    (∃ edits newSource, rewrite {} Sources.oneRename .typedMarkup spelledMembers =
        .ok ⟨edits, some newSource⟩ ∧
      Edit.Turns edits [] spelledMembers.toList newSource.toList ⟨18, 26⟩
        "\"\\x70-2\"".toList "\"\\x70-2\"".toList) ∧
    ∃ notes after, execOn spelledFile (Sources.rewriteFile {} Sources.oneRename "a.tsx") =
        (.ok (.rewritten notes), after) ∧
      ∃ source text tree,
        Sources.RewrittenFile {} Sources.oneRename "a.tsx" spelledFile after source text tree ∧
        Rule.allEdits {} Sources.oneRename tree ≠ [] := by
  have read : ((parse .typedMarkup spelledMembers).map fun tree => tree.marks).toOption =
      some [.object 1, .string ⟨⟨5, 13⟩, "p-1"⟩, .string ⟨⟨18, 26⟩, "p-2"⟩] := by
    decide +kernel
  have rewrites : rewrite {} Sources.oneRename .typedMarkup spelledMembers =
      .ok ⟨[⟨⟨5, 13⟩, "'m-1'", "Rename class 'p-1' to 'm-1'"⟩],
        some "(\x7ba: 'm-1', b: \"\\x70-2\"\x7d)"⟩ := by
    decide +kernel
  have stays : Sources.oneRename.rename "p-2" = none := by decide +kernel
  have found : spelledFile.find "a.tsx" = .ok ["a.tsx"] := by decide +kernel
  have held : spelledFile.node? ["a.tsx"] = some (.file (Text.Utf8.encode spelledMembers)) := by
    decide +kernel
  have made : rewriteContentBy (rewrite {} Sources.oneRename) "a.tsx"
      (Text.Utf8.encode spelledMembers) = (some "(\x7ba: 'm-1', b: \"\\x70-2\"\x7d)",
        .rewritten [⟨⟨1, 6⟩, "Rename class 'p-1' to 'm-1'"⟩]) := by
    decide +kernel
  have slice : slice? spelledMembers.toList ⟨18, 26⟩ = some "\"\\x70-2\"".toList := by
    decide +kernel
  have ran := Sources.execOn_rewriteFileBy found held made
  obtain ⟨ofScript, ofFile⟩ := Rule.allEdits_effective {} Sources.oneRename
  cases parsed : parse .typedMarkup spelledMembers with
  | error error =>
    rw [parsed] at read
    cases read
  | ok tree =>
    rw [parsed] at read
    have marks : tree.marks =
        [.object 1, .string ⟨⟨5, 13⟩, "p-1"⟩, .string ⟨⟨18, 26⟩, "p-2"⟩] :=
      Option.some.inj read
    have isMark : (Site.string ⟨⟨18, 26⟩, "p-2"⟩).mark ∈ tree.marks := by
      rw [marks]
      decide
    obtain ⟨changed, kept⟩ := ofScript _ _ tree parsed
    obtain ⟨-, text, holds, -, turns⟩ := kept _ (Site.contains_of_mem_marks isMark) stays
    obtain rfl : text = "\"\\x70-2\"".toList := Option.some.inj (holds.slice?_eq.symm.trans slice)
    obtain ⟨source', text', tree', rewritten, edit, asked, -⟩ := ofFile _ _ _ _ ran
    refine ⟨tree, rfl, fun edit isEdit => ?_, ⟨_, _, rewrites, turns _ _ rewrites⟩, _, _, ran, source',
      text', tree', rewritten, List.ne_nil_of_mem asked⟩
    obtain ⟨site, old, value, new, -, changes⟩ := changed edit isEdit
    exact ⟨old, changes.holds, changes.effective⟩

end ClassRename
