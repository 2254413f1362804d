import ClassRename.CommandLine
import ClassRename.Proofs.Sources

/-! # Loading changes nothing

What a run needs is found and read without a change to the disk, whatever is there. Nothing more is assumed
of the files: any access may fail at any time.
-/

namespace ClassRename

variable {σ δ : Type} [FileAccess (StateM σ)] {disk : σ → δ}

/-- To look at a path, to read a file and to ask for the current folder change nothing on the disk. -/
structure ReadsKeep (disk : σ → δ) : Prop where
  kindOf (path : String) : Keeps disk (FileAccess.kindOf (m := StateM σ) path)
  read (path : String) : Keeps disk (FileAccess.read (m := StateM σ) path)
  currentFolder : Keeps disk (FileAccess.currentFolder (m := StateM σ))

/-- On a file system as a value the disk is all there is. -/
theorem readsKeep_fileSystem : ReadsKeep (id : FileSystem → FileSystem) where
  kindOf _ _ := rfl
  read _ _ := rfl
  currentFolder _ := rfl

/-- An access that only looks keeps the files when it may fail, too. -/
theorem FaultyFileSystem.keeps_faulty {α : Type} {access : ExceptT FileError (StateM FileSystem) α}
    (looks : LooksOnly access) : Keeps FaultyFileSystem.files (faulty access) := by
  intro state
  rcases execOn_faulty state access with ⟨cause, -, failed⟩ | worked
  · rw [failed]
  · rw [worked]
    exact looks state.files

theorem readsKeep_faultyFileSystem : ReadsKeep FaultyFileSystem.files where
  kindOf _ := FaultyFileSystem.keeps_faulty fun _ => rfl
  read _ := FaultyFileSystem.keeps_faulty fun _ => rfl
  currentFolder := FaultyFileSystem.keeps_faulty fun _ => rfl

namespace ReadsKeep

theorem readText (reads : ReadsKeep disk) (path : String) :
    Keeps disk (FileAccess.readText (m := StateM σ) path) := by
  refine .bind (reads.read path) fun content => ?_
  split
  · exact .pure _
  · exact .throw _

theorem isThere (reads : ReadsKeep disk) (path : String) :
    Keeps disk (FileAccess.isThere (m := StateM σ) path) :=
  .tryCatch (.bind (reads.kindOf path) fun _ => .pure _) fun _ => .pure _

theorem loadTokens (reads : ReadsKeep disk) (path : String) :
    Keeps disk (ColorToken.load (m := StateM σ) path) := by
  refine .bind (.adapt (reads.readText path)) fun text => ?_
  split
  · exact .pure _
  · exact .throw _

theorem loadMap (reads : ReadsKeep disk) (path : String) :
    Keeps disk (RenameMap.load (m := StateM σ) path) := by
  refine .bind (.adapt (reads.readText path)) fun text => ?_
  split
  · exact .pure _
  · exact .throw _

theorem loadConfigFile (reads : ReadsKeep disk) (path : String) :
    Keeps disk (Config.load (m := StateM σ) path) := by
  refine .bind (.adapt (reads.readText path)) fun text => ?_
  split
  · exact .pure _
  · exact .throw _

theorem loadFirst (reads : ReadsKeep disk) (paths : List String) :
    Keeps disk (Config.loadFirst (m := StateM σ) paths) := by
  induction paths with
  | nil => exact .pure _
  | cons path later ih =>
    refine .bind (.adapt (reads.isThere path)) fun isThere => ?_
    split
    · exact .bind (reads.loadConfigFile path) fun _ => .pure _
    · exact ih

/-- To find a configuration changes nothing. -/
theorem loadConfig (reads : ReadsKeep disk) (choice : CommandLine.ConfigChoice) :
    Keeps disk (CommandLine.loadConfig (m := StateM σ) choice) := by
  cases choice with
  | ignore => exact .pure _
  | file path => exact .bind (.adapt (reads.loadConfigFile path)) fun _ => .pure _
  | search =>
    refine .bind (.adapt reads.currentFolder) fun folder => ?_
    refine .bind (.adapt (reads.loadFirst _)) fun found => ?_
    split <;> exact .pure _

end ReadsKeep

end ClassRename
