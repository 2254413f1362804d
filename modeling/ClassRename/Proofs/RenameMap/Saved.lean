import ClassRename.CommandLine
import ClassRename.Proofs.Files.Writing
import ClassRename.Proofs.Json.Written
import ClassRename.Proofs.Loading
import ClassRename.Proofs.RenameMap

/-! # What is kept of a rename map

A rename map that is written as JSON, or to a file, comes back as it was, whatever its texts are. Nothing
but what a map answers shows in its JSON, and the file that a command leaves holds the map that the
command made.
-/

namespace ClassRename.RenameMap

variable {map : RenameMap} {files after : FileSystem} {path other : String}

/-! ## As JSON -/

/-- A map that is written as JSON is read back. -/
theorem ofJson_toJson (map : RenameMap) : ofJson map.toJson = .ok map := by
  rw [ofJson, toJson, Json.readAll_writtenObject]
  exact congrArg Except.ok (ofList_toList map)

/-- Different maps are written as different texts. -/
theorem toJson_inj {map map' : RenameMap} : map.toJson = map'.toJson ↔ map = map' := by
  refine ⟨fun same => ?_, congrArg toJson⟩
  have readBack := ofJson_toJson map
  rw [same, ofJson_toJson map'] at readBack
  exact (Except.ok.inj readBack).symm

/-! ## In a file -/

/-- To save a map is to write its JSON. -/
theorem execOn_save_eq_ok : execOn files (map.save path) = (.ok (), after) ↔
    files.write path (Text.Utf8.encode map.toJson) = .ok after := by
  have write : execOn files (FileAccess.writeText path map.toJson) =
      execOn files (FileSystem.changing (·.write path (Text.Utf8.encode map.toJson))) := rfl
  rw [save, execOn_adapt_eq_ok, write, execOn, FileSystem.changing]
  cases files.write path (Text.Utf8.encode map.toJson) <;> simp

/-- A file that holds the JSON of a map is loaded as the map. -/
theorem execOn_load (readable : files.read path = .ok (Text.Utf8.encode map.toJson)) :
    execOn files (load path) = (.ok map, files) := by
  have read : execOn files (FileAccess.read path) =
      (.ok (Text.Utf8.encode map.toJson), files) := by
    simp only [execOn, FileAccess.read, FileSystem.looking, readable]
  have text : execOn files (FileAccess.readText path) = (.ok map.toJson, files) := by
    rw [FileAccess.readText, execOn_bind, read]
    simp only [Text.Utf8.decode_encode]
    rfl
  rw [load, execOn_bind, execOn_adapt, text]
  simp only [Except.mapError, ofJson_toJson]
  rfl

/-- A map that was saved is loaded as it was. -/
theorem load_of_save (saved : execOn files (map.save path) = (.ok (), after)) :
    execOn after (load path) = (.ok map, after) :=
  execOn_load (FileSystem.read_of_write (execOn_save_eq_ok.1 saved))

/-- A map in a file stays when another one is saved elsewhere. -/
theorem load_of_save_elsewhere {map' : RenameMap}
    (readable : files.read other = .ok (Text.Utf8.encode map'.toJson))
    (saved : execOn files (map.save path) = (.ok (), after))
    (elsewhere : after.find other ≠ after.find path) :
    execOn after (load other) = (.ok map', after) :=
  execOn_load (FileSystem.read_eq_of_write (execOn_save_eq_ok.1 saved) elsewhere readable)

/-! ## By a command -/

/-- The maps are in the files for them in a folder; where one path leads to the file of the other, the
class renames are in it. -/
structure HoldsMaps (files : FileSystem) (folder : String) (mapping : Mapping) : Prop where
  classes : execOn files (load (Path.join folder Mapping.classesFile)) = (.ok mapping.classes, files)
  colors : files.find (Path.join folder Mapping.colorsFile) ≠
      files.find (Path.join folder Mapping.classesFile) →
    execOn files (load (Path.join folder Mapping.colorsFile)) = (.ok mapping.colors, files)

/-- What is there when a command has made rename maps. -/
theorem load_of_runMap {config : Config} {legacy current outDir output : String}
    {prefixes : List String}
    (ran : execOn files (CommandLine.runMap config legacy current outDir prefixes) =
      (.ok output, after)) :
    ∃ before now, execOn files (ColorToken.load legacy) = (.ok before, files) ∧
      execOn files (ColorToken.load current) = (.ok now, files) ∧
      HoldsMaps after outDir (Mapping.build
        (if prefixes.isEmpty then config.prefixes.getD Mapping.defaultPrefixes else prefixes)
        before now) := by
  simp only [CommandLine.runMap, execOn_bind_eq_ok, execOn_adapt_eq_ok] at ran
  obtain ⟨before, same, readBefore, now, same', readNow, ⟨⟩, folders, -, ⟨⟩, between, colors, ⟨⟩,
    ended, classes, told⟩ := ran
  obtain rfl := LooksOnly.state_eq (readsKeep_fileSystem.loadTokens legacy) readBefore
  obtain rfl := LooksOnly.state_eq (readsKeep_fileSystem.loadTokens current) readNow
  obtain rfl : ended = after := (Prod.mk.inj told).2
  refine ⟨before, now, readBefore, readNow, load_of_save classes, fun elsewhere => ?_⟩
  have held := FileSystem.read_of_write (execOn_save_eq_ok.1 colors)
  exact load_of_save_elsewhere held classes elsewhere

/-- A map is kept exactly: as JSON, and in every file that may be written. Its JSON depends on the last
new name of each old one alone, and a command that makes rename maps leaves in its files what is loaded
from them. -/
theorem kept_exactly :
    (∀ map : RenameMap, ofJson map.toJson = .ok map) ∧
    (∀ (map : RenameMap) (files : FileSystem) (path : String), files.Writable path →
      ∃ after, execOn files (map.save path) = (.ok (), after) ∧
        execOn after (load path) = (.ok map, after)) ∧
    (∀ entries entries' : List (String × String),
      (ofList entries).toJson = (ofList entries').toJson ↔
        ∀ old, entries.reverse.lookup old = entries'.reverse.lookup old) ∧
    ∀ (config : Config) (legacy current outDir : String) (prefixes : List String)
      (files after : FileSystem) (output : String),
      execOn files (CommandLine.runMap config legacy current outDir prefixes) =
        (.ok output, after) →
      ∃ before now, execOn files (ColorToken.load legacy) = (.ok before, files) ∧
        execOn files (ColorToken.load current) = (.ok now, files) ∧
        HoldsMaps after outDir (Mapping.build
          (if prefixes.isEmpty then config.prefixes.getD Mapping.defaultPrefixes else prefixes)
          before now) := by
  refine ⟨ofJson_toJson, fun map files path writable => ?_, fun entries entries' => ?_, ?_⟩
  · obtain ⟨after, written, -⟩ := writable.exists_write (Text.Utf8.encode map.toJson)
    have saved := execOn_save_eq_ok.2 written
    exact ⟨after, saved, load_of_save saved⟩
  · rw [toJson_inj, ofList_eq_iff]
  · intro config legacy current outDir prefixes files after output ran
    exact load_of_runMap ran

/-- Two token files. -/
def tokenFiles : FileSystem where
  nodes := [(["old.json"], .file (Text.Utf8.encode "\x7b\"ash\": \"#EEE\"\x7d")),
    (["new.json"], .file (Text.Utf8.encode "\x7b\"mist\": \"#eee\"\x7d"))]
  current := []

/-- A map with texts that JSON has to escape, or is not to. -/
def oddMap : RenameMap :=
  .ofList [("", "\"\\/"), ("\n\t\x00", "\x7f\u2028"), ("\"", "😀"), ("p-1", "")]

/-- A command that makes a folder with maps from the token files. -/
def tokenRun : Except CommandLine.RunError String × FileSystem :=
  execOn tokenFiles (CommandLine.runMap {} "old.json" "new.json" "out" ["text"])

/-- What the command tells. -/
def tokenLines : String :=
  "Wrote 1 color renames to out/tw-colors-map.json\n" ++
    "Wrote 1 class renames (text) to out/tw-classes-map.json\n"

/-- A map with odd texts is saved in a new file, and a command leaves its two maps. -/
theorem kept_exactly_tokenFiles :
    (∃ after, execOn tokenFiles (oddMap.save "odd.json") = (.ok (), after) ∧
      execOn after (load "odd.json") = (.ok oddMap, after)) ∧
    ∃ after before now, tokenRun = (.ok tokenLines, after) ∧
      HoldsMaps after "out" (Mapping.build ["text"] before now) ∧
      after.find "out/tw-colors-map.json" ≠ after.find "out/tw-classes-map.json" := by
  obtain ⟨-, saved, -, made⟩ := kept_exactly
  have free : tokenFiles.Writable "odd.json" := .inr ⟨[], "odd.json", by decide +kernel⟩
  refine ⟨saved oddMap tokenFiles "odd.json" free, ?_⟩
  have told : tokenRun.1 = .ok tokenLines := by decide +kernel
  have apart : tokenRun.2.find "out/tw-colors-map.json" ≠
      tokenRun.2.find "out/tw-classes-map.json" := by
    decide +kernel
  cases ran : tokenRun with
  | mk result after =>
  rw [ran] at told apart
  obtain rfl : result = .ok tokenLines := told
  obtain ⟨before, now, -, -, holds⟩ :=
    made {} "old.json" "new.json" "out" ["text"] tokenFiles after tokenLines ran
  exact ⟨after, before, now, rfl, holds, apart⟩

end ClassRename.RenameMap
