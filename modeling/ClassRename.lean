import ClassRename.FileSystem
import ClassRename.Main
import ClassRename.Proofs.Matching.Segmentation
import ClassRename.Proofs.Matching.Renaming
import ClassRename.Proofs.Edits.Merging
import ClassRename.Proofs.Edits.Splicing
import ClassRename.Proofs.Edits.Weaving
import ClassRename.Proofs.Rereading
import ClassRename.Proofs.Rewriting
import ClassRename.Proofs.Mapping.Classes
import ClassRename.Proofs.Matching.Settled
import ClassRename.Proofs.Matching.Overlaying
import ClassRename.Proofs.Script.CodeUnits
import ClassRename.Proofs.Rules.LiteralEdits
import ClassRename.Proofs.Files.Faults
import ClassRename.Proofs.Files.Places
import ClassRename.Proofs.Sources
import ClassRename.Proofs.SourceRun
import ClassRename.Proofs.Files.Writing
import ClassRename.Proofs.Json.Written
import ClassRename.Proofs.ColorToken.Written
import ClassRename.Proofs.RenameMap.Saved
import ClassRename.Proofs.SharedFiles
import ClassRename.Proofs.Files.Ways
import ClassRename.Proofs.Files.Entries
import ClassRename.Proofs.ExcludedFolders
import ClassRename.Proofs.Loading
import ClassRename.Proofs.CommandLine.ExitCode
import ClassRename.Proofs.Matching.WholeNames
import ClassRename.Proofs.Matching.Separators
import ClassRename.Proofs.Edits.Copies
import ClassRename.Proofs.Edits.Orders
import ClassRename.Proofs.Mapping.Tables
import ClassRename.Proofs.ColorToken.Leaves
import ClassRename.Proofs.Script.ReadBack
import ClassRename.Proofs.FolderPatterns
import ClassRename.Proofs.Collection
import ClassRename.Proofs.Files.SameWay
import ClassRename.Proofs.DottedPatterns
import ClassRename.Proofs.Spellings
import ClassRename.Proofs.EditNotes
import ClassRename.Proofs.Rules.Effects
