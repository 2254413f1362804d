import ClassRename.Config
import ClassRename.Toml.Document

/-!
# Configurations as TOML

The settings stand in three tables. A setting that is not given has its default, one that is unknown
is passed over, and one of the wrong kind spoils the whole configuration. In place of a table an
array may give the settings in their order, and a date gives none.
-/

namespace ClassRename.Config

open Toml (Value)

/-- The values of the named settings. -/
def settings? (names : List String) : Value → Option (List (Option Value))
  | .table members => some (names.map fun name => members.lookup name)
  | .array items => some (names.zipIdx.map fun entry => items[entry.2]?)
  | .moment _ => some (names.map fun _ => none)
  | _ => none

def string? : Value → Option String
  | .string text => some text
  | _ => none

def strings? : Value → Option (List String)
  | .array items => items.mapM string?
  | _ => none

/-- A setting, or the default where it is not given. -/
def orDefault {α : Type} (decode : Value → Option α) (default : α) : Option Value → Option α
  | none => some default
  | some value => decode value

/-- A setting that may be left open. -/
def optional {α : Type} (decode : Value → Option α) : Option Value → Option (Option α)
  | none => some none
  | some value => (decode value).map some

def withRewrite? (config : Config) (group : Value) : Option Config := do
  match ← settings? ["map", "extensions", "class_attribute", "classes_attribute"] group with
  | [map, extensions, classAttribute, classesAttribute] =>
    return { config with
      map := ← optional string? map
      extensions := ← orDefault strings? config.extensions extensions
      attributes :=
        { classAttribute := ← orDefault string? config.attributes.classAttribute classAttribute
          classesAttribute :=
            ← orDefault string? config.attributes.classesAttribute classesAttribute } }
  | _ => none

def withPaths? (config : Config) (group : Value) : Option Config := do
  match ← settings? ["exclude"] group with
  | [exclude] => return { config with exclude := ← orDefault strings? config.exclude exclude }
  | _ => none

def withMapping? (config : Config) (group : Value) : Option Config := do
  match ← settings? ["prefixes"] group with
  | [prefixes] => return { config with prefixes := ← optional strings? prefixes }
  | _ => none

/-- A configuration with the settings of a group that may be missing. -/
def withGroup? (decode : Config → Value → Option Config) (config : Config) :
    Option Value → Option Config
  | none => some config
  | some group => decode config group

def ofToml? (text : String) : Option Config := do
  let members ← Toml.parse? text
  let config ← withGroup? withRewrite? {} (members.lookup "rewrite")
  let config ← withGroup? withPaths? config (members.lookup "paths")
  withGroup? withMapping? config (members.lookup "mapping")

end ClassRename.Config
