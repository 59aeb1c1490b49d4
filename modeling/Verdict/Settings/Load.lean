import Verdict.Fault
import Verdict.Settings.Basic
import Verdict.Settings.Layers
import Verdict.Toml.Document
/-! Loading the settings of a run. The sources are a file, which is found by its name or its name
with an extension, and the variables of the environment whose names begin with the program's prefix.
They are laid on top of each other, then the values are read
in the order of their names; the first one of a wrong kind ends the loading. Names that mean no
setting are passed over, and a setting that no source names keeps its default. -/
namespace Verdict

/-! ### Sources -/

/-- The contents of a file by its path, if there is such a file. -/
abbrev Files := String → Option String

namespace SettingsFile

/-- A path without empty components and dots. -/
def tidy (name : String) : String :=
  let components := String.ofList (glue '/' (Path.components name))
  if name.toList.head? = some '/' then "/" ++ components else components

/-- Whether a name can only mean a directory. -/
def namesDirectory (name : String) : Bool :=
  match (pieces '/' name.toList).getLast? with
  | none => true
  | some last => last = [] || last = ['.'] || last = ['.', '.']

/-- The paths that the name of a settings file may mean, first choice first. -/
def candidates (name : String) : List String :=
  let exact := if namesDirectory name then [] else [tidy name]
  match Path.fileName? name with
  | none => exact
  | some _ => exact ++ [tidy name ++ ".toml"]

/-- The settings file of this name: its path and what it holds. -/
def find? (files : Files) (name : String) : Option (String × String) :=
  (candidates name).findSome? fun path => (files path).map (path, ·)

/-- What a settings file assigns, unless it is malformed. -/
def assignments? (path document : String) : Option (List Assignment) :=
  (Toml.parse? document).map fun entries =>
    entries.map fun (key, value) => (key, ⟨value, some (.file path)⟩)

end SettingsFile

namespace Variables

/-- What the name of a variable begins with, in lower case, if it sets something. -/
def namePrefix : String := "piglit_"

/-- The value that the text of a variable stands for: a truth value in any case, a number, or the
text itself. -/
def valueOf (text : String) : ConfigValue :=
  let lower := lowerCase text
  if lower = "true" then .bool true
  else if lower = "false" then .bool false
  else
    match readInt64? text.toList with
    | some value => .int value
    | none =>
      match readDecimal? text.toList with
      | some value => .float value
      | none => .text text

/-- The key that a variable sets, if it sets one. -/
def key? (name : String) : Option String :=
  let lower := (lowerCase name).toList
  if namePrefix.toList.isPrefixOf lower then
    some (String.ofList (lower.drop namePrefix.toList.length))
  else none

/-- What variables assign. Of two variables with the same key the later one counts. -/
def assignments (environment : OrderedMap String) : List Assignment :=
  (OrderedMap.ofList (environment.entries.filterMap fun (name, text) =>
    (key? name).map (·, (⟨valueOf text, some .environment⟩ : Configured)))).entries

end Variables

/-! ### Loading -/

/-- Why settings cannot be loaded. -/
inductive SettingsCause where
  | missingFile (name : String)
  | malformedFile
  | wrongKind (found expected key : String) (origin : Option Origin)
  deriving DecidableEq

def SettingsCause.message : SettingsCause → String
  | .missingFile name => "configuration file \"" ++ name ++ "\" not found"
  | .malformedFile => "the configuration file is no valid TOML document"
  | .wrongKind found expected key origin =>
    "invalid type: " ++ found ++ ", expected " ++ expected ++ " for key \x60" ++ key ++ "\x60"
      ++ (origin.elim "" fun origin => " in " ++ origin.name)

/-- A failure to load settings, with the name of the settings file if one was given. -/
structure SettingsError where
  file : Option String
  cause : SettingsCause
  deriving DecidableEq

namespace SettingsError

def message (error : SettingsError) : String :=
  "failed to load piglit configuration"
    ++ (error.file.elim "" fun name => " from \x60" ++ name ++ "\x60")

def causes (error : SettingsError) : List String := [error.cause.message]

/-- The message with its cause. -/
def chain (error : SettingsError) : String := chainText error.message error.causes

end SettingsError

namespace Configured

/-- A configured value as a truth value. -/
def toBool (configured : Configured) (key : String) : Except SettingsCause Bool :=
  configured.value.toBool.mapError fun found =>
    .wrongKind found "a boolean" key configured.origin

/-- A configured value as a text. -/
def toText (configured : Configured) (key : String) : Except SettingsCause String :=
  configured.value.toText.mapError fun found =>
    .wrongKind found "a string" key configured.origin

end Configured

namespace Settings

/-- The settings with the value of one name read into them. -/
def read (settings : Settings) (key : String) (configured : Configured) :
    Except SettingsCause Settings :=
  match key with
  | "execute" => return { settings with execute := ← configured.toBool key }
  | "verbose" => return { settings with verbose := ← configured.toBool key }
  | "valgrind" => return { settings with valgrind := ← configured.toBool key }
  | "platform" => return { settings with platform := ⟨← configured.toText key⟩ }
  | "test_bin_dir" => return { settings with binDirectory := some (← configured.toText key) }
  | _ => return settings

/-- The settings that all layers together make. -/
def ofLayers (layers : Layers) : Except SettingsCause Settings :=
  layers.entries.foldlM (fun settings (key, configured) => settings.read key configured) {}

/-- What the settings file assigns; nothing if none is named. -/
def fileAssignments (files : Files) : Option String → Except SettingsCause (List Assignment)
  | none => .ok []
  | some name =>
    match SettingsFile.find? files name with
    | none => .error (.missingFile name)
    | some (path, document) =>
      match SettingsFile.assignments? path document with
      | none => .error .malformedFile
      | some assignments => .ok assignments

/-- Loads the settings from a file, if one is named, and from variables, which cover it. -/
def load (files : Files) (file : Option String) (environment : OrderedMap String) :
    Except SettingsError Settings :=
  Except.mapError (⟨file, ·⟩) do
    let assignments ← fileAssignments files file
    ofLayers ((Layers.assignAll .empty assignments).assignAll (Variables.assignments environment))

end Settings

end Verdict
