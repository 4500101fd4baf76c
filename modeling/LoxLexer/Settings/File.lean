import LoxLexer.File.Tree
import LoxLexer.Settings.Validation
import LoxLexer.Yaml.Document

/-!
# Settings files

Settings are read from a document in a file. A file that cannot be read, that is malformed, or whose
entries are wrong is reported as a `SettingsError` that names the file. Other faults of the file, such
as bytes that are no text or scalars that denote no value, are passed on as they are.
-/

namespace LoxLexer

/-- What is wrong with a settings file. -/
inductive SettingsFault where
  /-- There is no such file. -/
  | notFound
  /-- The file cannot be read. -/
  | unreadable (fault : FileFault)
  /-- The text of the file is no document. -/
  | malformed
  /-- The document is no mapping. -/
  | notMapping
  /-- The entries of the mapping are wrong. -/
  | invalid (error : ValidationError)
  deriving DecidableEq

/-- A report on a settings file. -/
structure SettingsError where
  /-- The path of the file. -/
  path : Path
  /-- What is wrong with it. -/
  fault : SettingsFault
  deriving DecidableEq

/-- The wording of a report. -/
def SettingsError.message (error : SettingsError) : String :=
  let path := error.path.render
  match error.fault with
  | .notFound => "Settings file not found: " ++ path
  | .unreadable fault =>
      "Cannot read settings file '" ++ path ++ "': " ++ fault.message error.path
  | .malformed => "Invalid YAML in settings file '" ++ path ++ "'"
  | .notMapping => path ++ ": settings must be a YAML mapping"
  | .invalid invalid => "Invalid settings file '" ++ path ++ "': " ++ invalid.message

/-- Why no settings come from a file. -/
inductive LoadFault where
  /-- The file is reported as defective. -/
  | settings (error : SettingsError)
  /-- The path cannot be the path of a file. -/
  | nulInPath
  /-- The bytes of the file encode no text. -/
  | encoding (fault : Text.Utf8Fault)
  /-- A scalar of the document denotes no value. -/
  | scalar (fault : Yaml.Fault)
  /-- The place of the file cannot be looked at. -/
  | lookup (path : Path) (fault : FileFault)
  deriving DecidableEq

/-- The wording of a fault. -/
def LoadFault.message : LoadFault → String
  | settings error => error.message
  | nulInPath => "embedded null byte"
  | encoding fault => fault.message
  | scalar fault => fault.message
  | lookup path fault => fault.message path

namespace Settings

/-- The name of the settings file of a directory. -/
def fileName : String := ".loxscan.yaml"

/-- The settings that the text of a file gives. A document without a value sets nothing. -/
def ofText (path : Path) (text : List Char) : Except LoadFault Settings :=
  let report (fault : SettingsFault) : Except LoadFault Settings := .error (.settings ⟨path, fault⟩)
  let validate (entries : Yaml.Entries) : Except LoadFault Settings :=
    match ofEntries entries with
    | .ok settings => .ok settings
    | .error error => report (.invalid error)
  match Yaml.Document.ofText text with
  | .error .malformed => report .malformed
  | .error fault => .error (.scalar fault)
  | .ok (.mapping entries) => validate entries
  | .ok (.other .null) => validate []
  | .ok (.other _) => report .notMapping

/-- The settings that a file gives. -/
def load (view : FileView) (path : Path) : Except LoadFault Settings :=
  match view.read path with
  | .ok text => ofText path text
  | .error .nulInPath => .error .nulInPath
  | .error (.encoding fault) => .error (.encoding fault)
  | .error (.file .notFound) => .error (.settings ⟨path, .notFound⟩)
  | .error (.file fault) => .error (.settings ⟨path, .unreadable fault⟩)

/-- The settings of a directory: those of its settings file, or the defaults if it has none. -/
def findIn (view : FileView) (directory : Path) : Except LoadFault Settings :=
  let path := directory.child fileName
  match view.holds path with
  | .error fault => .error (.lookup path fault)
  | .ok false => .ok default
  | .ok true => load view path

end Settings

end LoxLexer
