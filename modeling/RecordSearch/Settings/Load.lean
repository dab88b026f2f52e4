import RecordSearch.Settings.Basic
import RecordSearch.Settings.EnvironmentFile
import RecordSearch.Settings.Folder
import RecordSearch.Text.Quoted
import RecordSearch.Toml.Reader

/-!
# Loading settings

Where the settings of a service come from: the file that an environment variable names, or the usual
file of the working folder. An environment file in the folder may set the variable.
-/

namespace RecordSearch

inductive SettingsError where
  | file (fault : FileFault)
  | malformedToml
  | environment (fault : EnvironmentFault)
  | invalid (fault : SettingsFault)
  deriving DecidableEq, Repr

/-- The text of an error. What a malformed text lacks is not part of it. -/
def SettingsError.message : SettingsError → String
  | .file fault => "IO error: " ++ fault.message
  | .malformedToml => "TOML parse error"
  | .environment .malformed => "Environment file error"
  | .environment (.zeroInside name value) =>
    "failed to set environment variable `" ++ Text.quoted name ++ "` to `" ++ Text.quoted value ++
      "`: file name contained an unexpected NUL byte"
  | .invalid fault => "Invalid configuration: " ++ fault.message

namespace Settings

def checked (settings : Settings) : Except SettingsError Settings :=
  match settings.fault? with
  | none => .ok settings
  | some fault => .error (.invalid fault)

/-- A section of a document. A list stands for a section by its first items, one for each setting;
what it has beyond them is not looked at. -/
def sectionOfToml (key : String) (value : Toml.Value) : Toml.Value :=
  match sections.lookup key, value with
  | some names, .list items => .list (items.take names.length)
  | _, value => value

def ofToml (text : String) : Except SettingsError Settings :=
  let settings? : Option Settings := do
    let members ← Toml.parse? text
    let members := members.map fun (key, value) => (key, sectionOfToml key value)
    ofJson? (← (Toml.Value.table members).toJson?)
  match settings? with
  | none => .error .malformedToml
  | some settings => settings.checked

def ofFile (folder : Folder) (path : String) : Except SettingsError Settings :=
  match folder.read path with
  | .error fault => .error (.file fault)
  | .ok text => ofToml text

/-- The environment with the variables of the folder's environment file, if it has one. -/
def environmentOf (folder : Folder) (environment : Environment) :
    Except EnvironmentFault Environment :=
  match environment.fault?, folder.read ".env" with
  | some fault, _ => .error fault
  | none, .ok text => EnvironmentFile.load environment text
  | none, .error _ => .ok environment

/-- Loads the settings that the environment and the working folder hold. -/
def load (folder : Folder) (environment : Environment) : Except SettingsError Settings :=
  match environmentOf folder environment with
  | .error fault => .error (.environment fault)
  | .ok environment =>
    match environment.lookup fileVariable with
    | some path => ofFile folder path
    | none =>
      match folder.read defaultFile with
      | .ok text => ofToml text
      | .error .notFound => .error (.invalid .noFile)
      | .error fault => .error (.file fault)

end Settings

end RecordSearch
