import Statute.Settings.Data
import Statute.Toml.Reader

/-!
# Loading settings

Settings come from a file, if there is one, over which the environment has the last word. A file
that is named explicitly is the only one that is looked for; otherwise the file in the present
directory goes before the user's own.
-/

namespace Statute.Settings

/-- What is found where a settings file is looked for. -/
inductive Found where
  | missing
  /-- Something is there that cannot be read as text. -/
  | unreadable
  | text (content : String)
deriving DecidableEq

/-- Why settings could not be loaded. -/
inductive LoadError where
  | unreadableFile
  | malformedFile
  | invalid (defect : Defect)
deriving DecidableEq

/-- With what an environment variable says. Numbers that cannot be read are passed over. -/
def applyVariable (settings : Settings) (name value : String) : Settings :=
  match name with
  | "LEXLOGIC_BACKEND_URL" =>
    { settings with backend := { settings.backend with baseUrl := value } }
  | "LEXLOGIC_TIMEOUT_SECS" =>
    match Number.readUInt64? value with
    | some seconds =>
      { settings with backend := { settings.backend with timeoutSeconds := seconds.toNat } }
    | none => settings
  | "LEXLOGIC_POLL_INTERVAL_SECS" =>
    match Number.readUInt64? value with
    | some seconds =>
      { settings with logs := { settings.logs with pollIntervalSeconds := seconds.toNat } }
    | none => settings
  | "LEXLOGIC_LOG_LEVEL" => { settings with logLevel := value }
  | "LEXLOGIC_SERVE_PORT" =>
    match Number.readUInt64? value with
    | some port =>
      if port.toNat < UInt16.size then
        { settings with serve := { settings.serve with port := port.toNat } }
      else settings
    | none => settings
  | _ => settings

/-- The environment variables that settings are taken from. -/
def variableNames : List String :=
  ["LEXLOGIC_BACKEND_URL", "LEXLOGIC_TIMEOUT_SECS", "LEXLOGIC_POLL_INTERVAL_SECS",
    "LEXLOGIC_LOG_LEVEL", "LEXLOGIC_SERVE_PORT"]

/-- With what the environment says, if the settings have no defect then. -/
def finish (environment : String → Option String) (settings : Settings) :
    Except LoadError Settings :=
  let settings := variableNames.foldl (fun settings name =>
    match environment name with
    | some value => settings.applyVariable name value
    | none => settings) settings
  match settings.defect? with
  | some defect => .error (.invalid defect)
  | none => .ok settings

/-- The settings of a file. -/
def ofFile (environment : String → Option String) : Found → Except LoadError Settings
  | .missing => .error .unreadableFile
  | .unreadable => .error .unreadableFile
  | .text content =>
    match Toml.parse content >>= ofToml? with
    | some settings => finish environment settings
    | none => .error .malformedFile

/-- The settings when no file is named. -/
def search (environment : String → Option String) (inDirectory ofUser : Found) :
    Except LoadError Settings :=
  if inDirectory ≠ .missing then ofFile environment inDirectory
  else if ofUser ≠ .missing then ofFile environment ofUser
  else finish environment standard

/-- The settings, from the file that is named or from those that are looked for. -/
def load (environment : String → Option String) (named : Option Found)
    (inDirectory ofUser : Found) : Except LoadError Settings :=
  match named with
  | some file => ofFile environment file
  | none => search environment inDirectory ofUser

end Statute.Settings
