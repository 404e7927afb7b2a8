import Statute.Graph.Build
import Statute.Highlight.Selection
import Statute.Log.Feed
import Statute.Toml.Printer

/-!
# Settings

How the program is set up: where the backend is, how fragments and graphs are shown, how the log is
followed and where the viewer listens.
-/

namespace Statute

/-- The connection to the backend. -/
structure BackendSettings where
  baseUrl : String
  /-- The seconds after which a request is given up. -/
  timeoutSeconds : Nat
deriving DecidableEq

/-- How the dependency graph is built. -/
structure GraphSettings where
  headPolicy : Graph.HeadPolicy
  extraction : Graph.ReferenceExtraction
deriving DecidableEq

/-- How the log is read. -/
structure LogSettings where
  /-- The seconds between two looks for new entries. -/
  pollIntervalSeconds : Nat
  pageLimit : Nat
deriving DecidableEq

/-- Where the viewer is served. -/
structure ServeSettings where
  port : Nat
  opensBrowser : Bool
deriving DecidableEq

/-- All settings. -/
structure Settings where
  backend : BackendSettings
  overlapPolicy : Highlight.OverlapPolicy
  graph : GraphSettings
  logs : LogSettings
  serve : ServeSettings
  /-- Which messages are logged when the environment does not say. -/
  logLevel : String
deriving DecidableEq

namespace Settings

/-- The settings when nothing else is said. -/
def standard : Settings where
  backend := ⟨"http://localhost:5000", 300⟩
  overlapPolicy := .reject
  graph := ⟨.mergeByHead, .lexical⟩
  logs := ⟨5, LogFeed.defaultLimit⟩
  serve := ⟨3333, true⟩
  logLevel := "warn"

/-- Why settings are refused, in the order in which it is checked. -/
inductive Defect where
  | emptyBaseUrl
  | noTimeout
  | noPollInterval
  | noPageLimit
deriving DecidableEq, Repr

/-- The defect in words. -/
def Defect.message (defect : Defect) : String :=
  "Invalid configuration: " ++ match defect with
    | emptyBaseUrl => "backend.base_url must not be empty"
    | noTimeout => "backend.timeout_secs must be positive"
    | noPollInterval => "logs.poll_interval_secs must be positive"
    | noPageLimit => "logs.page_limit must be positive"

/-- The first defect of settings. -/
def defect? (settings : Settings) : Option Defect :=
  if (Text.trim settings.backend.baseUrl.toList).isEmpty then some .emptyBaseUrl
  else if settings.backend.timeoutSeconds = 0 then some .noTimeout
  else if settings.logs.pollIntervalSeconds = 0 then some .noPollInterval
  else if settings.logs.pageLimit = 0 then some .noPageLimit
  else none

/-! ## JSON -/

/-- The JSON form of settings. -/
def toJson (settings : Settings) : Json :=
  .object [
    ("backend", .object [("base_url", .string settings.backend.baseUrl),
      ("timeout_secs", .integer (Int.ofNat settings.backend.timeoutSeconds))]),
    ("highlight", .object [("overlap_policy", .string settings.overlapPolicy.wireName)]),
    ("graph", .object [("head_policy", .string settings.graph.headPolicy.wireName),
      ("extraction", .string settings.graph.extraction.wireName)]),
    ("logs", .object [
      ("poll_interval_secs", .integer (Int.ofNat settings.logs.pollIntervalSeconds)),
      ("page_limit", .integer (Int.ofNat settings.logs.pageLimit))]),
    ("serve", .object [("port", .integer (Int.ofNat settings.serve.port)),
      ("open_browser", .bool settings.serve.opensBrowser)]),
    ("logging", .object [("level", .string settings.logLevel)])]

/-! ## TOML -/

/-- The settings as the text of a settings file; nothing when a number is too large for it. -/
def toToml? (settings : Settings) : Option String :=
  Toml.render? [
    ("backend", [("base_url", .text settings.backend.baseUrl),
      ("timeout_secs", .number settings.backend.timeoutSeconds)]),
    ("highlight", [("overlap_policy", .text settings.overlapPolicy.wireName)]),
    ("graph", [("head_policy", .text settings.graph.headPolicy.wireName),
      ("extraction", .text settings.graph.extraction.wireName)]),
    ("logs", [("poll_interval_secs", .number settings.logs.pollIntervalSeconds),
      ("page_limit", .number settings.logs.pageLimit)]),
    ("serve", [("port", .number settings.serve.port),
      ("open_browser", .truth settings.serve.opensBrowser)]),
    ("logging", [("level", .text settings.logLevel)])]

end Settings

end Statute
