import Statute.Settings.Basic
import Statute.Json.Decode
import Statute.Toml.Decode

/-!
# Reading settings from data

Settings have the same shape in every data format: a record of records, with names for the
alternatives. What differs between formats is what counts as a record or as an alternative, so that
is given by the format.
-/

namespace Statute

/-- How parts of settings are read from the values of a data format. -/
structure DataFormat (Value : Type) where
  text? : Value → Option String
  truth? : Value → Option Bool
  /-- A whole number that is not negative and has no more than so many binary digits. -/
  natural? : (bits : Nat) → Value → Option Nat
  /-- The name of an alternative without contents. -/
  alternative? : Value → Option String
  /-- The fields of a record that are present, by name. -/
  fields? : (names : List String) → Value → Option (List (String × Value))

namespace DataFormat

/-- Settings in JSON. -/
def json : DataFormat Json where
  text? := Json.string?
  truth? := Json.bool?
  natural? bits value := value.uint64? >>= fun value => Number.unsigned? bits value.toNat
  alternative? := Json.alternative?
  fields? names value := (value.record? names).map Json.Record.fields

/-- Settings in TOML. -/
def toml : DataFormat Toml.Value where
  text? := Toml.Value.string?
  truth? := Toml.Value.boolean?
  natural? := Toml.Value.natural?
  alternative? := Toml.Value.alternative?
  fields? := Toml.Value.fields?

variable {Value : Type} (format : DataFormat Value)

/-- A field of a record with a value for when it is absent. -/
def fieldOr {α : Type} (fields : List (String × Value)) (name : String) (absent : α)
    (read : Value → Option α) : Option α :=
  match fields.lookup name with
  | none => some absent
  | some value => read value

/-- An alternative that is known by its name. -/
def named? {α : Type} (ofName? : String → Option α) (value : Value) : Option α :=
  format.alternative? value >>= ofName?

/-- The connection to the backend. -/
def backend? (value : Value) : Option BackendSettings := do
  let absent := Settings.standard.backend
  let fields ← format.fields? ["base_url", "timeout_secs"] value
  return {
    baseUrl := ← fieldOr fields "base_url" absent.baseUrl format.text?
    timeoutSeconds := ← fieldOr fields "timeout_secs" absent.timeoutSeconds (format.natural? 64) }

/-- How fragments are highlighted. -/
def overlapPolicy? (value : Value) : Option Highlight.OverlapPolicy := do
  let fields ← format.fields? ["overlap_policy"] value
  fieldOr fields "overlap_policy" Settings.standard.overlapPolicy
    (format.named? Highlight.OverlapPolicy.ofWireName?)

/-- How graphs are built. -/
def graph? (value : Value) : Option GraphSettings := do
  let absent := Settings.standard.graph
  let fields ← format.fields? ["head_policy", "extraction"] value
  return {
    headPolicy :=
      ← fieldOr fields "head_policy" absent.headPolicy (format.named? Graph.HeadPolicy.ofWireName?)
    extraction :=
      ← fieldOr fields "extraction" absent.extraction
        (format.named? Graph.ReferenceExtraction.ofWireName?) }

/-- How the log is read. -/
def logs? (value : Value) : Option LogSettings := do
  let absent := Settings.standard.logs
  let fields ← format.fields? ["poll_interval_secs", "page_limit"] value
  return {
    pollIntervalSeconds :=
      ← fieldOr fields "poll_interval_secs" absent.pollIntervalSeconds (format.natural? 64)
    pageLimit := ← fieldOr fields "page_limit" absent.pageLimit (format.natural? 32) }

/-- Where the viewer is served. -/
def serve? (value : Value) : Option ServeSettings := do
  let absent := Settings.standard.serve
  let fields ← format.fields? ["port", "open_browser"] value
  return {
    port := ← fieldOr fields "port" absent.port (format.natural? 16)
    opensBrowser := ← fieldOr fields "open_browser" absent.opensBrowser format.truth? }

/-- What is logged. -/
def logLevel? (value : Value) : Option String := do
  let fields ← format.fields? ["level"] value
  fieldOr fields "level" Settings.standard.logLevel format.text?

/-- All settings. What is not said is as in the standard settings. -/
def settings? (value : Value) : Option Settings := do
  let absent := Settings.standard
  let fields ← format.fields? ["backend", "highlight", "graph", "logs", "serve", "logging"] value
  return {
    backend := ← fieldOr fields "backend" absent.backend format.backend?
    overlapPolicy := ← fieldOr fields "highlight" absent.overlapPolicy format.overlapPolicy?
    graph := ← fieldOr fields "graph" absent.graph format.graph?
    logs := ← fieldOr fields "logs" absent.logs format.logs?
    serve := ← fieldOr fields "serve" absent.serve format.serve?
    logLevel := ← fieldOr fields "logging" absent.logLevel format.logLevel? }

end DataFormat

/-- Reads the JSON form of settings. -/
def Settings.ofJson? : Json → Option Settings :=
  DataFormat.json.settings?

/-- Reads the settings of a TOML document. -/
def Settings.ofToml? : Toml.Value → Option Settings :=
  DataFormat.toml.settings?

end Statute
