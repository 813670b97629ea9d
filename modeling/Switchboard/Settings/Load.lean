/-
Loading settings and the middleware manifest from TOML files.

A section may be a table, whose unknown keys are ignored, or an array that gives the fields in order; what is missing
keeps its default. Settings are checked after they are read, a manifest is not.
-/
import Switchboard.Settings.Check
import Switchboard.Settings.Basic
import Switchboard.Toml.Reader

namespace Switchboard

/-- why a file has no text -/
inductive ReadFault where
  | notFound
  /-- the bytes are not UTF-8 -/
  | invalidData
  deriving DecidableEq, Repr

def ReadFault.message : ReadFault → Text
  | notFound => "No such file or directory (os error 2)"
  | invalidData => "stream did not contain valid UTF-8"

def textOfBytes (bytes : List UInt8) : Except ReadFault Text :=
  match String.fromUTF8? bytes.toByteArray with
  | some s => .ok s.toList
  | none => .error .invalidData

/-- why settings or a manifest are not loaded -/
inductive LoadError where
  | unreadable (path : Text) (fault : ReadFault)
  /-- no TOML, or a known field of the wrong type -/
  | unparsable
  | invalid (problems : List SettingsProblem)
  deriving DecidableEq, Repr

/-- the error in words; what is wrong with a text that does not parse is not told -/
def LoadError.message : LoadError → Text
  | unreadable path fault => "failed to read " ++ path ++ ": " ++ fault.message
  | unparsable => "parse error"
  | invalid problems => "validation failed: " ++ Text.join ", " (problems.map SettingsProblem.message)

namespace Toml

/-- what a field of a section holds, if the section gives it -/
abbrev Fields := Text → Option Value

/-- The fields of a section with the given names. A moment is a section without any of them. -/
def Value.fields? (names : List Text) : Value → Option Fields
  | .table entries => some fun name => entries.lookup name
  | .array items => some fun name => (names.idxOf? name).bind fun i => items[i]?
  | .moment _ => some fun _ => none
  | _ => none

def Value.text? : Value → Option Text
  | .string t => some t
  | _ => none

def Value.natural? : Value → Option Nat
  | .integer i => if 0 ≤ i then some i.toNat else none
  | _ => none

def Value.boolean? : Value → Option Bool
  | .boolean b => some b
  | _ => none

def Value.texts? : Value → Option (List Text)
  | .array items => items.mapM Value.text?
  | _ => none

/-- the field of that name read by `read`, or the default; nothing if the field is of the wrong type -/
def Fields.get {α : Type} (fields : Fields) (read : Value → Option α) (name : Text) (default : α) : Option α :=
  match fields name with
  | none => some default
  | some v => read v

end Toml

open Toml

def ServerSettings.ofValue? (v : Value) : Option ServerSettings := do
  let fields ← v.fields? ["bind_address", "base_url", "request_timeout_secs"]
  let d : ServerSettings := {}
  let bindAddress ← fields.get Value.text? "bind_address" d.bindAddress
  let baseUrl ← fields.get Value.text? "base_url" d.baseUrl
  let requestTimeoutSecs ← fields.get Value.natural? "request_timeout_secs" d.requestTimeoutSecs
  pure { bindAddress, baseUrl, requestTimeoutSecs }

def RoutingSettings.ofValue? (v : Value) : Option RoutingSettings := do
  let fields ← v.fields?
    ["api_prefix", "controller_method_delimiter", "controllers_dir", "middlewares_dir", "middleware_manifest"]
  let d : RoutingSettings := {}
  let apiMount ← fields.get Value.text? "api_prefix" d.apiMount
  let delimiter ← fields.get Value.text? "controller_method_delimiter" d.delimiter
  let controllersDir ← fields.get Value.text? "controllers_dir" d.controllersDir
  let middlewaresDir ← fields.get Value.text? "middlewares_dir" d.middlewaresDir
  let manifestFile ← fields.get Value.text? "middleware_manifest" d.manifestFile
  pure { apiMount, delimiter, controllersDir, middlewaresDir, manifestFile }

def RouteSettings.ofValue? (v : Value) : Option RouteSettings := do
  let fields ← v.fields? ["web", "api"]
  let web ← fields.get Value.texts? "web" []
  let api ← fields.get Value.texts? "api" []
  pure { web, api }

def ObservabilitySettings.ofValue? (v : Value) : Option ObservabilitySettings := do
  let fields ← v.fields? ["log_level", "log_format", "metrics_enabled", "metrics_address"]
  let d : ObservabilitySettings := {}
  let logLevel ← fields.get Value.text? "log_level" d.logLevel
  let logFormat ← fields.get Value.text? "log_format" d.logFormat
  let metricsEnabled ← fields.get Value.boolean? "metrics_enabled" d.metricsEnabled
  let metricsAddress ← fields.get Value.text? "metrics_address" d.metricsAddress
  pure { logLevel, logFormat, metricsEnabled, metricsAddress }

def Settings.ofEntries? (entries : List (Text × Value)) : Option Settings := do
  let fields : Fields := fun name => entries.lookup name
  let server ← fields.get ServerSettings.ofValue? "server" {}
  let routing ← fields.get RoutingSettings.ofValue? "routing" {}
  let routes ← fields.get RouteSettings.ofValue? "routes" {}
  let observability ← fields.get ObservabilitySettings.ofValue? "observability" {}
  pure { server, routing, routes, observability }

def Settings.parse (content : Text) : Except LoadError Settings :=
  match (document content).bind Settings.ofEntries? with
  | none => .error .unparsable
  | some settings => if settings.problems = [] then .ok settings else .error (.invalid settings.problems)

def Settings.load (path : Text) (content : Except ReadFault Text) : Except LoadError Settings :=
  match content with
  | .error fault => .error (.unreadable path fault)
  | .ok content => Settings.parse content

/-! ## The manifest -/

/-- the key under which a moment stands where a table is wanted -/
def momentKey : Text := "$__toml_private_datetime"

/-- the texts of a table by their keys -/
def textTable? : Value → Option (List (Text × Text))
  | .table entries => entries.mapM fun (key, v) => v.text?.map fun t => (key, t)
  | .moment t => some [(momentKey, t)]
  | _ => none

def Manifest.parse (content : Text) : Except LoadError Manifest :=
  let middlewares? := (document content).bind fun entries =>
    Fields.get (fun name => entries.lookup name) textTable? "middlewares" []
  match middlewares? with
  | none => .error .unparsable
  | some middlewares => .ok { middlewares }

def Manifest.load (path : Text) (content : Except ReadFault Text) : Except LoadError Manifest :=
  match content with
  | .error fault => .error (.unreadable path fault)
  | .ok content => Manifest.parse content

end Switchboard
