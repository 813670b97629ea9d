/-
The settings of an application, with a default for each, and the middleware manifest, which names the artifact files
behind the middleware names of route lines.
-/
import Switchboard.Text.Basic

namespace Switchboard

/-- how the server is reached -/
structure ServerSettings where
  bindAddress : Text := "0.0.0.0:8000"
  baseUrl : Text := "http://localhost:8000"
  requestTimeoutSecs : Nat := 30
  deriving DecidableEq, Repr

/-- how route lines are read and where modules are expected -/
structure RoutingSettings where
  /-- mount path of every API route -/
  apiMount : Text := "/api"
  /-- what stands between controller and action in a route line -/
  delimiter : Text := "@"
  controllersDir : Text := "src/app/controllers"
  middlewaresDir : Text := "src/app/middlewares"
  /-- file of the middleware manifest -/
  manifestFile : Text := "config/middlewares.toml"
  deriving DecidableEq, Repr

structure RouteSettings where
  /-- lines without a mount path -/
  web : List Text := []
  /-- lines under the API mount path -/
  api : List Text := []
  deriving DecidableEq, Repr

/-- logging and metrics -/
structure ObservabilitySettings where
  logLevel : Text := "info"
  logFormat : Text := "pretty"
  metricsEnabled : Bool := false
  metricsAddress : Text := "0.0.0.0:9090"
  deriving DecidableEq, Repr

structure Settings where
  server : ServerSettings := {}
  routing : RoutingSettings := {}
  routes : RouteSettings := {}
  observability : ObservabilitySettings := {}
  deriving DecidableEq, Repr

/-- log filter that gives the program and the request tracing one level -/
def ObservabilitySettings.directives (level : Text) : Text :=
  "webscaffold=" ++ level.toLower ++ ",tower_http=" ++ level.toLower

/-! ## The manifest -/

/-- artifact files by middleware name; a name occurs at most once -/
structure Manifest where
  middlewares : List (Text × Text) := []
  deriving DecidableEq, Repr

namespace Manifest

def file? (manifest : Manifest) (name : Text) : Option Text :=
  manifest.middlewares.lookup name

def size (manifest : Manifest) : Nat :=
  manifest.middlewares.length

end Manifest

end Switchboard
