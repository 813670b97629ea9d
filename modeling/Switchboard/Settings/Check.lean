/-
Checking settings.

`Settings.problems` lists every problem of the settings, in a fixed order, so that all are reported at once. Route lines
are not looked at here; the router checks them when it registers them.
-/
import Switchboard.Settings.Basic
import Switchboard.Net.SocketAddress

namespace Switchboard

/-- a single problem, with the value at fault -/
inductive SettingsProblem where
  | emptyDelimiter
  | blankInDelimiter (delimiter : Text)
  /-- the API mount path does not start at the root -/
  | relativeApiMount (mount : Text)
  | invalidBindAddress (address : Text)
  | zeroTimeout
  | invalidLogLevel (level : Text)
  | invalidLogFormat (format : Text)
  | invalidMetricsAddress (address : Text)
  deriving DecidableEq, Repr

def SettingsProblem.message : SettingsProblem → Text
  | emptyDelimiter => "routing.controller_method_delimiter must not be empty"
  | blankInDelimiter d => "routing.controller_method_delimiter `" ++ d ++ "` must not contain whitespace"
  | relativeApiMount m => "routing.api_prefix `" ++ m ++ "` must start with `/`"
  | invalidBindAddress a => "server.bind_address `" ++ a ++ "` is not a valid socket address"
  | zeroTimeout => "server.request_timeout_secs must be greater than zero"
  | invalidLogLevel l => "observability.log_level `" ++ l ++ "` is not one of trace, debug, info, warn, error"
  | invalidLogFormat f => "observability.log_format `" ++ f ++ "` is not one of pretty, json"
  | invalidMetricsAddress a => "observability.metrics_address `" ++ a ++ "` is not a valid socket address"

def logLevels : List Text :=
  ["trace", "debug", "info", "warn", "error"]

def logFormats : List Text :=
  ["pretty", "json"]

def RoutingSettings.problems (s : RoutingSettings) : List SettingsProblem :=
  (if s.delimiter = [] then [.emptyDelimiter]
    else if s.delimiter.any Text.isBlank then [.blankInDelimiter s.delimiter]
    else []) ++
  if Text.startsWith ['/'] s.apiMount then [] else [.relativeApiMount s.apiMount]

def ServerSettings.problems (s : ServerSettings) : List SettingsProblem :=
  (if SocketAddress.isValid s.bindAddress then [] else [.invalidBindAddress s.bindAddress]) ++
  if s.requestTimeoutSecs = 0 then [.zeroTimeout] else []

/-- Problems of the logging and metrics settings. The metrics address counts only if metrics are enabled. -/
def ObservabilitySettings.problems (s : ObservabilitySettings) : List SettingsProblem :=
  (if logLevels.contains s.logLevel.toLower then [] else [.invalidLogLevel s.logLevel]) ++
  (if logFormats.contains s.logFormat then [] else [.invalidLogFormat s.logFormat]) ++
  if s.metricsEnabled && !SocketAddress.isValid s.metricsAddress then [.invalidMetricsAddress s.metricsAddress] else []

def Settings.problems (s : Settings) : List SettingsProblem :=
  s.routing.problems ++ s.server.problems ++ s.observability.problems

end Switchboard
