/-
The command line: `[-c|--config PATH] [serve|routes]`.

`Invocation.ofArguments` reads the arguments; `Cli.run` starts the application from its files and either prints the
route listing or hands over a server that is ready to serve. Files are read through a function, so that a start depends
on nothing else. The start stops at the first error: settings, manifest, web routes, API routes.

The program writes its log to where it prints, all of it before the listing. An outcome holds the two apart: the events
of the start, of which the log shows those of its level in its format, and the text that is printed besides.
-/
import Switchboard.App.Basic
import Switchboard.Settings.Load

namespace Switchboard

/-- what the program is asked to do once it has started -/
inductive Command where
  | serve
  | routes
  deriving DecidableEq, Repr

inductive HelpTopic where
  | program
  | command (command : Command)
  | help
  deriving DecidableEq, Repr

/-- what the arguments ask for -/
inductive Invocation where
  | start (config : Text) (command : Command)
  | help (topic : HelpTopic)
  | refused
  deriving DecidableEq, Repr

namespace Invocation

/-- the settings file if none is named -/
def defaultConfig : Text := "config/app.toml"

/-- arguments after a command: none, but for a request for help -/
def afterCommand (config : Text) (command : Command) : List Text → Invocation
  | [] => start config command
  | argument :: rest =>
    if Text.startsWith "-h" argument || argument = ("--help" : Text) then help (.command command)
    else if argument = ("--" : Text) && rest = [] then start config command
    else refused

/-- arguments after `help`: at most a command -/
def afterHelp : List Text → Invocation
  | [] => help .program
  | [argument] =>
    if argument = ("serve" : Text) then help (.command .serve)
    else if argument = ("routes" : Text) then help (.command .routes)
    else if argument = ("help" : Text) then help .help
    else refused
  | _ => refused

/-- the value that an argument gives to the option for the settings file; nothing within if it is the next argument -/
def configValue? (argument : Text) : Option (Option Text) :=
  match Text.after? "--config" argument, Text.after? "-c" argument with
  | some [], _ => some none
  | some ('=' :: value), _ => some (some value)
  | some _, _ => none
  | none, some [] => some none
  | none, some ('=' :: value) => some (some value)
  | none, some value => some (some value)
  | none, none => none

/-- whether an argument may be the value of an option that stands before it -/
def isValue (argument : Text) : Bool :=
  !Text.startsWith ['-'] argument || argument = ['-']

/-- arguments up to a command, `config` being the settings file if it has been named -/
def ofOptions (config : Option Text) : List Text → Invocation
  | [] => start (config.getD defaultConfig) .serve
  | argument :: rest =>
    if Text.startsWith "-h" argument || argument = ("--help" : Text) then help .program
    else if argument = ("--" : Text) then
      if rest = [] then start (config.getD defaultConfig) .serve else refused
    else if argument = ("serve" : Text) then afterCommand (config.getD defaultConfig) .serve rest
    else if argument = ("routes" : Text) then afterCommand (config.getD defaultConfig) .routes rest
    else if argument = ("help" : Text) then afterHelp rest
    else
      match configValue? argument, rest with
      | some (some value), rest => if config.isSome || value = [] then refused else ofOptions (some value) rest
      | some none, value :: rest =>
        if config.isSome || value = [] || !isValue value then refused else ofOptions (some value) rest
      | some none, [] => refused
      | none, _ => refused

def ofArguments (arguments : List Text) : Invocation :=
  ofOptions none arguments

end Invocation

def textOfLines (lines : List Text) : Text :=
  lines.flatMap fun line => line ++ ['\n']

def HelpTopic.text : HelpTopic → Text
  | program => textOfLines
    ["Serve a controller-based web application from route definitions",
      "",
      "Usage: webscaffold [OPTIONS] [COMMAND]",
      "",
      "Commands:",
      "  serve   Wire the routes and serve HTTP until Ctrl+C",
      "  routes  Resolve every route and print the route table without serving",
      "  help    Print this message or the help of the given subcommand(s)",
      "",
      "Options:",
      "  -c, --config <CONFIG>  Path to the application config file [default: config/app.toml]",
      "  -h, --help             Print help"]
  | command .serve => textOfLines
    ["Wire the routes and serve HTTP until Ctrl+C",
      "",
      "Usage: webscaffold serve",
      "",
      "Options:",
      "  -h, --help  Print help"]
  | command .routes => textOfLines
    ["Resolve every route and print the route table without serving",
      "",
      "Usage: webscaffold routes",
      "",
      "Options:",
      "  -h, --help  Print help"]
  | help => textOfLines
    ["Print this message or the help of the given subcommand(s)",
      "",
      "Usage: webscaffold help [COMMAND]...",
      "",
      "Arguments:",
      "  [COMMAND]...  Print help for the subcommand(s)"]

/-- why the program did not start -/
inductive StartError where
  | load (error : LoadError)
  | route (halt : Halt)
  deriving DecidableEq, Repr

def StartError.message : StartError → Text
  | load error => error.message
  | route (.refused error) => error.message
  | route (.unhostable path) => "the server cannot hold the route " ++ path

/-- how a run of the program ends -/
inductive Outcome where
  /-- with an exit status, the events of the start, what was printed besides the log, and the error that stopped it, if
  any -/
  | exited (status : Nat) (log : List Event) (output : Text) (error : Option StartError)
  /-- not by itself: the server is ready to serve -/
  | serving (server : Server App.Instance UserStore) (site : App.AppSite)

namespace Cli

abbrev Files := Text → Except ReadFault Text

/-- reads the manifest and builds the router -/
def wire (files : Files) (settings : Settings) : Except StartError App.AppRouter × App.AppSite :=
  let file := settings.routing.manifestFile
  match Manifest.load file (files file) with
  | .error e => (.error (.load e), App.siteOf .empty)
  | .ok manifest =>
    match App.build .newestFirst settings manifest .empty with
    | (.error halt, site) => (.error (.route halt), site)
    | (.ok router, site) => (.ok router, site)

/-- the event that begins the log of a start from these settings -/
def opening (config : Text) (settings : Settings) : Event :=
  .starting config settings.server.bindAddress (settings.routes.web.length + settings.routes.api.length)

/-- starts the application from a settings file; before the settings are read nothing is logged -/
def start (files : Files) (config : Text) : Except StartError App.AppRouter × App.AppSite :=
  match Settings.load config (files config) with
  | .error e => (.error (.load e), App.siteOf .empty)
  | .ok settings =>
    let (result, site) := wire files settings
    (result, { site with journal := opening config settings :: site.journal })

/-- exit status of a start that failed; a host that could not hold a route breaks off -/
def failureStatus : StartError → Nat
  | .route (.unhostable _) => 101
  | _ => 1

/-- the route listing: the display of each route with a line end -/
def routeListing (router : App.AppRouter) : Text :=
  textOfLines (router.registered.map RouteSummary.display)

def run (files : Files) (arguments : List Text) : Outcome :=
  match Invocation.ofArguments arguments with
  | .refused => .exited 2 [] [] none
  | .help topic => .exited 0 [] topic.text none
  | .start config command =>
    match start files config with
    | (.error e, site) => .exited (failureStatus e) site.journal [] (some e)
    | (.ok router, site) =>
      match command, router.finish with
      | .routes, _ => .exited 0 site.journal (routeListing router) none
      | .serve, .ok server => .serving server site
      | .serve, .error e => .exited 1 site.journal [] (some (.route (.refused e)))

end Cli

end Switchboard
