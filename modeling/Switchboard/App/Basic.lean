/-
The sample application: its middlewares and modules, and the router that its settings describe.
-/
import Switchboard.App.Controllers
import Switchboard.Host.Answer
import Switchboard.Router.Basic

namespace Switchboard

/-- what a server with these settings tells about itself -/
def ServerSettings.handle (s : ServerSettings) : ServerHandle :=
  { baseUrl := Text.dropTrailing '/' s.baseUrl, bindAddress := s.bindAddress }

namespace App

/-! ## Middlewares -/

/-- stamps the request with the time -/
def timestamp : Middleware := fun clock request =>
  .forward { request with stamp := some clock } id

/-- whether the content type is JSON, parameters and blanks around it aside -/
def claimsJson (request : Request) : Bool :=
  (request.plainHeader? "content-type").any fun value =>
    Text.toLower (Text.trim ((value.split ';').headD [])) = ("application/json" : Text)

/-- answers requests that carry a body other than JSON -/
def requireJson : Middleware := fun _ request =>
  if [Method.post.verb, Method.put.verb].contains request.verb && !claimsJson request then
    .answer (messageAnswer 415 "Expected an application/json body")
  else .forward request id

/-! ## The application -/

/-- where the application runs -/
abbrev AppSite := Site Instance UserStore

abbrev AppRouter := Router Instance StoreAccess UserStore

/-- every controller and middleware of the application -/
def modules (order : VisitOrder) (settings : RoutingSettings) (manifest : Manifest) :
    ModuleRegistry Instance StoreAccess UserStore :=
  (ModuleRegistry.empty settings manifest)
    |>.withController "HomeController" homeController
    |>.withController "UserController" (userController order)
    |>.withMiddleware "timestamp" timestamp
    |>.withMiddleware "require_json" requireJson

/-- a router with the application's modules and without a server -/
def emptyRouter (order : VisitOrder) (settings : Settings) (manifest : Manifest) : AppRouter :=
  Router.empty (modules order settings.routing manifest).source settings.routing

/-- the calls that bind a server and register the configured routes -/
def routeCalls (settings : Settings) (access : Option StoreAccess) :
    List (Router.Call Instance StoreAccess UserStore) :=
  [.init (Host.server settings.server.handle) access, .web settings.routes.web, .api settings.routes.api]

/-- a site around a user store -/
def siteOf (store : UserStore) : AppSite :=
  { world := store }

/-- The router of the application: the configured routes, with access to the store, and GET requests that no route
answers sent home. -/
def build (order : VisitOrder) (settings : Settings) (manifest : Manifest) (store : UserStore) :
    Except Halt AppRouter × AppSite :=
  (emptyRouter order settings manifest).run (siteOf store)
    (routeCalls settings (some .granted) ++ [.catchGetRequests redirectHome])

/-- the configured routes alone, without access to a store -/
def buildWithoutStore (order : VisitOrder) (settings : Settings) (manifest : Manifest) (store : UserStore) :
    Except Halt AppRouter × AppSite :=
  (emptyRouter order settings manifest).run (siteOf store) (routeCalls settings none)

end App

end Switchboard
