/-
The module registry: an explicit table of an application's controllers and middlewares.

Middlewares are registered under the stem of their artifact file, and a name in a route line reaches them through the
manifest. What is not in the table is reported with the place where its artifact was expected: `artifactStem` gives the
file of a controller, `UserController` being expected in `user.rs`.

File paths are texts. Nothing is normalised when they are joined. The stem is taken from the last component, where empty
components and single dots do not count; a path that ends in a double dot, or that has no component at all, has no stem.
-/
import Switchboard.Module.Basic
import Switchboard.Settings.Basic

namespace Switchboard

/-! ## File paths -/

namespace FilePath

/-- `right` below `left`; an absolute `right` stands alone -/
def join (left right : Text) : Text :=
  if Text.startsWith ['/'] right then right
  else if left = [] || left.getLast? = some '/' then left ++ right
  else left ++ ['/'] ++ right

/-- last component, unless it is a step to the parent -/
def fileName? (path : Text) : Option Text :=
  (((path.split '/').filter fun part => part ≠ [] && part ≠ ['.']).getLast?).filter (· ≠ ['.', '.'])

/-- a file name up to its last dot; the whole name if it has no dot but at its start -/
def nameStem (name : Text) : Text :=
  match (name.split '.').dropLast with
  | [] => name
  | [[]] => name
  | parts => Text.join ['.'] parts

/-- stem of the last component -/
def stem? (path : Text) : Option Text :=
  (fileName? path).map nameStem

end FilePath

/-! ## The registry -/

/-- a letter of a controller name appended to the stem written so far -/
def stemStep (stem : Text) (c : Char) : Text :=
  if c.isUpper then
    if stem = [] || stem.getLast? = some '_' then stem ++ [c.toLower] else stem ++ ['_', c.toLower]
  else stem ++ [c]

/-- snake-case file stem of a controller name, without the word `Controller` at its end -/
def artifactStem (name : Text) : Text :=
  let base := match Text.before? "Controller" name with
    | none => name
    | some [] => name
    | some base => base
  base.foldl stemStep []

structure ModuleRegistry (ι ρ ω : Type) where
  controllersDir : Text
  middlewaresDir : Text
  manifest : Manifest
  controllers : List (Text × Controller ι ρ ω) := []
  /-- middlewares by the stem of their artifact file -/
  middlewares : List (Text × Middleware) := []

namespace ModuleRegistry

variable {ι ρ ω : Type}

def empty (settings : RoutingSettings) (manifest : Manifest) : ModuleRegistry ι ρ ω :=
  { controllersDir := settings.controllersDir, middlewaresDir := settings.middlewaresDir, manifest }

/-- the registry with a controller; a name given again takes the later one -/
def withController (name : Text) (controller : Controller ι ρ ω) (registry : ModuleRegistry ι ρ ω) :
    ModuleRegistry ι ρ ω :=
  { registry with controllers := (name, controller) :: registry.controllers }

/-- the registry with a middleware artifact; a stem given again takes the later one -/
def withMiddleware (stem : Text) (middleware : Middleware) (registry : ModuleRegistry ι ρ ω) :
    ModuleRegistry ι ρ ω :=
  { registry with middlewares := (stem, middleware) :: registry.middlewares }

/-- where the artifact of a controller is expected -/
def controllerPath (registry : ModuleRegistry ι ρ ω) (name : Text) : Text :=
  FilePath.join registry.controllersDir (artifactStem name ++ (".rs" : Text))

def loadController (registry : ModuleRegistry ι ρ ω) (name : Text) : Except RouteError (Controller ι ρ ω) :=
  match registry.controllers.lookup name with
  | some controller => .ok controller
  | none => .error (.controllerMissing name (registry.controllerPath name))

/-- the middleware whose artifact the manifest maps to that name -/
def loadMiddleware (registry : ModuleRegistry ι ρ ω) (name : Text) : Except RouteError Middleware :=
  match registry.manifest.file? name with
  | none => .error (.middlewareUnmapped name)
  | some file =>
    match registry.middlewares.lookup ((FilePath.stem? file).getD file) with
    | some middleware => .ok middleware
    | none => .error (.middlewareMissing name (FilePath.join registry.middlewaresDir file))

def source (registry : ModuleRegistry ι ρ ω) : ModuleSource ι ρ ω :=
  { controller := registry.loadController, middleware := registry.loadMiddleware }

section Lookup

variable {α : Type} {registry : ModuleRegistry ι ρ ω} {name : Text}

theorem mem_of_lookup {entries : List (Text × α)} {value : α} (h : entries.lookup name = some value) :
    (name, value) ∈ entries := by
  obtain ⟨before, after, rfl, -⟩ := List.lookup_eq_some_iff.1 h
  exact List.mem_append_right _ List.mem_cons_self

/-- a controller that is given was registered under its name -/
theorem mem_of_controller {controller : Controller ι ρ ω} (h : registry.source.controller name = .ok controller) :
    (name, controller) ∈ registry.controllers := by
  simp only [source, loadController] at h
  split at h
  · cases h
    exact mem_of_lookup ‹_›
  · cases h

theorem exists_mem_of_middleware {middleware : Middleware} (h : registry.source.middleware name = .ok middleware) :
    ∃ stem, (stem, middleware) ∈ registry.middlewares := by
  simp only [source, loadMiddleware] at h
  split at h
  · cases h
  · split at h
    · cases h
      exact ⟨_, mem_of_lookup ‹_›⟩
    · cases h

end Lookup

end ModuleRegistry

end Switchboard
